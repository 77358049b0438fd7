import SurveyForm.Path
/-!
Absolute paths.  What is resolved at an absolute base is absolute again, however it is
written, and a step up from there goes back to a slash.
-/

namespace SurveyForm.Path

/-- Whether a path starts with a slash. -/
def IsAbsolute (path : String) : Prop :=
  path.toList.head? = some '/'

instance (path : String) : Decidable (IsAbsolute path) :=
  inferInstanceAs (Decidable (_ = _))

/-- Whether a step up takes off a last name with the slash before it, and nothing else. -/
def StepsToSlash (base : String) : Prop :=
  ∃ name, '/' ∉ name ∧ base.toList = parent base.toList ++ '/' :: name

variable {base : String}

theorem isAbsolute_iff : IsAbsolute base ↔ ∃ rest, base.toList = '/' :: rest :=
  List.head?_eq_some_iff

theorem isAbsolute_slash_append (name : String) : IsAbsolute ("/" ++ name) := by
  rw [isAbsolute_iff, String.toList_append]
  exact ⟨name.toList, rfl⟩

theorem IsAbsolute.append (hbase : IsAbsolute base) (rest : String) :
    IsAbsolute (base ++ rest) := by
  obtain ⟨chars, hchars⟩ := isAbsolute_iff.mp hbase
  rw [isAbsolute_iff, String.toList_append, hchars]
  exact ⟨chars ++ rest.toList, rfl⟩

theorem eq_parent_append {chars : List Char} (hslash : '/' ∈ chars) :
    ∃ name, '/' ∉ name ∧ chars = parent chars ++ '/' :: name := by
  have hsplit := List.takeWhile_append_dropWhile (p := (· != '/')) (l := chars.reverse)
  have hbefore : '/' ∉ chars.reverse.takeWhile (· != '/') := by
    intro hmem
    simpa using List.all_eq_true.mp List.all_takeWhile _ hmem
  rw [parent, if_pos hslash]
  cases hrest : chars.reverse.dropWhile (· != '/') with
  | nil =>
      -- Otherwise the whole path would be a name.
      rw [hrest, List.append_nil] at hsplit
      rw [hsplit] at hbefore
      exact absurd (List.mem_reverse.mpr hslash) hbefore
  | cons first front =>
      have hfirst : first = '/' := by
        have hstop := List.head?_dropWhile_not (· != '/') chars.reverse
        simpa [hrest] using hstop
      refine ⟨(chars.reverse.takeWhile (· != '/')).reverse, by simpa using hbefore, ?_⟩
      rw [hrest, hfirst] at hsplit
      have hwhole := congrArg List.reverse hsplit
      simpa using hwhole.symm

/-- An absolute path always has a slash to go back to. -/
theorem IsAbsolute.stepsToSlash (hbase : IsAbsolute base) : StepsToSlash base := by
  obtain ⟨rest, hrest⟩ := isAbsolute_iff.mp hbase
  exact eq_parent_append (hrest ▸ List.mem_cons_self)

/-- Up from an absolute path there is nothing left, or an absolute path. -/
theorem IsAbsolute.parent (hbase : IsAbsolute base) :
    Path.parent base.toList = [] ∨ ∃ rest, Path.parent base.toList = '/' :: rest := by
  obtain ⟨rest, hrest⟩ := isAbsolute_iff.mp hbase
  obtain ⟨name, -, hname⟩ := hbase.stepsToSlash
  cases hparent : Path.parent base.toList with
  | nil => exact .inl rfl
  | cons first front =>
      rw [hparent, hrest, List.cons_append] at hname
      exact .inr ⟨front, by rw [(List.cons.inj hname).1]⟩

/-- An absolute path means itself at every base. -/
theorem IsAbsolute.resolve_eq (hbase : IsAbsolute base) (other : String) :
    Path.resolve base other = base := by
  obtain ⟨rest, hrest⟩ := isAbsolute_iff.mp hbase
  rw [Path.resolve, hrest, resolveChars_absolute, ← hrest, String.ofList_toList]

/-- At an absolute base every reference becomes absolute. -/
theorem IsAbsolute.resolve (hbase : IsAbsolute base) (raw : String) :
    IsAbsolute (Path.resolve raw base) := by
  obtain ⟨rest, hrest⟩ := isAbsolute_iff.mp hbase
  rw [isAbsolute_iff, Path.resolve, String.toList_ofList]
  unfold resolveChars
  split
  · exact ⟨_, rfl⟩
  · rcases hbase.parent with hparent | ⟨front, hparent⟩
    · exact ⟨_, by rw [hparent]; rfl⟩
    · exact ⟨_, by rw [hparent]; rfl⟩
  · rw [below, hrest]
    split
    · exact ⟨rest, rfl⟩
    · exact ⟨_, rfl⟩

/-- So does every reference after a chain of others. -/
theorem IsAbsolute.foldl_resolve (hbase : IsAbsolute base) (references : List String) :
    IsAbsolute (references.foldl (fun path reference => Path.resolve reference path) base) := by
  induction references generalizing base with
  | nil => exact hbase
  | cons reference rest ih => exact ih (hbase.resolve reference)

end SurveyForm.Path
