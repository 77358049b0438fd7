import SurveyForm.Expr.Token
import SurveyForm.Proofs.Instance.Paths
import SurveyForm.Proofs.Path.Absolute
import SurveyForm.Xml.Character
/-!
Paths side by side.  A sibling is named by a step up and its name, or by its name at the path
around it; both lead to one path, since no name holds a slash or begins with a dot.
-/

namespace SurveyForm

namespace Xml

/-- A name of an element that has no colon, and no blank that would break it up. -/
structure IsPlainName (name : String) : Prop where
  isLocal : isLocalName name = true
  unbroken : ∀ c ∈ name.toList, Text.isBlank c = false

instance (name : String) : Decidable (IsPlainName name) :=
  decidable_of_iff (isLocalName name = true ∧ (name.toList.all fun c => !Text.isBlank c) = true)
    ⟨fun hname => ⟨hname.1, by simpa using hname.2⟩,
      fun hname => ⟨hname.isLocal, by simpa using hname.unbroken⟩⟩

/-- The characters of names, and no others, stand between the slashes of a path. -/
def IsPlainPath (path : String) : Prop :=
  ∀ c ∈ path.toList, c = '/' ∨ (isNameChar c = true ∧ Text.isBlank c = false)

instance (path : String) : Decidable (IsPlainPath path) :=
  decidable_of_iff
    ((path.toList.all fun c => c = '/' || (isNameChar c && !Text.isBlank c)) = true)
    (by simp [IsPlainPath])

variable {name : String} {c : Char}

theorem isNameChar_of_isNameStart (hstart : isNameStart c = true) : isNameChar c = true := by
  rw [isNameChar, hstart, Bool.true_or]

theorem IsPlainName.exists_eq_cons (hname : IsPlainName name) :
    ∃ first rest, name.toList = first :: rest ∧ isNameStart first = true ∧
      ∀ c ∈ rest, isNameChar c = true := by
  have hlocal := hname.isLocal
  unfold isLocalName at hlocal
  split at hlocal
  · contradiction
  · next first rest hchars =>
      simp only [Bool.and_eq_true, List.all_eq_true] at hlocal
      exact ⟨first, rest, hchars, hlocal.1.1, hlocal.1.2⟩

theorem IsPlainName.isNameChar_of_mem (hname : IsPlainName name) (hc : c ∈ name.toList) :
    isNameChar c = true := by
  obtain ⟨first, rest, hchars, hfirst, hrest⟩ := hname.exists_eq_cons
  rw [hchars] at hc
  rcases List.mem_cons.mp hc with rfl | hc
  · exact isNameChar_of_isNameStart hfirst
  · exact hrest c hc

theorem IsPlainName.isPlainPath (hname : IsPlainName name) : IsPlainPath name :=
  fun c hc => .inr ⟨hname.isNameChar_of_mem hc, hname.unbroken c hc⟩

theorem IsPlainName.not_isAbsolute (hname : IsPlainName name) : ¬ Path.IsAbsolute name := by
  obtain ⟨first, rest, hchars, hfirst, -⟩ := hname.exists_eq_cons
  rw [Path.isAbsolute_iff, hchars]
  rintro ⟨others, heq⟩
  obtain rfl := (List.cons.inj heq).1
  revert hfirst
  decide

theorem IsPlainName.slash_not_mem (hname : IsPlainName name) : '/' ∉ name.toList := by
  intro hslash
  have hchar := hname.isNameChar_of_mem hslash
  revert hchar
  decide

theorem IsPlainPath.append {path rest : String} (hpath : IsPlainPath path)
    (hrest : IsPlainPath rest) : IsPlainPath (path ++ rest) := by
  intro c hc
  rw [String.toList_append, List.mem_append] at hc
  exact hc.elim (hpath c) (hrest c)

/-- The marks of the grammar do not stand in names. -/
theorem isWordChar_of_isNameChar (hchar : isNameChar c = true) (hblank : Text.isBlank c = false) :
    Token.isWordChar c = true := by
  have hnone : ['\'', '"', '<', '=', '>', '(', ')', ',', '!'].all (!isNameChar ·) = true := by
    decide
  have hmark : ∀ mark ∈ ['\'', '"', '<', '=', '>', '(', ')', ',', '!'], c ≠ mark := by
    rintro mark hmark rfl
    simpa [hchar] using List.all_eq_true.mp hnone c hmark
  simp only [List.mem_cons, List.not_mem_nil, or_false, forall_eq_or_imp, forall_eq] at hmark
  simp [Token.isWordChar, Token.isQuote, Token.isOperatorChar, hblank, hmark]

theorem IsPlainPath.isWordChar_of_mem {path : String} (hpath : IsPlainPath path)
    (hc : c ∈ path.toList) : Token.isWordChar c = true := by
  rcases hpath c hc with rfl | ⟨hchar, hblank⟩
  · decide
  · exact isWordChar_of_isNameChar hchar hblank

theorem IsPlainPath.ampersand_not_mem {path : String} (hpath : IsPlainPath path) :
    '&' ∉ path.toList := by
  intro hmem
  have hchar := hpath '&' hmem
  revert hchar
  decide

end Xml

namespace Path

variable {name : String}

/-- A step up from a child leads to what it is a child of. -/
theorem parent_append (path : String) (hname : '/' ∉ name.toList) :
    parent (path ++ "/" ++ name).toList = path.toList := by
  rw [toList_append_name, parent, if_pos (by simp), List.reverse_append, List.reverse_cons,
    List.append_assoc, List.dropWhile_append_of_pos (bne_slash_of_mem_reverse hname)]
  simp

/-- A step up and down again leads from a child to its sibling. -/
theorem resolve_up (path other : String) (hname : '/' ∉ name.toList) :
    resolve ("../" ++ other) (path ++ "/" ++ name) = path ++ "/" ++ other := by
  have hreference : ("../" ++ other).toList = '.' :: '.' :: '/' :: other.toList := by simp
  rw [resolve, hreference, resolveChars_up, parent_append path hname, ← String.toList_inj]
  simp

/-- A name means the child of that name. -/
theorem resolve_name (path : String) (hname : Xml.IsPlainName name) :
    resolve name path = path ++ "/" ++ name := by
  obtain ⟨first, rest, hchars, hfirst, -⟩ := hname.exists_eq_cons
  have hslash : first ≠ '/' := by
    rintro rfl
    revert hfirst
    decide
  have hdot : first ≠ '.' := by
    rintro rfl
    revert hfirst
    decide
  have hlevel : sameLevelName (first :: rest) = first :: rest := by
    unfold sameLevelName
    split
    · next heq => exact absurd (List.cons.inj heq).1 hdot
    · rfl
  have hbelow : resolveChars path.toList (first :: rest) = below path.toList (first :: rest) := by
    unfold resolveChars
    split
    · next heq => exact absurd (List.cons.inj heq).1 hslash
    · next heq => exact absurd (List.cons.inj heq).1 hdot
    · rfl
  rw [resolve, hchars, hbelow, below, hlevel, if_neg (by simp [hdot]), ← hchars,
    ← String.toList_inj]
  simp

end Path

end SurveyForm
