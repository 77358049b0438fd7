import SurveyForm.Options
/-!
What options can be read from a map.  They are read exactly if every key is the name of an
option and every value fits its name, and then they are the ones given, and the standard
ones where none is given.  What is wrong with any other map is reported as a problem of the
options only if it can be put into words: unknown names are listed in order, and values are
shown.
-/

namespace SurveyForm

namespace Value

/-- The values that are neither dates nor made of other values. -/
inductive IsScalar : Value → Prop
  | null : IsScalar .null
  | bool (b : Bool) : IsScalar (.bool b)
  | int (n : Int) : IsScalar (.int n)
  | float (x : Float) : IsScalar (.float x)
  | text (s : String) : IsScalar (.text s)

/-- The entries of a map: no two keys are equal. -/
def KeysDiffer (entries : List (Value × Value)) : Prop :=
  entries.Pairwise fun entry other => entry.1.same other.1 = false

/-- Whether entries give a value under a name. -/
def Gives (entries : List (Value × Value)) (name : String) (value : Value) : Prop :=
  (.text name, value) ∈ entries

/-- Whether all values are texts, or all are numbers. -/
def AreAlike (values : List Value) : Prop :=
  (∀ value ∈ values, ∃ s, value = .text s) ∨ ∀ value ∈ values, value.number?.isSome = true

variable {entries : List (Value × Value)} {name : String} {value : Value}

theorem isKey_iff {key : Value} : key.isKey name = true ↔ key = .text name := by
  cases key <;> simp [isKey]

theorem gives_of_get?_eq (hget : (Value.map entries).get? name = some value) :
    Gives entries name value := by
  rw [get?, Option.map_eq_some_iff] at hget
  obtain ⟨⟨key, held⟩, hfind, rfl⟩ := hget
  have hname : key.isKey name = true := by simpa using List.find?_some hfind
  have hmem : (key, held) ∈ entries := List.mem_of_find?_eq_some hfind
  rwa [isKey_iff.mp hname] at hmem

/-- A map gives one value at most under a name, and it is the one that is found. -/
theorem get?_eq_some_iff (hkeys : KeysDiffer entries) :
    (Value.map entries).get? name = some value ↔ Gives entries name value := by
  constructor
  · exact gives_of_get?_eq
  · intro hgives
    induction entries with
    | nil => contradiction
    | cons entry rest ih =>
        obtain ⟨hfirst, hrest⟩ := List.pairwise_cons.mp hkeys
        rcases List.mem_cons.mp hgives with rfl | hmem
        · simp [get?, isKey]
        · have hother : entry.1.isKey name = false := by
            rw [Bool.eq_false_iff, Ne, isKey_iff]
            intro hkey
            have hdiffer := hfirst _ hmem
            simp [hkey, same, isKey] at hdiffer
          have hfound := ih hrest hmem
          simpa [get?, hother] using hfound

theorem areShown_eq_all (values : List Value) : areShown values = values.all isShown := by
  induction values with
  | nil => rw [areShown, List.all_nil]
  | cons value rest ih => rw [areShown, ih, List.all_cons]

/-- Two scalars can be put in order if they are alike, and in no other case. -/
theorem isSome_atMost?_iff {first second : Value} (hfirst : first.IsScalar)
    (hsecond : second.IsScalar) :
    (atMost? first second).isSome = true ↔ AreAlike [first, second] := by
  cases hfirst <;> cases hsecond <;> simp [atMost?, AreAlike, number?]

/-- The first of several values decides what all of them have to be. -/
theorem areAlike_cons_iff {first : Value} {rest : List Value} (hrest : rest ≠ []) :
    AreAlike (first :: rest) ↔ ∀ value ∈ rest, AreAlike [first, value] := by
  constructor
  · rintro (htexts | hnumbers) value hmem
    · exact .inl (by simp [htexts value (List.mem_cons_of_mem first hmem), htexts first])
    · exact .inr (by simp [hnumbers value (List.mem_cons_of_mem first hmem), hnumbers first])
  · intro hpairs
    obtain ⟨second, hsecond⟩ := List.exists_mem_of_ne_nil rest hrest
    cases hnumber : first.number? with
    | none =>
        have htext : ∀ value ∈ rest, ∀ other ∈ [first, value], ∃ s, other = .text s := by
          intro value hmem
          rcases hpairs value hmem with htexts | hnumbers
          · exact htexts
          · simp [hnumber] at hnumbers
        refine .inl (List.forall_mem_cons.mpr ⟨?_, ?_⟩)
        · exact htext second hsecond first List.mem_cons_self
        · exact fun value hmem => htext value hmem value (by simp)
    | some number =>
        refine .inr (List.forall_mem_cons.mpr ⟨by simp [hnumber], fun value hmem => ?_⟩)
        rcases hpairs value hmem with htexts | hnumbers
        · obtain ⟨s, rfl⟩ := htexts first List.mem_cons_self
          contradiction
        · exact hnumbers value (by simp)

/-- Scalars can be sorted if there is one of them at most, or if they are alike. -/
theorem isSome_sort?_iff {values : List Value} (hvalues : ∀ value ∈ values, value.IsScalar) :
    (sort? values).isSome = true ↔ values.length ≤ 1 ∨ AreAlike values := by
  match values with
  | [] => simp [sort?]
  | [value] => simp [sort?]
  | first :: second :: others =>
      have hsort : (sort? (first :: second :: others)).isSome = true ↔
          ∀ value ∈ second :: others, (atMost? first value).isSome = true := by
        rw [← List.all_eq_true]
        simp only [sort?]
        split
        · next hall => simp [hall]
        · next hall => simp [hall]
      have hlong : ¬ (first :: second :: others).length ≤ 1 := by simp
      rw [hsort, or_iff_right hlong, areAlike_cons_iff (List.cons_ne_nil second others)]
      apply forall₂_congr
      intro value hmem
      exact isSome_atMost?_iff (hvalues first List.mem_cons_self)
        (hvalues value (List.mem_cons_of_mem first hmem))

/-- Sorting shows what it sorts. -/
theorem areShown_of_sort? {values sorted : List Value} (hsort : sort? values = some sorted) :
    areShown sorted = values.all isShown := by
  have hperm : sorted.Perm values := by
    unfold sort? at hsort
    split at hsort
    · obtain rfl := Option.some.inj hsort
      exact .refl _
    · obtain rfl := Option.some.inj hsort
      exact .refl _
    · split at hsort
      · obtain rfl := Option.some.inj hsort
        exact List.mergeSort_perm _ _
      · contradiction
  rw [areShown_eq_all]
  exact hperm.all_eq

end Value

namespace Options

open Value (KeysDiffer Gives)

/-- Whether a problem is one of the options, and not one of putting it into words. -/
def Problem.isReported : Problem → Bool
  | .unorderedNames => false
  | .unshowable => false
  | _ => true

theorem Problem.isReported_about {value : Value} {problem : Problem}
    (hproblem : problem.isReported = true) :
    (Problem.about value problem).isReported = value.isShown := by
  unfold about
  split
  · next hshown => rw [hproblem, hshown]
  · next hshown =>
      rw [Bool.not_eq_true] at hshown
      rw [hshown]
      rfl

/-- Whether a value may be given under a name. -/
def fits (name : String) : Value → Bool
  | .int n => (name = "max_depth" || name = "max_expression_depth") && 1 ≤ n
  | .bool _ => name = "warn_on_diagnostics"
  | .text s => name = "default_text_form" && s ≠ ""
  | _ => false

/-- The value that options have under a name. -/
def value? (options : Options) : String → Option Value
  | "max_depth" => some (.int options.maxDepth)
  | "max_expression_depth" => some (.int options.maxExpressionDepth)
  | "warn_on_diagnostics" => some (.bool options.warnOnDiagnostics)
  | "default_text_form" => some (.text options.defaultTextForm)
  | _ => none

/-- The keys that are no names of options. -/
def unknownKeys (entries : List (Value × Value)) : List Value :=
  (entries.map (·.1)).filter (!isName ·)

/-- The value under a name, if there is one that does not fit. -/
def misfit? (entries : List (Value × Value)) (name : String) : Option Value :=
  ((Value.map entries).get? name).filter (!fits name ·)

/-- The values that do not fit their names, in the order in which the names are checked. -/
def misfits (entries : List (Value × Value)) : List Value :=
  names.filterMap (misfit? entries)

variable {entries : List (Value × Value)} {name : String} {value : Value} {α : Type}

/-- How a check of the value under a name comes out. -/
inductive Checked (entries : List (Value × Value)) (name : String) (written : α → Value)
    (standard : α) : Except Problem α → Prop
  | absent (hget : (Value.map entries).get? name = none) :
      Checked entries name written standard (.ok standard)
  | fitting {result : α} (hget : (Value.map entries).get? name = some (written result))
      (hfits : fits name (written result) = true) :
      Checked entries name written standard (.ok result)
  | wrong {value : Value} {problem : Problem}
      (hget : (Value.map entries).get? name = some value) (hfits : fits name value = false)
      (hreported : problem.isReported = value.isShown) :
      Checked entries name written standard (.error problem)

theorem checked_positive (hname : name = "max_depth" ∨ name = "max_expression_depth")
    (standard : Nat) :
    Checked entries name (fun n : Nat => .int n) standard
      (positive (.map entries) name standard) := by
  unfold positive
  split
  · next hget => exact .absent hget
  · next n hget =>
      split
      · next hn => exact .wrong hget (by simp [fits, hn]) (Problem.isReported_about rfl)
      · next hn =>
          have hcast : ((n.toNat : Nat) : Int) = n := by omega
          have hpositive : 1 ≤ n := by omega
          refine .fitting (by rw [hcast]; exact hget) ?_
          simpa [fits, hcast, hpositive] using hname
  · next value hint hget =>
      refine .wrong hget ?_ (Problem.isReported_about rfl)
      cases value with
      | int n => exact absurd rfl (hint n)
      | _ => rcases hname with rfl | rfl <;> simp [fits]

theorem checked_boolean (standard : Bool) :
    Checked entries "warn_on_diagnostics" .bool standard
      (boolean (.map entries) "warn_on_diagnostics" standard) := by
  unfold boolean
  split
  · next hget => exact .absent hget
  · next b hget => exact .fitting hget rfl
  · next value hbool hget =>
      refine .wrong hget ?_ (Problem.isReported_about rfl)
      cases value with
      | bool b => exact absurd rfl (hbool b)
      | _ => simp [fits]

theorem checked_textForm (standard : String) :
    Checked entries "default_text_form" .text standard
      (textForm (.map entries) "default_text_form" standard) := by
  unfold textForm
  split
  · next hget => exact .absent hget
  · next s hget =>
      split
      · next hs => exact .wrong hget (by simp [fits, hs]) rfl
      · next hs => exact .fitting hget (by simp [fits, hs])
  · next value htext hget =>
      refine .wrong hget ?_ (Problem.isReported_about rfl)
      cases value with
      | text s => exact absurd rfl (htext s)
      | _ => simp [fits]

/-- Whether a result is what is given under a name, or the standard where nothing is given. -/
def Settles (entries : List (Value × Value)) (name : String) (written : α → Value)
    (standard result : α) : Prop :=
  ((Value.map entries).get? name = none ∧ result = standard) ∨
    (Value.map entries).get? name = some (written result)

/-- How checks come out one after the other that find the given misfits. -/
inductive Checks {β : Type} (holds : β → Prop) : List Value → Except Problem β → Prop
  | ok {result : β} (hholds : holds result) : Checks holds [] (.ok result)
  | misfit {value : Value} {rest : List Value} {problem : Problem}
      (hreported : problem.isReported = value.isShown) :
      Checks holds (value :: rest) (.error problem)

/-- A check before others goes on with them, unless its own value does not fit. -/
theorem Checks.bind {β : Type} {holds : β → Prop} {pending : List String} {written : α → Value}
    {standard : α} {check : Except Problem α} {next : α → Except Problem β}
    (hchecked : Checked entries name written standard check)
    (hnext : ∀ result, Settles entries name written standard result →
      Checks holds (pending.filterMap (misfit? entries)) (next result)) :
    Checks holds ((name :: pending).filterMap (misfit? entries)) (check.bind next) := by
  cases hchecked with
  | absent hget =>
      have hfit : misfit? entries name = none := by rw [misfit?, hget, Option.filter_none]
      rw [List.filterMap_cons_none hfit]
      exact hnext standard (.inl ⟨hget, rfl⟩)
  | fitting hget hfits =>
      have hfit : misfit? entries name = none := by simp [misfit?, hget, hfits]
      rw [List.filterMap_cons_none hfit]
      exact hnext _ (.inr hget)
  | @wrong value _ hget hfits hreported =>
      have hmisfit : misfit? entries name = some value := by simp [misfit?, hget, hfits]
      rw [List.filterMap_cons_some hmisfit]
      exact .misfit hreported

/-- Whether options have the values that entries give, and the standard ones besides. -/
structure Carries (options : Options) (entries : List (Value × Value)) : Prop where
  given : ∀ name value, Gives entries name value → options.value? name = some value
  standard : ∀ name, (∀ value, ¬ Gives entries name value) →
    options.value? name = ({} : Options).value? name

/-- Whether options have under a name what is given for it, or else the standard. -/
def CarriesAt (options : Options) (entries : List (Value × Value)) (name : String) : Prop :=
  ((Value.map entries).get? name = none ∧
      options.value? name = ({} : Options).value? name) ∨
    ∃ value, (Value.map entries).get? name = some value ∧ options.value? name = some value

theorem Settles.carriesAt {options : Options} {written : α → Value} {standard result : α}
    (hsettles : Settles entries name written standard result)
    (hvalue : options.value? name = some (written result))
    (hstandard : ({} : Options).value? name = some (written standard)) :
    options.CarriesAt entries name := by
  rcases hsettles with ⟨hget, rfl⟩ | hget
  · exact .inl ⟨hget, hvalue.trans hstandard.symm⟩
  · exact .inr ⟨written result, hget, hvalue⟩

/-- Without unknown keys, the values are checked in the order of the names. -/
theorem checks_ofEntries (hunknown : unknownKeys entries = []) :
    Checks (fun options => ∀ name ∈ names, options.CarriesAt entries name) (misfits entries)
      (ofEntries entries) := by
  have hknown : unknownNames entries = .ok () := by
    rw [unknownKeys] at hunknown
    rw [unknownNames, hunknown]
  change Checks _ _ ((unknownNames entries).bind _)
  rw [hknown]
  apply Checks.bind (checked_positive (.inl rfl) 100)
  intro maxDepth hdepth
  apply Checks.bind (checked_positive (.inr rfl) 32)
  intro maxExpressionDepth hcalls
  apply Checks.bind (checked_boolean false)
  intro warnOnDiagnostics hwarn
  apply Checks.bind (checked_textForm "long")
  intro defaultTextForm hform
  apply Checks.ok
  intro name hname
  simp only [names, List.mem_cons, List.not_mem_nil, or_false] at hname
  rcases hname with rfl | rfl | rfl | rfl
  · exact hdepth.carriesAt rfl rfl
  · exact hcalls.carriesAt rfl rfl
  · exact hwarn.carriesAt rfl rfl
  · exact hform.carriesAt rfl rfl

/-- Whether unknown keys can be put in order and shown. -/
structure Listable (keys : List Value) : Prop where
  ordered : keys.length ≤ 1 ∨ Value.AreAlike keys
  shown : keys.all Value.isShown = true

/-- The keys are checked before all values. -/
theorem ofEntries_of_unknownNames {problem : Problem}
    (hstop : unknownNames entries = .error problem) : ofEntries entries = .error problem := by
  change (unknownNames entries).bind _ = _
  rw [hstop]
  rfl

/-- Unknown keys stop the reading, and they are reported if they can be listed. -/
theorem exists_error_of_unknown (hscalar : ∀ entry ∈ entries, entry.1.IsScalar)
    (hunknown : unknownKeys entries ≠ []) :
    ∃ problem, ofEntries entries = .error problem ∧
      (problem.isReported = true ↔ Listable (unknownKeys entries)) := by
  have hkeys : ∀ key ∈ unknownKeys entries, key.IsScalar := by
    intro key hkey
    obtain ⟨entry, hentry, rfl⟩ := List.mem_map.mp (List.mem_filter.mp hkey).1
    exact hscalar entry hentry
  have hstop : unknownNames entries =
      (Value.sort? (unknownKeys entries)).elim (.error .unorderedNames) fun sorted =>
        .error (.about (.list sorted) (.unknownNames sorted)) := by
    unfold unknownNames
    split
    · next hnil => exact absurd hnil hunknown
    · rw [← unknownKeys]
      cases Value.sort? (unknownKeys entries) with
      | none => rfl
      | some sorted => rfl
  have hordered := Value.isSome_sort?_iff hkeys
  cases hsort : Value.sort? (unknownKeys entries) with
  | none =>
      rw [hsort] at hstop hordered
      refine ⟨.unorderedNames, ofEntries_of_unknownNames hstop, ?_⟩
      constructor
      · intro hreported
        contradiction
      · intro hlistable
        exact absurd (hordered.mpr hlistable.ordered) (by simp)
  | some sorted =>
      rw [hsort] at hstop hordered
      refine ⟨.about (.list sorted) (.unknownNames sorted), ofEntries_of_unknownNames hstop, ?_⟩
      rw [Problem.isReported_about rfl, Value.isShown, Value.areShown_of_sort? hsort]
      constructor
      · intro hshown
        exact ⟨hordered.mp rfl, hshown⟩
      · exact fun hlistable => hlistable.shown

/-- Whether options can be read from entries: every key is the name of an option, and every
value fits its name. -/
structure Acceptable (entries : List (Value × Value)) : Prop where
  known : ∀ entry ∈ entries, ∃ name ∈ names, entry.1 = .text name
  fitting : ∀ name value, Gives entries name value → fits name value = true

theorem isName_iff {key : Value} : isName key = true ↔ ∃ name ∈ names, key = .text name := by
  cases key <;> simp [isName]

theorem unknownKeys_eq_nil_iff :
    unknownKeys entries = [] ↔ ∀ entry ∈ entries, ∃ name ∈ names, entry.1 = .text name := by
  rw [unknownKeys, List.filter_eq_nil_iff]
  simp [← isName_iff]

theorem misfit?_eq_none_iff (hkeys : KeysDiffer entries) :
    misfit? entries name = none ↔ ∀ value, Gives entries name value → fits name value = true := by
  rw [misfit?, Option.filter_eq_none_iff]
  simp [Value.get?_eq_some_iff hkeys]

theorem acceptable_iff (hkeys : KeysDiffer entries) :
    Acceptable entries ↔ unknownKeys entries = [] ∧ misfits entries = [] := by
  rw [unknownKeys_eq_nil_iff, misfits, List.filterMap_eq_nil_iff]
  simp only [misfit?_eq_none_iff hkeys]
  constructor
  · rintro ⟨hknown, hfitting⟩
    exact ⟨hknown, fun name _ => hfitting name⟩
  · rintro ⟨hknown, hfitting⟩
    refine ⟨hknown, fun name value hgives => ?_⟩
    obtain ⟨other, hother, hname⟩ := hknown _ hgives
    obtain rfl := Value.text.inj hname
    exact hfitting name hother value hgives

theorem value?_of_not_mem_names (options : Options) (hname : name ∉ names) :
    options.value? name = none := by
  unfold value?
  split <;> simp_all [names]

theorem carries_of_carriesAt {options : Options} (hkeys : KeysDiffer entries)
    (hunknown : unknownKeys entries = [])
    (hnames : ∀ name ∈ names, options.CarriesAt entries name) : options.Carries entries := by
  constructor
  case given =>
    intro name value hgives
    obtain ⟨other, hother, hname⟩ := unknownKeys_eq_nil_iff.mp hunknown _ hgives
    obtain rfl := Value.text.inj hname
    have hget := (Value.get?_eq_some_iff hkeys).mpr hgives
    rcases hnames name hother with ⟨hnone, -⟩ | ⟨held, hheld, hvalue⟩
    · rw [hnone] at hget
      contradiction
    · obtain rfl := Option.some.inj (hheld.symm.trans hget)
      exact hvalue
  case standard =>
    intro name hnothing
    by_cases hname : name ∈ names
    · rcases hnames name hname with ⟨-, hstandard⟩ | ⟨held, hheld, -⟩
      · exact hstandard
      · exact absurd (Value.gives_of_get?_eq hheld) (hnothing held)
    · rw [value?_of_not_mem_names options hname, value?_of_not_mem_names {} hname]

/-- Whether what is wrong with entries can be put into words: unknown keys can be listed, and
where there are none, the first value that does not fit its name can be shown. -/
structure Reportable (entries : List (Value × Value)) : Prop where
  unknown : Listable (unknownKeys entries)
  first : unknownKeys entries = [] → ∀ value, (misfits entries).head? = some value →
    value.isShown = true

/-- Options are read from entries exactly if they are acceptable, and then the options are
the given ones.  All that can be wrong is reported exactly if it can be put into words. -/
structure ReadsExactly (entries : List (Value × Value)) : Prop where
  ok_iff : (∃ options, ofEntries entries = .ok options) ↔ Acceptable entries
  carries : ∀ options, ofEntries entries = .ok options → options.Carries entries
  reported_iff :
    (∀ problem, ofEntries entries = .error problem → problem.isReported = true) ↔
      Reportable entries

theorem listable_nil : Listable [] :=
  ⟨.inl (Nat.zero_le 1), rfl⟩

theorem readsExactly_of_known (hkeys : KeysDiffer entries) (hunknown : unknownKeys entries = []) :
    ReadsExactly entries := by
  have hchecks := checks_ofEntries hunknown
  have hacceptable := acceptable_iff hkeys
  generalize hread : ofEntries entries = outcome at hchecks
  generalize hmisfits : misfits entries = wrong at hchecks
  cases hchecks with
  | ok hholds =>
      constructor
      case ok_iff => simp [hread, hacceptable, hunknown, hmisfits]
      case carries =>
        intro options hoptions
        obtain rfl := Except.ok.inj (hread.symm.trans hoptions)
        exact carries_of_carriesAt hkeys hunknown hholds
      case reported_iff =>
        constructor
        · intro _
          exact ⟨by rw [hunknown]; exact listable_nil, by simp [hmisfits]⟩
        · intro _ problem hproblem
          rw [hread] at hproblem
          contradiction
  | misfit hreported =>
      constructor
      case ok_iff => simp [hread, hacceptable, hmisfits]
      case carries =>
        intro options hoptions
        rw [hread] at hoptions
        contradiction
      case reported_iff =>
        constructor
        · intro hall
          refine ⟨by rw [hunknown]; exact listable_nil, fun _ value hvalue => ?_⟩
          rw [hmisfits, List.head?_cons] at hvalue
          obtain rfl := Option.some.inj hvalue
          rw [← hreported]
          exact hall _ hread
        · intro hreportable problem hproblem
          obtain rfl := Except.error.inj (hread.symm.trans hproblem)
          rw [hreported]
          exact hreportable.first hunknown _ (by rw [hmisfits, List.head?_cons])

theorem readsExactly_of_unknown (hkeys : KeysDiffer entries)
    (hscalar : ∀ entry ∈ entries, entry.1.IsScalar) (hunknown : unknownKeys entries ≠ []) :
    ReadsExactly entries := by
  obtain ⟨problem, hread, hlistable⟩ := exists_error_of_unknown hscalar hunknown
  constructor
  case ok_iff => simp [hread, acceptable_iff hkeys, hunknown]
  case carries =>
    intro options hoptions
    rw [hread] at hoptions
    contradiction
  case reported_iff =>
    constructor
    · intro hall
      exact ⟨hlistable.mp (hall problem hread), fun hnone => absurd hnone hunknown⟩
    · intro hreportable other hother
      obtain rfl := Except.error.inj (hread.symm.trans hother)
      exact hlistable.mpr hreportable.unknown

/-- Whatever map with scalar keys is given, options are read from it exactly, as far as what
is wrong can be put into words. -/
theorem readsExactly_ofEntries (hkeys : KeysDiffer entries)
    (hscalar : ∀ entry ∈ entries, entry.1.IsScalar) : ReadsExactly entries := by
  by_cases hunknown : unknownKeys entries = []
  · exact readsExactly_of_known hkeys hunknown
  · exact readsExactly_of_unknown hkeys hscalar hunknown

/-- Entries that give three of the four options. -/
def threeEntries : List (Value × Value) :=
  [(.text "default_text_form", .text "short"), (.text "max_depth", .int 64),
    (.text "warn_on_diagnostics", .bool true)]

theorem readsExactly_threeEntries :
    KeysDiffer threeEntries ∧ (∀ entry ∈ threeEntries, entry.1.IsScalar) ∧
      ofEntries threeEntries =
        .ok { maxDepth := 64, warnOnDiagnostics := true, defaultTextForm := "short" } ∧
      ReadsExactly threeEntries := by
  have hkeys : KeysDiffer threeEntries := by
    simp [KeysDiffer, threeEntries, Value.same, Value.isKey]
  have hscalar : ∀ entry ∈ threeEntries, entry.1.IsScalar := by
    intro entry hentry
    simp only [threeEntries, List.mem_cons, List.not_mem_nil, or_false] at hentry
    rcases hentry with rfl | rfl | rfl <;> exact .text _
  exact ⟨hkeys, hscalar, rfl, readsExactly_ofEntries hkeys hscalar⟩

/-- Two entries the keys of which are no names of options and cannot be put in order. -/
def mixedEntries : List (Value × Value) :=
  [(.int 1, .int 1), (.text "x", .int 2)]

/-- What is wrong with these entries is not reported. -/
theorem not_isReported_of_mixedEntries :
    KeysDiffer mixedEntries ∧ (∀ entry ∈ mixedEntries, entry.1.IsScalar) ∧
      ∃ problem, ofEntries mixedEntries = .error problem ∧ problem.isReported = false := by
  refine ⟨?_, ?_, .unorderedNames, rfl, rfl⟩
  · simp [KeysDiffer, mixedEntries, Value.same, Value.sameNumber, Value.number?]
  · intro entry hentry
    simp only [mixedEntries, List.mem_cons, List.not_mem_nil, or_false] at hentry
    rcases hentry with rfl | rfl
    · exact .int 1
    · exact .text "x"

end Options

end SurveyForm
