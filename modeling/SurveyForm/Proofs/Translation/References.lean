import Mathlib.Data.List.Infix
import Mathlib.Data.List.TakeWhile
import SurveyForm.Translation
/-!
The ids that captions refer to.  An id is read up to the first quote of either kind, whichever
kind it was opened with, and on one line only; so it is read as it was written exactly if it has
neither quotes nor line breaks in it.
-/

namespace SurveyForm

namespace Caption

/-- The characters that an id is put between. -/
def IsQuote (c : Char) : Prop :=
  c = '\'' ∨ c = '"'

instance (c : Char) : Decidable (IsQuote c) :=
  inferInstanceAs (Decidable (c = '\'' ∨ c = '"'))

/-- The call that opens a reference. -/
def opening : List Char :=
  "itext(".toList

variable {quote : Char} {id front rest text : List Char}

/-! ### Ids between quotes -/

theorem quotedId?_cons (quote : Char) (rest : List Char) :
    quotedId? (quote :: rest) =
      let id := rest.takeWhile fun c => ¬IsQuote c
      if IsQuote quote ∧ id.length < rest.length ∧ '\n' ∉ id then some id else none := by
  have hquote : (fun c : Char => !(decide (c = '\'') || decide (c = '"'))) =
      fun c => decide (¬IsQuote c) := by
    funext c
    simp [IsQuote]
  simp only [quotedId?, hquote, Bool.or_eq_true, decide_eq_true_eq]
  rfl

/-- What stands before the first quote, if there is one. -/
theorem takeWhile_eq_iff :
    rest.takeWhile (fun c => ¬IsQuote c) = id ∧ id.length < rest.length ↔
      (∀ c ∈ id, ¬IsQuote c) ∧ ∃ closing after, IsQuote closing ∧ rest = id ++ closing :: after := by
  constructor
  · rintro ⟨rfl, hlength⟩
    constructor
    · intro c hc
      simpa using List.mem_takeWhile_imp hc
    · have hcut := rest.takeWhile_append_dropWhile (p := fun c => ¬IsQuote c)
      have hquote := rest.head?_dropWhile_not fun c => ¬IsQuote c
      cases hrest : rest.dropWhile fun c => ¬IsQuote c with
      | nil =>
          rw [hrest, List.append_nil] at hcut
          rw [hcut] at hlength
          exact absurd hlength (lt_irrefl _)
      | cons closing after =>
          rw [hrest] at hcut hquote
          exact ⟨closing, after, by simpa using hquote, hcut.symm⟩
  · rintro ⟨hid, closing, after, hclosing, rfl⟩
    constructor
    · rw [List.takeWhile_append_of_pos (by simpa using hid),
        List.takeWhile_cons_of_neg (by simpa using hclosing), List.append_nil]
    · simp

/-- An id between quotes goes up to the next quote, with no line break before it. -/
theorem quotedId?_eq_some_iff :
    quotedId? (quote :: rest) = some id ↔
      IsQuote quote ∧ '\n' ∉ id ∧ (∀ c ∈ id, ¬IsQuote c) ∧
        ∃ closing after, IsQuote closing ∧ rest = id ++ closing :: after := by
  rw [← takeWhile_eq_iff, quotedId?_cons]
  constructor
  · intro hid
    simp only [Option.ite_none_right_eq_some, Option.some.injEq] at hid
    obtain ⟨⟨hquote, hlength, hline⟩, rfl⟩ := hid
    exact ⟨hquote, hline, rfl, hlength⟩
  · rintro ⟨hquote, hline, rfl, hlength⟩
    exact if_pos ⟨hquote, hlength, hline⟩

theorem plain_of_quotedId? (hid : quotedId? text = some id) :
    ∀ c ∈ id, ¬IsQuote c ∧ c ≠ '\n' := by
  cases text with
  | nil => contradiction
  | cons quote rest =>
      obtain ⟨-, hline, hplain, -⟩ := quotedId?_eq_some_iff.mp hid
      intro c hc
      constructor
      · exact hplain c hc
      · rintro rfl
        exact hline hc

/-! ### The first reference in a text -/

theorem entryId?_opening_append (text : List Char) :
    entryId? (opening ++ text) = (quotedId? text <|> entryId? (opening.tail ++ text)) :=
  rfl

theorem entryId?_cons_of_not {c : Char} (hopening : ¬opening <+: c :: text) :
    entryId? (c :: text) = entryId? text := by
  have hnot : opening.isPrefixOf (c :: text) = false := by
    rw [Bool.eq_false_iff, ne_eq, List.isPrefixOf_iff_prefix]
    exact hopening
  rw [opening] at hnot
  rw [entryId?, hnot]
  rfl

/-- A word that begins a text does not reach a character that it has not. -/
theorem prefix_of_prefix_append {word : List Char} {c : Char} (hc : c ∉ word)
    (hbegins : word <+: front ++ c :: rest) : word <+: front := by
  induction front generalizing word with
  | nil =>
      cases word with
      | nil => exact List.prefix_rfl
      | cons first word =>
          obtain ⟨rfl, -⟩ := List.cons_prefix_cons.mp hbegins
          exact absurd List.mem_cons_self hc
  | cons head front ih =>
      cases word with
      | nil => exact List.nil_prefix
      | cons first word =>
          obtain ⟨rfl, hrest⟩ := List.cons_prefix_cons.mp hbegins
          exact List.cons_prefix_cons.mpr ⟨rfl, ih (mt (List.mem_cons_of_mem _) hc) hrest⟩

/-- The word that opens a reference does not overlap with itself, so none begins in a text without
it. -/
theorem not_opening_begins {c : Char} (hfront : ¬opening <:+: c :: front) :
    ¬opening <+: c :: (front ++ (opening ++ text)) := by
  intro hbegins
  obtain ⟨hc, htail⟩ : 'i' = c ∧ opening.tail <+: front ++ 'i' :: (opening.tail ++ text) :=
    List.cons_prefix_cons.mp hbegins
  have hinside : opening.tail <+: front := prefix_of_prefix_append (by decide) htail
  exact hfront (List.cons_prefix_cons.mpr ⟨hc, hinside⟩).isInfix

theorem entryId?_append_opening (hfront : ¬opening <:+: front) (text : List Char) :
    entryId? (front ++ (opening ++ text)) =
      (quotedId? text <|> entryId? (opening.tail ++ text)) := by
  induction front with
  | nil => exact entryId?_opening_append text
  | cons c front ih =>
      have hrest : ¬opening <:+: front := fun hinside =>
        hfront (hinside.trans (List.suffix_cons c front).isInfix)
      rw [List.cons_append, entryId?_cons_of_not (not_opening_begins hfront), ih hrest]

/-- What is read as an id has neither quotes nor line breaks in it. -/
theorem plain_of_entryId? (hid : entryId? text = some id) : ∀ c ∈ id, ¬IsQuote c ∧ c ≠ '\n' := by
  induction text with
  | nil => contradiction
  | cons c rest ih =>
      by_cases hopening : opening <+: c :: rest
      · obtain ⟨after, hafter⟩ := hopening
        obtain ⟨-, rfl⟩ : 'i' = c ∧ opening.tail ++ after = rest := List.cons.inj hafter
        rw [← hafter, entryId?_opening_append] at hid
        cases hquoted : quotedId? after with
        | some found =>
            rw [hquoted] at hid
            obtain rfl := Option.some.inj hid
            exact plain_of_quotedId? hquoted
        | none =>
            rw [hquoted] at hid
            exact ih hid
      · rw [entryId?_cons_of_not hopening] at hid
        exact ih hid

/-! ### Ids as they are written -/

/-- Whether the text of an attribute refers to an id: behind a front without the word that opens a
reference, the id stands between two quotes of a kind that it has not in it. -/
def Writes (ref id : String) : Prop :=
  ∃ front quote after, IsQuote quote ∧ quote ∉ id.toList ∧ ¬opening <:+: front ∧
    ref.toList = front ++ (opening ++ quote :: (id.toList ++ quote :: after))

/-- Whether an id has neither quotes nor line breaks in it. -/
def IsPlainId (id : String) : Prop :=
  ∀ c ∈ id.toList, ¬IsQuote c ∧ c ≠ '\n'

theorem entryId?_eq_some_iff_isPlainId {ref id : String} (hwrites : Writes ref id) :
    entryId? ref.toList = some id.toList ↔ IsPlainId id := by
  constructor
  · exact plain_of_entryId?
  · intro hplain
    obtain ⟨front, quote, after, hquote, -, hfront, href⟩ := hwrites
    have hquoted : quotedId? (quote :: (id.toList ++ quote :: after)) = some id.toList := by
      apply quotedId?_eq_some_iff.mpr
      refine ⟨hquote, fun hline => (hplain _ hline).2 rfl, fun c hc => (hplain c hc).1, ?_⟩
      exact ⟨quote, after, hquote, rfl⟩
    rw [href, entryId?_append_opening hfront, hquoted]
    rfl

instance (id : String) : Decidable (IsPlainId id) :=
  List.decidableBAll (fun c => ¬IsQuote c ∧ c ≠ '\n') id.toList

/-- The id that a caption refers to, if it is a reference. -/
def id? : Caption → Option String
  | .reference target => some target.id
  | _ => none

theorem ofElement_eq_reference_iff {element : Xml.Element} {ref id : String} (form : String)
    (href : element.attribute? "ref" = some ref) (hwrites : Writes ref id) :
    ofElement form element = .reference ⟨element.text?, id, form⟩ ↔ IsPlainId id := by
  rw [← entryId?_eq_some_iff_isPlainId hwrites, ofElement, href, Option.bind_some]
  cases entryId? ref.toList with
  | none =>
      cases element.text? <;> simp
  | some found =>
      simp only [reference.injEq, TextReference.mk.injEq, true_and, and_true, Option.some.injEq]
      rw [← String.toList_inj, String.toList_ofList]

/-- A label whose reference writes an id between quotes reads that id, with the text beside it and
the form that is asked for, exactly if the id has neither quotes nor line breaks in it.  So two
labels that write different ids of this kind never read the same one. -/
theorem ofElement_of_writes {element : Xml.Element} {ref id : String} (form : String)
    (href : element.attribute? "ref" = some ref) (hwrites : Writes ref id) :
    (ofElement form element = .reference ⟨element.text?, id, form⟩ ↔ IsPlainId id) ∧
      ∀ (other : Xml.Element) (otherRef otherId otherForm : String),
        other.attribute? "ref" = some otherRef → Writes otherRef otherId →
          IsPlainId id → IsPlainId otherId →
            (ofElement form element).id? = (ofElement otherForm other).id? → id = otherId := by
  have hiff := ofElement_eq_reference_iff form href hwrites
  refine ⟨hiff, ?_⟩
  intro other otherRef otherId otherForm hotherRef hotherWrites hplain hotherPlain hsame
  have hother := ofElement_eq_reference_iff otherForm hotherRef hotherWrites
  rw [hiff.mpr hplain, hother.mpr hotherPlain] at hsame
  exact Option.some.inj hsame

/-- A label with a reference and a text beside it. -/
def labelWith (ref : String) : Xml.Element :=
  ⟨⟨none, "label", [⟨none, "ref", ref⟩], [], []⟩, [.text "Name"]⟩

theorem ofElement_of_writes_labelWith :
    Writes "jr:itext('/data/name:label')" "/data/name:label" ∧
      Writes "itext (itext(\"\")" "" ∧
      ofElement "short" (labelWith "jr:itext('/data/name:label')") =
        .reference ⟨some "Name", "/data/name:label", "short"⟩ ∧
      ofElement "long" (labelWith "itext (itext(\"\")") = .reference ⟨some "Name", "", "long"⟩ ∧
      (ofElement "short" (labelWith "jr:itext('/data/name:label')")).id? ≠
        (ofElement "long" (labelWith "itext (itext(\"\")")).id? := by
  have hsingle : Writes "jr:itext('/data/name:label')" "/data/name:label" :=
    ⟨"jr:".toList, '\'', [')'], by decide, by decide, by decide, rfl⟩
  have hdouble : Writes "itext (itext(\"\")" "" :=
    ⟨"itext (".toList, '"', [')'], by decide, by decide, by decide, rfl⟩
  have hplain : IsPlainId "/data/name:label" := by decide
  have hempty : IsPlainId "" := by decide
  obtain ⟨hread, hapart⟩ := ofElement_of_writes "short"
    (show (labelWith "jr:itext('/data/name:label')").attribute? "ref" = some _ from rfl) hsingle
  obtain ⟨hother, -⟩ := ofElement_of_writes "long"
    (show (labelWith "itext (itext(\"\")").attribute? "ref" = some _ from rfl) hdouble
  refine ⟨hsingle, hdouble, hread.mpr hplain, hother.mpr hempty, ?_⟩
  intro hsame
  have heq := hapart _ _ _ "long" rfl hdouble hplain hempty hsame
  contradiction

/-- An apostrophe ends an id that is written between double quotes, so that it is taken for another
id; a line break hides it altogether. -/
theorem ofElement_ne_of_writes :
    Writes "jr:itext(\"it's\")" "it's" ∧ Writes "jr:itext('it')" "it" ∧
      ofElement "long" (labelWith "jr:itext(\"it's\")") =
        .reference ⟨some "Name", "it", "long"⟩ ∧
      ofElement "long" (labelWith "jr:itext('it')") = .reference ⟨some "Name", "it", "long"⟩ ∧
      Writes "jr:itext('a\nb')" "a\nb" ∧
      ofElement "long" (labelWith "jr:itext('a\nb')") = .plain "Name" := by
  refine ⟨?_, ?_, ?_, ?_, ?_, ?_⟩
  · exact ⟨"jr:".toList, '"', [')'], by decide, by decide, by decide, rfl⟩
  · exact ⟨"jr:".toList, '\'', [')'], by decide, by decide, by decide, rfl⟩
  · decide +kernel
  · decide +kernel
  · exact ⟨"jr:".toList, '\'', [')'], by decide, by decide, by decide, rfl⟩
  · decide +kernel

end Caption

end SurveyForm
