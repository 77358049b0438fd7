import SurveyForm.Proofs.Text.Cuts
import SurveyForm.Proofs.Translation.Meaning
import SurveyForm.Proofs.Xml.Places
/-!
Looking texts up.  The key of a text is an id and a form with a colon between them, and
both may hold colons, so that two pairs can have one key.  A lookup is exact as long as the
value that answers has as many colons in its form as the form that is asked for.
-/

namespace SurveyForm

open Xml (Element Node)

def colons (text : String) : Nat :=
  text.toList.count ':'

/-- A key and the number of colons in the form determine the id and the form. -/
theorem textKey_eq_and_colons_eq_iff {id form other last : String} :
    textKey id form = textKey other last ∧ colons form = colons last ↔
      id = other ∧ form = last := by
  constructor
  · rintro ⟨hkey, hcolons⟩
    have hchars : id.toList ++ ':' :: form.toList = other.toList ++ ':' :: last.toList := by
      simpa [textKey] using congrArg String.toList hkey
    obtain ⟨hid, hform⟩ := eq_of_append_cons_eq hchars hcolons
    exact ⟨String.toList_inj.mp hid, String.toList_inj.mp hform⟩
  · rintro ⟨rfl, rfl⟩
    exact ⟨rfl, rfl⟩

namespace TextValue

variable {values : List TextValue} {key id form shown : String} {value : TextValue}

theorem last?_eq_some (hlast : last? values key = some value) :
    value ∈ values ∧ value.key = key := by
  refine ⟨?_, by simpa using List.find?_some hlast⟩
  simpa using List.mem_of_find?_eq_some hlast

/-- Whether a text that is shown for an id and a form is that of a value for just these.  An
empty text says that there is none. -/
def IsExact (values : List TextValue) (id form shown : String) : Prop :=
  shown ≠ "" → ∃ value ∈ values, value.id = id ∧ value.form = form ∧ value.text = shown

theorem isExact_iff :
    IsExact values id form shown ↔
      shown = "" ∨ ∃ value ∈ values, value.key = textKey id form ∧ value.text = shown ∧
        colons value.form = colons form := by
  have hvalue : ∀ value : TextValue, value.id = id ∧ value.form = form ∧ value.text = shown ↔
      value.key = textKey id form ∧ value.text = shown ∧ colons value.form = colons form := by
    intro value
    rw [← and_assoc, ← textKey_eq_and_colons_eq_iff, and_right_comm, and_assoc]
    rfl
  rw [IsExact]
  simp only [hvalue]
  exact imp_iff_not_or.trans (or_congr_left not_not)

end TextValue

open TextValue (ofBlock last? IsExact)

namespace TranslationTable

variable {options : Options} {itext block : Element} {language : String}

theorem languageOr_of_ne (table : TranslationTable) (hlanguage : language ≠ "") :
    table.languageOr (some language) = some language := by
  unfold languageOr
  split
  · next heq => exact absurd (Option.some.inj heq) hlanguage
  · next heq => exact heq.symm
  · contradiction

/-- A reference shows the last value of the language's block that has its key. -/
theorem text_reference (hlanguage : language ≠ "")
    (hblock : lastBlock? itext language = some block) (target : TextReference) :
    (ofElement options (some itext)).text (.reference target) (some language) =
      ((last? (ofBlock options.defaultTextForm block) target.key).map (·.text)).getD "" := by
  rw [text, languageOr_of_ne _ hlanguage, Option.bind_some, get?_languages, hblock,
    Option.map_some, Option.bind_some, TextEntry.get?_textsOfAll]
  rfl

/-- What a reference shows is exact where the values with its key have as many colons in their
forms as the form that is asked for.  In general it is so exactly if the value that answers is
empty, or some value with the key and with as many colons in its form says the same. -/
theorem isExact_text_iff (hlanguage : language ≠ "")
    (hblock : lastBlock? itext language = some block) (target : TextReference) :
    let values := ofBlock options.defaultTextForm block
    let shown := (ofElement options (some itext)).text (.reference target) (some language)
    ((∀ value ∈ values, value.key = target.key → colons value.form = colons target.form) →
        IsExact values target.id target.form shown) ∧
      (IsExact values target.id target.form shown ↔
        ∀ answer, last? values target.key = some answer → answer.text = "" ∨
          ∃ value ∈ values, value.key = target.key ∧ value.text = answer.text ∧
            colons value.form = colons target.form) := by
  intro values shown
  have hshown : shown = ((last? values target.key).map (·.text)).getD "" :=
    text_reference hlanguage hblock target
  have hexact : IsExact values target.id target.form shown ↔
      ∀ answer, last? values target.key = some answer → answer.text = "" ∨
        ∃ value ∈ values, value.key = target.key ∧ value.text = answer.text ∧
          colons value.form = colons target.form := by
    rw [TextValue.isExact_iff, hshown]
    cases last? values target.key with
    | none => simp
    | some answer =>
        simp only [Option.map_some, Option.getD_some, Option.some.injEq, forall_eq']
        rfl
  refine ⟨fun hforms => hexact.mpr fun answer hanswer => .inr ?_, hexact⟩
  obtain ⟨hmem, hkey⟩ := TextValue.last?_eq_some hanswer
  exact ⟨answer, hmem, hkey, rfl, hforms answer hmem hkey⟩

/-- Captions of a field and of its label.  The short form of the one is spelt like an entry
for the other. -/
def fieldCaptions : Element :=
  ⟨⟨none, "translation", [⟨none, "lang", "en"⟩], [], []⟩,
    [Node.ofParts "text" [("id", "/data/q")]
        [Node.ofParts "value" [("form", "label:short")] [.text "Q"]],
      Node.ofParts "text" [("id", "/data/q:label")] [Node.ofParts "value" [] [.text "Question"]]]⟩

def captionsTable : Element :=
  ⟨⟨none, "itext", [], [], []⟩, [.element fieldCaptions]⟩

/-- Its long text is found for the label, and nothing else is spelt like that. -/
theorem isExact_text_captionsTable :
    "en" ≠ "" ∧ lastBlock? captionsTable "en" = some fieldCaptions ∧
      (∀ value ∈ ofBlock "long" fieldCaptions, value.key = textKey "/data/q:label" "long" →
        colons value.form = colons "long") ∧
      (ofElement {} (some captionsTable)).text
        (.reference ⟨none, "/data/q:label", "long"⟩) (some "en") = "Question" ∧
      IsExact (ofBlock "long" fieldCaptions) "/data/q:label" "long"
        ((ofElement {} (some captionsTable)).text
          (.reference ⟨none, "/data/q:label", "long"⟩) (some "en")) := by
  have hlanguage : "en" ≠ "" := by decide
  have hblock : lastBlock? captionsTable "en" = some fieldCaptions := by rfl
  have hforms : ∀ value ∈ ofBlock "long" fieldCaptions,
      value.key = textKey "/data/q:label" "long" → colons value.form = colons "long" := by
    decide +kernel
  have hexact := @isExact_text_iff {} captionsTable fieldCaptions "en" hlanguage hblock
    ⟨none, "/data/q:label", "long"⟩
  exact ⟨hlanguage, hblock, hforms, by decide +kernel, hexact.1 hforms⟩

/-- The label has no short text of its own, but one is shown: that of the other entry. -/
theorem text_captionsTable_of_other :
    ((captionsTable.descendantsNamed "translation").filterMap (·.attribute? "lang")).Nodup ∧
      lastBlock? captionsTable "en" = some fieldCaptions ∧
      (ofElement {} (some captionsTable)).text
        (.reference ⟨none, "/data/q:label", "short"⟩) (some "en") = "Q" ∧
      ¬∃ value ∈ ofBlock "long" fieldCaptions,
        value.id = "/data/q:label" ∧ value.form = "short" := by
  exact ⟨by decide +kernel, rfl, by decide +kernel, by decide +kernel⟩

end TranslationTable

end SurveyForm
