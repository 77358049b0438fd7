import SurveyForm.Proofs.Translation.Lookup
/-!
The default form of texts is only a name.  Values that name no form get it, and references
ask for it.  As long as no value names it by itself and no form holds a colon, both sides mean
the values without a form, whatever the name is.
-/

namespace SurveyForm

open Xml (Element)

namespace Xml

namespace Element

/-- The forms that are named below an element. -/
def namedForms (element : Element) : List String :=
  (element.descendants.filterMap (·.attribute? "form")).filter (· ≠ "")

/-- Whether a form can be the default below an element: it is not named there, and there is no
colon in it. -/
def LeavesFree (element : Element) (form : String) : Prop :=
  form ∉ element.namedForms ∧ ':' ∉ form.toList

/-- Whether no form that is named below an element holds a colon. -/
def HasPlainForms (element : Element) : Prop :=
  ∀ form ∈ element.namedForms, ':' ∉ form.toList

instance (element : Element) (form : String) : Decidable (element.LeavesFree form) :=
  inferInstanceAs (Decidable (_ ∧ _))

instance (element : Element) : Decidable element.HasPlainForms :=
  inferInstanceAs (Decidable (∀ form ∈ element.namedForms, ':' ∉ form.toList))

end Element

end Xml

theorem colons_eq_zero_iff {text : String} : colons text = 0 ↔ ':' ∉ text.toList :=
  List.count_eq_zero

namespace TextValue

variable {form id key : String} {value : TextValue} {values : List TextValue}

/-- A value with a form in place of an empty one. -/
def withDefault (form : String) (value : TextValue) : TextValue :=
  if value.form = "" then { value with form } else value

theorem formOf_eq_ite (form : String) (value : Element) :
    TextEntry.formOf form value =
      if TextEntry.formOf "" value = "" then form else TextEntry.formOf "" value := by
  unfold TextEntry.formOf
  cases value.attribute? "form" with
  | none => rfl
  | some own => by_cases hown : own = "" <;> simp [hown]

/-- The default form comes into the values of an entry at the end. -/
theorem ofEntry_eq_map_withDefault (form : String) (entry : Element) :
    ofEntry form entry = (ofEntry "" entry).map (withDefault form) := by
  unfold ofEntry
  cases entry.attribute? "id" with
  | none => rfl
  | some id =>
      dsimp only
      split
      · rfl
      · rw [List.map_map]
        apply List.map_congr_left
        intro value _
        rw [Function.comp_apply, withDefault, formOf_eq_ite]
        split <;> rfl

theorem ofBlock_eq_map_withDefault (form : String) (block : Element) :
    ofBlock form block = (ofBlock "" block).map (withDefault form) := by
  rw [ofBlock, ofBlock, List.map_flatMap]
  simp only [← ofEntry_eq_map_withDefault]

/-- A value of a block has a form that is named below it, unless it has none. -/
theorem form_mem_namedForms {itext block : Element} (hblock : block ∈ itext.descendants)
    (hvalue : value ∈ ofBlock "" block) (hown : value.form ≠ "") :
    value.form ∈ itext.namedForms := by
  obtain ⟨entry, hentry, hmem⟩ := List.mem_flatMap.mp hvalue
  unfold ofEntry at hmem
  split at hmem
  · contradiction
  · split at hmem
    · contradiction
    · obtain ⟨element, helement, rfl⟩ := List.mem_map.mp hmem
      have hbelow : element ∈ itext.descendants := by
        apply Xml.descendants_subset hblock
        apply Xml.descendants_subset (List.mem_filter.mp hentry).1
        exact Xml.mem_descendants_of_mem_elements helement element List.mem_cons_self
      refine List.mem_filter.mpr ⟨List.mem_filterMap.mpr ⟨element, hbelow, ?_⟩, by simpa using hown⟩
      dsimp only at hown ⊢
      unfold TextEntry.formOf at hown ⊢
      split
      · next hnone => simp [hnone] at hown
      · next own hform =>
          have hne : own ≠ "" := by
            rintro rfl
            simp [hform] at hown
          rw [if_neg hne]
          exact hform

theorem last?_eq_getLast? (values : List TextValue) (key : String) :
    last? values key = (values.filter (·.key = key)).getLast? := by
  rw [last?, ← List.head?_filter, List.filter_reverse, List.head?_reverse]

/-- A value has the key of the default form exactly if it has the id and no form. -/
theorem key_withDefault_eq_iff (hform : colons form = 0)
    (hvalue : value.form ≠ "" → value.form ≠ form ∧ colons value.form = 0) :
    (value.withDefault form).key = textKey id form ↔ value.id = id ∧ value.form = "" := by
  unfold withDefault
  split
  · next hnone =>
      have hsame := @textKey_eq_and_colons_eq_iff value.id form id form
      simpa [hnone, key] using hsame
  · next hown =>
      obtain ⟨hne, hplain⟩ := hvalue hown
      have hsame := @textKey_eq_and_colons_eq_iff value.id value.form id form
      rw [hplain, hform] at hsame
      simpa [hown, hne, key] using hsame

/-- What is found under the default form is the last value without a form. -/
theorem text_last?_withDefault (hform : colons form = 0)
    (hvalues : ∀ value ∈ values, value.form ≠ "" → value.form ≠ form ∧ colons value.form = 0) :
    (last? (values.map (withDefault form)) (textKey id form)).map (·.text) =
      (values.filter fun value => value.id = id ∧ value.form = "").getLast?.map (·.text) := by
  have htext : (·.text) ∘ withDefault form = (·.text) := by
    funext value
    rw [Function.comp_apply, withDefault]
    split <;> rfl
  have hfound : values.filter ((fun value => decide (value.key = textKey id form)) ∘
      withDefault form) = values.filter fun value => value.id = id ∧ value.form = "" := by
    apply List.filter_congr
    intro value hvalue
    exact decide_eq_decide.mpr (key_withDefault_eq_iff hform (hvalues value hvalue))
  rw [last?_eq_getLast?, List.filter_map, List.getLast?_map, Option.map_map, htext, hfound]

end TextValue

open TextValue (ofBlock last?)

namespace TranslationTable

variable {itext : Element} {form first second id : String}

/-- The text without a form that an entry of a language has. -/
def plainText? (itext : Element) (id language : String) : Option String :=
  (lastBlock? itext language).bind fun block =>
    ((ofBlock "" block).filter fun value => value.id = id ∧ value.form = "").getLast?.map (·.text)

/-- Under the default form, a language leads to the texts without a form. -/
theorem get?_default (options : Options) (hplain : itext.HasPlainForms)
    (hfree : itext.LeavesFree form) (id language : String) :
    ((ofElement { options with defaultTextForm := form } (some itext)).languages.get?
        language).bind (·.get? (textKey id form)) = plainText? itext id language := by
  rw [get?_languages, plainText?]
  cases hblock : lastBlock? itext language with
  | none => rfl
  | some block =>
      have hmem : block ∈ itext.descendants := by
        have hfound := List.mem_of_find?_eq_some hblock
        exact (List.mem_filter.mp (List.mem_reverse.mp hfound)).1
      have hvalues : ∀ value ∈ ofBlock "" block, value.form ≠ "" →
          value.form ≠ form ∧ colons value.form = 0 := by
        intro value hvalue hown
        have hnamed := TextValue.form_mem_namedForms hmem hvalue hown
        exact ⟨fun heq => hfree.1 (heq ▸ hnamed), colons_eq_zero_iff.mpr (hplain _ hnamed)⟩
      rw [Option.map_some, Option.bind_some, TextEntry.get?_textsOfAll, Option.bind_some]
      change (last? (ofBlock form block) _).map _ = _
      rw [TextValue.ofBlock_eq_map_withDefault,
        TextValue.text_last?_withDefault (colons_eq_zero_iff.mpr hfree.2) hvalues]

/-- The default form has no say in what the default language is. -/
theorem languageOr_defaultTextForm (options : Options) (form : String) (itext : Option Element) :
    (ofElement { options with defaultTextForm := form } itext).languageOr =
      (ofElement options itext).languageOr := by
  have hdefault : (ofElement { options with defaultTextForm := form } itext).defaultLanguage =
      (ofElement options itext).defaultLanguage := by
    rw [ofElement, ofElement, foldl_addBlock, foldl_addBlock]
  funext language
  unfold languageOr
  rw [hdefault]

theorem text_missing (table : TranslationTable) (language : Option String) :
    table.text .missing language = "" :=
  rfl

theorem text_plain (table : TranslationTable) (content : String) (language : Option String) :
    table.text (.plain content) language = content :=
  rfl

/-- Whether two forms can both be the default below an element. -/
def Interchangeable (itext : Element) (first second : String) : Prop :=
  itext.HasPlainForms ∧ itext.LeavesFree first ∧ itext.LeavesFree second

instance (itext : Element) (first second : String) :
    Decidable (Interchangeable itext first second) :=
  inferInstanceAs (Decidable (_ ∧ _))

/-- What an element says is the same text under two default forms that are both free. -/
theorem text_ofElement_defaultTextForm {itext : Option Element}
    (hforms : ∀ element, itext = some element → Interchangeable element first second)
    (options : Options) (element : Element) (language : Option String) :
    (ofElement { options with defaultTextForm := first } itext).text
        (Caption.ofElement first element) language =
      (ofElement { options with defaultTextForm := second } itext).text
        (Caption.ofElement second element) language := by
  unfold Caption.ofElement
  cases (element.attribute? "ref").bind fun ref => Caption.entryId? ref.toList with
  | none =>
      cases element.text? with
      | none => rw [text_missing, text_missing]
      | some content => rw [text_plain, text_plain]
  | some id =>
      simp only [text, languageOr_defaultTextForm, TextReference.key]
      cases itext with
      | none => cases (ofElement options none).languageOr language <;> rfl
      | some itext =>
          obtain ⟨hplain, hfirst, hsecond⟩ := hforms itext rfl
          simp only [Option.bind_assoc, get?_default options hplain hfirst,
            get?_default options hplain hsecond]

end TranslationTable

end SurveyForm
