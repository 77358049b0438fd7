import SurveyForm.Proofs.Body.References
import SurveyForm.Proofs.Form.DepthLimit
import SurveyForm.Proofs.Translation.DefaultForm
/-!
What the controls of a form show.  It is said by the elements of the body and by the
translations, and it is the same under any two default forms that no value names.
-/

namespace SurveyForm

open Xml (Element Node Place)
open TranslationTable (Interchangeable)

/-- What a control shows in a language: its label, its hint, and the label and the value of each
of its options. -/
structure ShownTexts where
  label : String
  hint : String
  choices : List (String × String)
deriving DecidableEq, Repr

/-- The texts of a control in a table. -/
def Control.shownTexts (table : TranslationTable) (language : Option String)
    (control : Control) : ShownTexts :=
  { label := table.text control.heading.label language
    hint := table.text control.heading.hint language
    choices := (control.question?.bind (·.selection)).toList.flatMap fun selection =>
      selection.choices.map fun choice =>
        (table.text choice.label language, table.text choice.value language) }

namespace Xml.Element

/-- What a child of an element says in a language. -/
def childText (options : Options) (itext : Option Element) (language : Option String)
    (holder : Element) (name : String) : String :=
  (TranslationTable.ofElement options itext).text
    (Caption.ofChild options.defaultTextForm holder name) language

/-- The texts of the control that an element becomes. -/
def shownTexts (options : Options) (itext : Option Element) (language : Option String)
    (element : Element) : ShownTexts :=
  { label := element.childText options itext language "label"
    hint := element.childText options itext language "hint"
    choices :=
      if element.name = "select" ∨ element.name = "select1" then
        (element.childrenNamed "item").map fun item =>
          (item.childText options itext language "label",
            item.childText options itext language "value")
      else [] }

variable {itext : Option Element} {first second : String}

theorem childText_defaultTextForm
    (hforms : ∀ element, itext = some element → Interchangeable element first second)
    (options : Options) (language : Option String) (holder : Element) (name : String) :
    holder.childText { options with defaultTextForm := first } itext language name =
      holder.childText { options with defaultTextForm := second } itext language name := by
  unfold childText Caption.ofChild
  cases holder.child? name with
  | none => rw [TranslationTable.text_missing, TranslationTable.text_missing]
  | some child => exact TranslationTable.text_ofElement_defaultTextForm hforms options child language

theorem shownTexts_defaultTextForm
    (hforms : ∀ element, itext = some element → Interchangeable element first second)
    (options : Options) (language : Option String) (element : Element) :
    element.shownTexts { options with defaultTextForm := first } itext language =
      element.shownTexts { options with defaultTextForm := second } itext language := by
  simp only [shownTexts, childText_defaultTextForm hforms]

end Xml.Element

namespace BodyReader

variable {reader : BodyReader} {place : Place} {control : Control}

/-- The options of a question show what the items of its element say. -/
theorem shownChoices_selection? (reader : BodyReader) (element : Element)
    (itext : Option Element) (language : Option String) :
    let table := TranslationTable.ofElement reader.options itext
    ((reader.selection? element).toList.flatMap fun selection => selection.choices.map fun choice =>
        (table.text choice.label language, table.text choice.value language)) =
      (element.shownTexts reader.options itext language).choices := by
  intro table
  simp only [selection?, isSelection_iff, Element.shownTexts]
  split
  · rw [Option.toList_some, List.flatMap_singleton, List.map_map]
    rfl
  · rfl

/-- A control shows what its element says. -/
theorem BuiltAt.shownTexts_eq (hbuilt : reader.BuiltAt place control) (itext : Option Element)
    (language : Option String) :
    control.shownTexts (TranslationTable.ofElement reader.options itext) language =
      place.element.shownTexts reader.options itext language := by
  cases hbuilt with
  | group hname =>
      have hnone : (place.element.shownTexts reader.options itext language).choices = [] := by
        rw [Element.shownTexts, if_neg (by simp [hname])]
      exact congrArg (ShownTexts.mk _ _) hnone.symm
  | question =>
      exact congrArg (ShownTexts.mk _ _) (shownChoices_selection? reader place.element itext language)

/-- The controls of a body show what the elements at their places say. -/
theorem map_shownTexts (reader : BodyReader) (body : Element) (itext : Option Element)
    (language : Option String) :
    (Control.traverse (buildNodes reader reader.basePath body.children).controls).map
        (Control.shownTexts (TranslationTable.ofElement reader.options itext) language) =
      ((Place.below body).filter Place.isControl).map
        (·.element.shownTexts reader.options itext language) := by
  have hshown := (@forall₂_builtAt reader body).imp fun place control hbuilt =>
    (hbuilt.shownTexts_eq itext language).symm
  have hmapped := List.forall₂_map_left_iff.mpr (List.forall₂_map_right_iff.mpr hshown)
  rw [List.forall₂_eq_eq_eq] at hmapped
  exact hmapped.symm

end BodyReader

namespace Form

variable {root : Element} {frame : Frame}

/-- What the controls of a form show in a language, in document order. -/
def shownTexts (form : Form) (language : Option String) : List ShownTexts :=
  form.allControls.map (Control.shownTexts form.translations language)

/-- The element with the translations of the form in a tree. -/
def itext? (root : Element) : Option Element :=
  (Frame.ofRoot root).toOption.bind fun frame =>
    (frame.head.child? "model").bind (·.child? "itext")

theorem itext?_eq {model data : Element} (hframe : Frame.ofRoot root = .ok frame)
    (hinstance : Definitions.instanceRoot? frame.head = .ok (model, data)) :
    itext? root = model.child? "itext" := by
  obtain ⟨hmodel, -⟩ := Definitions.child?_of_instanceRoot? hinstance
  rw [itext?, hframe, Except.toOption, Option.bind_some, hmodel, Option.bind_some]

/-- Without an instance, a form fails whatever the options are. -/
theorem ofTree_of_instanceRoot?_error (hframe : Frame.ofRoot root = .ok frame) {cause : LoadError}
    (hinstance : Definitions.instanceRoot? frame.head = .error cause) (options : Options) :
    ofTree options root = .error cause := by
  rw [ofTree, hframe]
  change ofFrame options frame = _
  rw [ofFrame_eq, Definitions.load, hinstance]
  rfl

/-- What the controls of a form show is said by the elements in its body. -/
theorem map_shownTexts_ofTree_eq {model data : Element} (hframe : Frame.ofRoot root = .ok frame)
    (hinstance : Definitions.instanceRoot? frame.head = .ok (model, data)) (options : Options)
    (language : Option String) :
    (ofTree options root).map (·.shownTexts language) =
      if options.maxDepth < InstanceVisit.levelsOf data then
        .error (.tooDeep .instanceData options.maxDepth)
      else if !isReadableHead frame.head model data then .error .brokenOff
      else if options.maxDepth < BodyVisit.levelsOf frame.body then
        .error (.tooDeep .body options.maxDepth)
      else if !BodyVisit.areReadable frame.body then .error .brokenOff
      else .ok (((Place.below frame.body).filter Place.isControl).map
        (·.element.shownTexts options (model.child? "itext") language)) := by
  rw [ofTree_eq hframe hinstance]
  split
  · rfl
  · split
    · rfl
    · split
      · rfl
      · split
        · rfl
        · have hshown := BodyReader.map_shownTexts
            ⟨"/" ++ data.name, (Head.ofInstance options frame.head model data).fields, options⟩
            frame.body (model.child? "itext") language
          exact congrArg Except.ok hshown

/-- Two default forms that are both free give forms that show the same, control by control and in
every language, or the same error. -/
theorem map_shownTexts_ofTree {first second : String}
    (hforms : ∀ itext, itext? root = some itext → Interchangeable itext first second)
    (options : Options) (language : Option String) :
    (ofTree { options with defaultTextForm := first } root).map (·.shownTexts language) =
      (ofTree { options with defaultTextForm := second } root).map (·.shownTexts language) := by
  cases hframe : Frame.ofRoot root with
  | error cause =>
      rw [ofTree, ofTree, hframe]
      rfl
  | ok frame =>
      cases hinstance : Definitions.instanceRoot? frame.head with
      | error cause =>
          rw [ofTree_of_instanceRoot?_error hframe hinstance,
            ofTree_of_instanceRoot?_error hframe hinstance]
      | ok found =>
          obtain ⟨model, data⟩ := found
          rw [itext?_eq hframe hinstance] at hforms
          simp only [map_shownTexts_ofTree_eq hframe hinstance,
            Element.shownTexts_defaultTextForm hforms]

/-- A form with a group, a question and a selection.  There are colons in the ids of their
entries, and these have a short value only, two values without a form, or an empty form. -/
def captionedForm : Element :=
  let text (name content : String) := Node.ofParts name [] [.text content]
  let reference (name id : String) := Node.ofParts name [("ref", "jr:itext('" ++ id ++ "')")] []
  let value (attributes : List (String × String)) (content : String) :=
    Node.ofParts "value" attributes [.text content]
  let entry (id : String) (values : List Node) := Node.ofParts "text" [("id", id)] values
  documentOf [.text "Captioned"]
    [Node.ofParts "instance" [] [Node.ofParts "data" [] [Node.ofParts "a" [] []]],
      Node.ofParts "itext" []
        [Node.ofParts "translation" [("lang", "en")]
            [entry "/data/a:label" [value [("form", "short")] "A?", value [] "First", value [] "A"],
              entry "/data/a" [value [("form", "short")] "a"],
              entry "x:" [value [("form", "")] "X"]],
          Node.ofParts "translation" [("lang", "fr")]
            [entry "/data/a:label" [value [] "Le A"]]]]
    [Node.ofParts "group" []
      [reference "label" "x:",
        Node.ofParts "input" [("ref", "a")] [reference "label" "/data/a:label"],
        Node.ofParts "select1" [("ref", "a")]
          [text "label" "Which?", reference "hint" "/data/a",
            Node.ofParts "item" [] [reference "label" "/data/a:label", text "value" "1"]]]]

theorem map_shownTexts_ofTree_captionedForm :
    (∀ itext, itext? captionedForm = some itext → Interchangeable itext "long" "other") ∧
      (ofTree {} captionedForm).map (·.shownTexts none) =
        .ok [⟨"X", "", []⟩, ⟨"A", "", []⟩, ⟨"Which?", "", [("A", "1")]⟩] ∧
      (ofTree { defaultTextForm := "other" } captionedForm).map (·.shownTexts none) =
        .ok [⟨"X", "", []⟩, ⟨"A", "", []⟩, ⟨"Which?", "", [("A", "1")]⟩] := by
  have hforms : ∀ itext, itext? captionedForm = some itext →
      Interchangeable itext "long" "other" := by
    intro itext hitext
    have hall : (itext? captionedForm).toList.all fun itext =>
        decide (Interchangeable itext "long" "other") := by decide +kernel
    rw [hitext] at hall
    simpa using hall
  have hlong : (ofTree {} captionedForm).map (·.shownTexts none) =
      .ok [⟨"X", "", []⟩, ⟨"A", "", []⟩, ⟨"Which?", "", [("A", "1")]⟩] := by decide +kernel
  exact ⟨hforms, hlong, (map_shownTexts_ofTree hforms {} none).symm.trans hlong⟩

end Form

end SurveyForm
