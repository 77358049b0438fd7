import SurveyForm.Proofs.Body.Remarks
import SurveyForm.Proofs.Form.Loading
import SurveyForm.Proofs.Head.Remarks
/-!
Remarks in a form.  Leaving them out changes neither the form nor the error, unless one
stands in a text that is read up to the first child only.
-/

namespace SurveyForm

open Xml (Element Node)

namespace Frame

def withoutRemarks (frame : Frame) : Frame :=
  ⟨frame.head.withoutRemarks, frame.body.withoutRemarks⟩

theorem part_withoutRemarks (root : Element) (name : String) :
    part root.withoutRemarks name = (part root name).map Element.withoutRemarks := by
  rw [part, part, Element.elements_withoutRemarks, List.filter_map]
  simp only [Function.comp_def, Element.name_withoutRemarks, Element.tag_withoutRemarks]
  generalize List.filter _ root.elements = found
  rcases found with _ | ⟨first, _ | ⟨second, rest⟩⟩
  · rfl
  · rfl
  · simp [Except.map]

theorem check_withoutRemarks (root : Element) :
    check root.withoutRemarks = (check root).map withoutRemarks := by
  have hprefix : missingPrefix? root.withoutRemarks = missingPrefix? root := by
    simp [missingPrefix?]
  rw [check_eq, check_eq, Element.name_withoutRemarks, Element.tag_withoutRemarks, hprefix,
    part_withoutRemarks, part_withoutRemarks]
  split
  · rfl
  · split
    · rfl
    · split
      · rfl
      · cases part root "head" with
        | error cause => rfl
        | ok head =>
            cases part root "body" with
            | error cause => rfl
            | ok body => rfl

theorem ofRoot_withoutRemarks (root : Element) :
    ofRoot root.withoutRemarks = (ofRoot root).map withoutRemarks := by
  rw [ofRoot, ofRoot, Element.hasPlainName_withoutRemarks, check_withoutRemarks]
  split
  · cases check root <;> rfl
  · rfl

/-- Whether no remark stands where loading a form would see it. -/
structure Keeps (frame : Frame) : Prop where
  head : KeepsHead frame.head
  captions : ∀ holder ∈ frame.body.descendants, KeepsCaptions holder

end Frame

namespace Form

variable {root : Element}

theorem ofFrame_withoutRemarks {frame : Frame} (hkeeps : frame.Keeps) (options : Options) :
    ofFrame options frame.withoutRemarks = ofFrame options frame := by
  rw [ofFrame, ofFrame, Frame.withoutRemarks, Definitions.load_withoutRemarks hkeeps.head]
  simp only [BodyReader.build_withoutRemarks hkeeps.captions,
    BodyReader.diagnostics_withoutRemarks]

/-- A form, or the error in its place, is the same without remarks, if none stands where loading
the form would see it. -/
theorem ofTree_withoutRemarks (hkeeps : ∀ frame, Frame.ofRoot root = .ok frame → frame.Keeps)
    (options : Options) :
    Form.ofTree options root.withoutRemarks = Form.ofTree options root := by
  rw [ofTree, ofTree, Frame.ofRoot_withoutRemarks]
  cases hframe : Frame.ofRoot root with
  | error cause => rfl
  | ok frame => exact ofFrame_withoutRemarks (hkeeps frame hframe) options

/-- A form with remarks behind its texts, between its elements and in a translation. -/
def remarkedForm : Element :=
  let value := Node.ofParts "value" [] [.text "x", .comment, .text "y"]
  let entry := Node.ofParts "text" [("id", "q")] [.comment, value]
  documentOf [.text "Remarks", .comment]
    [.comment,
      Node.ofParts "instance" []
        [.instruction, Node.ofParts "data" [] [.text " ", .comment, .text " ",
          Node.ofParts "a" [] [.text "1", .instruction]]],
      Node.ofParts "bind" [("nodeset", "/data/a"), ("type", "int")] [.comment],
      Node.ofParts "itext" [] [Node.ofParts "translation" [("lang", "en")] [entry]]]
    [.comment, Node.ofParts "input" [("ref", "a")]
      [.comment, Node.ofParts "label" [] [.text "A", .comment]]]

theorem ofTree_withoutRemarks_remarkedForm :
    (∀ frame, Frame.ofRoot remarkedForm = .ok frame → frame.Keeps) ∧
      (Form.ofTree {} remarkedForm).map (·.title) = .ok "Remarks" ∧
      Form.ofTree {} remarkedForm.withoutRemarks = Form.ofTree {} remarkedForm := by
  have hkeeps : ∀ frame, Frame.ofRoot remarkedForm = .ok frame → frame.Keeps := by
    intro frame hframe
    obtain rfl := Except.ok.inj (hframe.symm.trans rfl)
    refine ⟨⟨?_, ?_, ?_⟩, ?_⟩
    · intro title htitle
      obtain rfl := Option.some.inj (htitle.symm.trans rfl)
      decide
    · intro model data hinstance
      obtain ⟨rfl, rfl⟩ := Prod.mk.inj (Except.ok.inj (hinstance.symm.trans rfl))
      decide
    · intro model data hinstance
      obtain ⟨rfl, rfl⟩ := Prod.mk.inj (Except.ok.inj (hinstance.symm.trans rfl))
      unfold KeepsEntries KeepsValues
      decide
    · unfold KeepsCaptions
      decide
  exact ⟨hkeeps, by decide +kernel, ofTree_withoutRemarks hkeeps {}⟩

/-- A form with a comment in the text of a field. -/
def commentInField : Element :=
  documentOf [] [Node.ofParts "instance" []
    [Node.ofParts "data" [] [Node.ofParts "a" [] [.text "x", .comment, .text "y"]]]] []

/-- What stands behind the comment is lost to the field, unless the comment is left out. -/
theorem ofTree_withoutRemarks_ne :
    Form.ofTree {} commentInField.withoutRemarks ≠ Form.ofTree {} commentInField := by
  have hread : (Form.ofTree {} commentInField).map (·.fields.map (·.defaultValue)) =
      .ok [none, some "x"] := by
    decide +kernel
  have hwhole : (Form.ofTree {} commentInField.withoutRemarks).map
      (·.fields.map (·.defaultValue)) = .ok [none, some "xy"] := by
    decide +kernel
  intro heq
  rw [heq, hread] at hwhole
  revert hwhole
  decide

end Form

end SurveyForm
