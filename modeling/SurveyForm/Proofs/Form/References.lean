import SurveyForm.Proofs.Bind.References
import SurveyForm.Proofs.Body.References
import SurveyForm.Proofs.Form.Loading
/-!
References in a form that loads.  Each control refers from the base path of its place, which
the nodesets of the repeats around it move and nothing else does, and all paths that come up
are absolute.
-/

namespace SurveyForm

open Xml (Element Node Place)

namespace Form

variable {options : Options} {root : Element} {form : Form}

/-- The references of a form start where they should: controls are built at the base paths of
their places, and wherever a step up is taken, there is a slash to go back to. -/
structure RefersFrom (options : Options) (form : Form) (body : Element) : Prop where
  controls : List.Forall₂
    (fun place control => BodyReader.BuiltAt ⟨form.basePath, form.fields, options⟩ place control ∧
      control.ref = (place.element.attribute? "ref").map
        (Path.resolve · (place.basePath form.basePath)))
    ((Place.below body).filter Place.isControl) form.allControls
  bases : ∀ place ∈ Place.below body, Path.IsAbsolute (place.basePath form.basePath) ∧
    Path.StepsToSlash (place.basePath form.basePath)
  refs : ∀ control ∈ form.allControls, ∀ ref, control.ref = some ref → Path.IsAbsolute ref
  fields : ∀ field ∈ form.fields, Path.IsAbsolute field.path ∧ Path.StepsToSlash field.path ∧
    ∀ expr ∈ field.logic, ∀ path ∈ expr.referencedPaths, Path.IsAbsolute path

/-- Whatever form loads, it refers from the base paths of the places in its body. -/
theorem refersFrom_of_ofTree (hload : Form.ofTree options root = .ok form) :
    ∃ frame, Frame.ofRoot root = .ok frame ∧ form.RefersFrom options frame.body := by
  obtain ⟨source, rfl⟩ := exists_source_of_ofTree hload
  have hroot : Path.IsAbsolute source.form.basePath := Path.isAbsolute_slash_append _
  have hbuilt := @BodyReader.forall₂_builtAt
    ⟨source.form.basePath, source.form.fields, options⟩ source.frame.body
  refine ⟨source.frame, source.frame_eq, ?_, ?_, ?_, ?_⟩
  · exact hbuilt.imp fun place control hcontrol => ⟨hcontrol, hcontrol.ref_eq⟩
  · intro place _
    have hbase := place.isAbsolute_basePath hroot
    exact ⟨hbase, hbase.stepsToSlash⟩
  · exact BodyReader.isAbsolute_ref hroot hbuilt
  · have hfields := Definitions.refersAbsolutely_of_applyBinds source.binds_eq
    intro field hfield
    obtain ⟨hpath, hlogic⟩ := hfields field hfield
    exact ⟨hpath, hpath.stepsToSlash, hlogic⟩

/-- A form with a repeat that has no nodeset between two that have one, a group between them
with a reference of its own, and logic that steps up. -/
def climbingForm : Element :=
  let question (ref : String) := Node.ofParts "input" [("ref", ref)] [Node.ofParts "label" [] []]
  let innermost := Node.ofParts "repeat" [("nodeset", "../s")]
    [question "./a", question "../../b", Node.ofParts "upload" [] [Node.ofParts "label" [] []]]
  let middle := Node.ofParts "repeat" [] [innermost, question "."]
  documentOf [.text "Climbing"]
    [Node.ofParts "instance" [] [Node.ofParts "data" [] [Node.ofParts "a" [] []]],
      Node.ofParts "bind" [("nodeset", "a"), ("relevant", "../b > 1 or selected(/c, 'x')"),
        ("calculate", "if(../../d = '', concat(.), uuid())")] []]
    [Node.ofParts "group" []
      [Node.ofParts "repeat" [("nodeset", "r")]
        [Node.ofParts "group" [("ref", "../g"), ("nodeset", "h")] [middle]]],
      question "../e"]

theorem refersFrom_of_ofTree_climbingForm :
    ∃ form frame, Form.ofTree {} climbingForm = .ok form ∧
      form.allControls.map Control.ref =
        [none, some "/data/g", some "/data/s/a", some "/data/../b", none, some "/data/r",
          some "/e"] ∧
      form.fields.flatMap (·.logic.flatMap ExprOver.referencedPaths) =
        ["/data/../d", "/data/b", "/c"] ∧
      Frame.ofRoot climbingForm = .ok frame ∧ form.RefersFrom {} frame.body := by
  have hshown : (Form.ofTree {} climbingForm).map (fun form =>
      (form.allControls.map Control.ref,
        form.fields.flatMap (·.logic.flatMap ExprOver.referencedPaths))) =
      .ok ([none, some "/data/g", some "/data/s/a", some "/data/../b", none, some "/data/r",
        some "/e"], ["/data/../d", "/data/b", "/c"]) := by
    decide +kernel
  cases hload : Form.ofTree {} climbingForm with
  | error cause =>
      rw [hload] at hshown
      contradiction
  | ok form =>
      rw [hload] at hshown
      obtain ⟨hrefs, hpaths⟩ := Prod.mk.inj (Except.ok.inj hshown)
      obtain ⟨frame, hframe, hrefers⟩ := refersFrom_of_ofTree hload
      exact ⟨form, frame, rfl, hrefs, hpaths, hframe, hrefers⟩

end Form

end SurveyForm
