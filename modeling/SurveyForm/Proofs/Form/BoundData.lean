import SurveyForm.Proofs.Bind.Replacement
import SurveyForm.Proofs.Body.References
import SurveyForm.Proofs.Form.Layout
/-!
What questions take over from fields.  The data of a field are copied into each question at
its path while the body is walked, after all binds, so that they are those of the field as
the form has it, wherever the question stands and however it writes its reference.
-/

namespace SurveyForm

variable {field : Field} {ref : Option String}

namespace Question

/-- A question that says of its values what a field says. -/
structure AgreesWith (question : Question) (field : Field) : Prop where
  dataType : question.bound.dataType = field.type
  defaultValue : question.bound.defaultValue = field.defaultValue
  required : question.bound.required = field.required
  readonly : question.bound.readonly = field.readonly
  calculate : question.bound.calculate = field.calculate
  constraint : question.bound.constraint = field.constraint
  relevant : question.bound.relevant = field.relevant
  attributes : question.bound.attributes = field.attributes

/-- A question that says nothing about its values. -/
structure IsUnbound (question : Question) : Prop where
  dataType : question.bound.dataType = none
  defaultValue : question.bound.defaultValue = none
  required : question.bound.required = none
  readonly : question.bound.readonly = none
  calculate : question.bound.calculate = none
  constraint : question.bound.constraint = none
  relevant : question.bound.relevant = none
  attributes : question.bound.attributes = []

theorem agreesWith_of_bound_eq {question : Question}
    (hbound : question.bound = BoundData.ofField field) : question.AgreesWith field := by
  constructor <;> rw [hbound] <;> rfl

theorem isUnbound_of_bound_eq {question : Question} (hbound : question.bound = {}) :
    question.IsUnbound := by
  constructor <;> rw [hbound]

end Question

namespace BodyReader

variable {reader : BodyReader}

theorem boundData_path (hpaths : reader.fields.paths.Nodup) (hfield : field ∈ reader.fields) :
    reader.boundData (some field.path) = BoundData.ofField field := by
  rw [boundData, Option.bind_some, FieldMap.get?_of_mem hpaths hfield]
  rfl

theorem boundData_of_forall_ne (hnone : ∀ field ∈ reader.fields, ref ≠ some field.path) :
    reader.boundData ref = {} := by
  cases ref with
  | none => rfl
  | some path =>
      have hget : reader.fields.get? path = none := by
        rw [FieldMap.get?, List.find?_eq_none]
        intro field hfield hpath
        exact hnone field hfield (congrArg some (of_decide_eq_true hpath).symm)
      rw [boundData, Option.bind_some, hget]
      rfl

/-- The data of a question are looked up under the reference of its own heading. -/
theorem BuiltAt.bound_eq {place : Xml.Place} {question : Question}
    (hbuilt : reader.BuiltAt place (.question question)) :
    question.bound = reader.boundData question.heading.ref := by
  cases hbuilt with
  | question => rfl

end BodyReader

namespace Form

variable {options : Options} {root : Xml.Element} {form : Form}

/-- All data of questions come out of the fields that the form ends up with. -/
theorem Source.bound_eq (source : Source options root) {question : Question}
    (hquestion : question ∈ source.form.questions) :
    question.bound =
      BodyReader.boundData ⟨source.form.basePath, source.form.fields, options⟩
        question.heading.ref := by
  obtain ⟨control, hcontrol, hcontent⟩ := List.mem_filterMap.mp hquestion
  obtain ⟨place, hbuilt⟩ :=
    BodyReader.exists_builtAt (BodyReader.forall₂_builtAt source.frame.body) hcontrol
  cases control with
  | question content =>
      obtain rfl := Option.some.inj hcontent
      exact hbuilt.bound_eq
  | group => contradiction

/-- In a form that loads, each question whose reference is the path of a field agrees with the
field, and any other says nothing about its values.  So two questions with the same reference
always say the same. -/
theorem questions_agree_of_ofTree (hload : Form.ofTree options root = .ok form) :
    (∀ question ∈ form.questions,
      (∀ field ∈ form.fields, question.heading.ref = some field.path →
        question.AgreesWith field) ∧
      ((∀ field ∈ form.fields, question.heading.ref ≠ some field.path) →
        question.IsUnbound)) ∧
    ∀ question ∈ form.questions, ∀ other ∈ form.questions,
      question.heading.ref = other.heading.ref → question.bound = other.bound := by
  obtain ⟨source, rfl⟩ := exists_source_of_ofTree hload
  refine ⟨fun question hquestion => ⟨?_, ?_⟩, ?_⟩
  · intro field hfield href
    apply Question.agreesWith_of_bound_eq
    rw [source.bound_eq hquestion, href]
    exact BodyReader.boundData_path source.nodup_paths hfield
  · intro hnone
    apply Question.isUnbound_of_bound_eq
    rw [source.bound_eq hquestion]
    exact BodyReader.boundData_of_forall_ne hnone
  · intro question hquestion other hother href
    rw [source.bound_eq hquestion, source.bound_eq hother, href]

/-- A form in which one field has questions in three places, under three references, and two
binds, and in which others refer to a container, to no field and to nothing. -/
def sharedField : Xml.Element :=
  let question (tag : String) (attributes : List (String × String)) :=
    Xml.Node.ofParts tag attributes [Xml.Node.ofParts "label" [] []]
  let bind (attributes : List (String × String)) := Xml.Node.ofParts "bind" attributes []
  documentOf [.text "Shared"]
    [Xml.Node.ofParts "instance" []
        [Xml.Node.ofParts "data" [] [Xml.Node.ofParts "a" [] [.text "7"],
          Xml.Node.ofParts "g" [] [Xml.Node.ofParts "b" [] []]]],
      bind [("nodeset", "a"), ("type", "int"), ("relevant", "../c = 1 or b"), ("length", "3")],
      bind [("nodeset", "/data/g"), ("readonly", "true()")],
      bind [("nodeset", "/data/a"), ("type", "date"), ("required", "true()")]]
    [question "input" [("ref", "/data/a")],
      Xml.Node.ofParts "group" []
        [Xml.Node.ofParts "repeat" [("nodeset", "g")]
          [question "select1" [("ref", "../a")],
            Xml.Node.ofParts "group" [("ref", "../a")] [question "input" [("ref", "../g")]]]],
      question "select" [("ref", "a")], question "upload" [("ref", "/data/x")],
      question "trigger" []]

theorem questions_agree_of_ofTree_sharedField :
    ∃ form, Form.ofTree {} sharedField = .ok form ∧
      form.questions.map (fun question => (question.heading.ref, question.bound.dataType)) =
        [(some "/data/a", some "date"), (some "/data/a", some "date"), (some "/data/g", none),
          (some "/data/a", some "date"), (some "/data/x", none), (none, none)] ∧
      form.fields.map (fun field => (field.path, field.type)) =
        [("/data", none), ("/data/a", some "date"), ("/data/g", none),
          ("/data/g/b", some "string")] ∧
      (∀ question ∈ form.questions, ∀ field ∈ form.fields,
        question.heading.ref = some field.path → question.AgreesWith field) ∧
      ∀ question ∈ form.questions, ∀ other ∈ form.questions,
        question.heading.ref = other.heading.ref → question.bound = other.bound := by
  have hshown : (Form.ofTree {} sharedField).map (fun form =>
      (form.questions.map (fun question => (question.heading.ref, question.bound.dataType)),
        form.fields.map fun field => (field.path, field.type))) =
      .ok ([(some "/data/a", some "date"), (some "/data/a", some "date"), (some "/data/g", none),
          (some "/data/a", some "date"), (some "/data/x", none), (none, none)],
        [("/data", none), ("/data/a", some "date"), ("/data/g", none),
          ("/data/g/b", some "string")]) := by
    decide +kernel
  obtain ⟨form, hload, hview⟩ := exists_ofTree_of_map_eq hshown
  obtain ⟨hquestions, hfields⟩ := Prod.mk.inj hview
  obtain ⟨hagree, hsame⟩ := questions_agree_of_ofTree hload
  exact ⟨form, hload, hquestions, hfields, fun question hquestion => (hagree question hquestion).1,
    hsame⟩

end Form

end SurveyForm
