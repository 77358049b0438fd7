import Mathlib.Data.List.Sort
import SurveyForm.Proofs.Bind.Replacement
import SurveyForm.Proofs.Control.Traversal
import SurveyForm.Proofs.Form.References
import SurveyForm.Proofs.Report.Dependencies
/-!
What a report finds where the body and the instance do not match.  The questions are compared
with the fields and the fields with the questions, wherever in the body a question stands; a
group never asks for anything.
-/

namespace SurveyForm

open Xml (Element Node)

variable {question : Question} {field : Field} {path : String}

/-- Sorting by insertion, which computes by recursion on the list, gives the same set. -/
theorem sortedSet_eq_insertionSort (texts : List String) :
    sortedSet texts = (firstOccurrences texts).insertionSort (· ≤ ·) :=
  List.mergeSort_eq_insertionSort (· ≤ ·) (firstOccurrences texts)

/-- How a question is listed whose reference is absolute, if it has one. -/
theorem Question.listing_eq
    (habsolute : ∀ ref, question.heading.ref = some ref → Path.IsAbsolute ref) :
    question.listing = question.heading.ref.getD "<no ref>" := by
  cases href : question.heading.ref with
  | none => simp [listing, href]
  | some ref =>
      have hne : ref ≠ "" := by
        rintro rfl
        exact absurd (habsolute "" href) (by decide)
      simp [listing, href, hne]

namespace Form

variable {options : Options} {root : Element} {form : Form}

/-- Whether a question at whatever depth asks for the value at a path. -/
def AsksFor (form : Form) (path : String) : Prop :=
  ∃ control, Control.Within control form.controls ∧ control.AsksFor path

theorem mem_questions_iff :
    question ∈ form.questions ↔ Control.Within (.question question) form.controls := by
  rw [questions, allControls, List.mem_filterMap, ← Control.mem_traverse_iff]
  constructor
  · rintro ⟨control, hcontrol, hquestion⟩
    cases control with
    | question content =>
        obtain rfl := Option.some.inj hquestion
        exact hcontrol
    | group => contradiction
  · intro hcontrol
    exact ⟨.question question, hcontrol, rfl⟩

theorem asksFor_iff :
    form.AsksFor path ↔ ∃ question ∈ form.questions, question.heading.ref = some path := by
  constructor
  · rintro ⟨_, hwithin, question, rfl, href⟩
    exact ⟨question, mem_questions_iff.mpr hwithin, href⟩
  · rintro ⟨question, hquestion, href⟩
    exact ⟨_, mem_questions_iff.mp hquestion, question, rfl, href⟩

/-- A search for a question comes back empty only if there is none at any depth. -/
theorem question?_eq_none_iff : form.question? path = none ↔ ¬ form.AsksFor path := by
  rw [question?, List.find?_eq_none, asksFor_iff]
  simp

theorem wantsQuestion_iff :
    form.wantsQuestion field = true ↔
      field.isContainer = false ∧ field.calculate = none ∧ field.path ≠ form.basePath := by
  simp [wantsQuestion, and_assoc]

theorem mem_fieldsWithoutQuestion_iff (hpaths : form.fields.paths.Nodup) :
    path ∈ form.fieldsWithoutQuestion ↔
      ∃ field, form.field? path = some field ∧ field.isContainer = false ∧
        field.calculate = none ∧ path ≠ form.basePath ∧ ¬ form.AsksFor path := by
  rw [fieldsWithoutQuestion, mem_sortedSet_iff, List.mem_map]
  simp only [List.mem_filter, Bool.and_eq_true, wantsQuestion_iff, Option.isNone_iff_eq_none,
    question?_eq_none_iff]
  constructor
  · rintro ⟨field, ⟨hfield, ⟨hleaf, hcalculate, hbase⟩, hasks⟩, rfl⟩
    exact ⟨field, FieldMap.get?_of_mem hpaths hfield, hleaf, hcalculate, hbase, hasks⟩
  · rintro ⟨field, hget, hleaf, hcalculate, hbase, hasks⟩
    obtain rfl := FieldMap.path_of_get? hget
    exact ⟨field, ⟨List.mem_of_find?_eq_some hget, ⟨hleaf, hcalculate, hbase⟩, hasks⟩, rfl⟩

theorem isUnbound_iff :
    form.isUnbound question = true ↔
      ∀ ref, question.heading.ref = some ref → ref ∉ form.fields.paths := by
  cases href : question.heading.ref with
  | none => simp [isUnbound, href]
  | some ref => simp [isUnbound, href, ← FieldMap.contains_iff]

/-- References that are absolute are listed as they are, and never as missing. -/
theorem mem_unboundQuestions_iff {listed : String}
    (hrefs : ∀ question ∈ form.questions, ∀ ref, question.heading.ref = some ref →
      Path.IsAbsolute ref) :
    listed ∈ form.unboundQuestions ↔
      (form.AsksFor listed ∧ listed ∉ form.fields.paths) ∨
        listed = "<no ref>" ∧ ∃ question ∈ form.questions, question.heading.ref = none := by
  rw [unboundQuestions, mem_sortedSet_iff, List.mem_map, asksFor_iff]
  simp only [List.mem_filter, isUnbound_iff]
  constructor
  · rintro ⟨question, ⟨hquestion, hunbound⟩, rfl⟩
    rw [Question.listing_eq (hrefs question hquestion)]
    cases href : question.heading.ref with
    | none => exact .inr ⟨rfl, question, hquestion, href⟩
    | some ref => exact .inl ⟨⟨question, hquestion, href⟩, hunbound ref href⟩
  · rintro (⟨⟨question, hquestion, href⟩, hlisted⟩ | ⟨rfl, question, hquestion, href⟩)
    · refine ⟨question, ⟨hquestion, fun ref hother => ?_⟩, ?_⟩
      · obtain rfl := Option.some.inj (href.symm.trans hother)
        exact hlisted
      · rw [Question.listing_eq (hrefs question hquestion), href]
        rfl
    · refine ⟨question, ⟨hquestion, fun ref hother => ?_⟩, ?_⟩
      · rw [href] at hother
        contradiction
      · rw [Question.listing_eq (hrefs question hquestion), href]
        rfl

theorem length_questions (form : Form) :
    form.questions.length =
      (Control.preorderAll form.controls).countP (·.question?.isSome) := by
  rw [questions, allControls_eq, List.length_filterMap_eq_countP]

/-- Questions and groups are all that there is in the tree. -/
theorem length_questions_add_countP (form : Form) :
    form.questions.length + form.allControls.countP (·.question?.isNone) =
      Control.countAll form.controls := by
  have hgroups : (fun control : Control => control.question?.isNone) =
      fun control => decide ¬ control.question?.isSome = true := by
    funext control
    cases control <;> rfl
  rw [length_questions, allControls_eq, hgroups, ← List.length_eq_countP_add_countP,
    Control.length_preorderAll]

theorem isAbsolute_of_mem_paths (hload : Form.ofTree options root = .ok form) :
    ∀ path ∈ form.fields.paths, Path.IsAbsolute path := by
  obtain ⟨source, rfl⟩ := exists_source_of_ofTree hload
  intro path hpath
  obtain ⟨field, hfield, rfl⟩ := List.mem_map.mp hpath
  exact (Definitions.refersAbsolutely_of_applyBinds source.binds_eq field hfield).1

theorem isAbsolute_ref_of_mem_questions (hload : Form.ofTree options root = .ok form) :
    ∀ question ∈ form.questions, ∀ ref, question.heading.ref = some ref →
      Path.IsAbsolute ref := by
  obtain ⟨source, rfl⟩ := exists_source_of_ofTree hload
  intro question hquestion ref href
  have hcontrol : .question question ∈ source.form.allControls :=
    Control.mem_traverse_iff.mpr (mem_questions_iff.mp hquestion)
  exact BodyReader.isAbsolute_ref (Path.isAbsolute_slash_append _)
    (BodyReader.forall₂_builtAt source.frame.body) _ hcontrol ref href

end Form

namespace Report

variable {options : Options} {root : Element} {form : Form}

/-- A report compares the body of a form with its instance at all depths and in both
directions: it lists the fields that should have a question and have none, and the questions
without a field, neither more nor fewer, and each of them once. -/
structure ComparesExactly (report : Report) (form : Form) : Prop where
  withoutQuestion_iff : ∀ path,
    path ∈ report.fieldsWithoutQuestion ↔
      ∃ field, form.field? path = some field ∧ field.isContainer = false ∧
        field.calculate = none ∧ path ≠ form.basePath ∧ ¬ form.AsksFor path
  unbound_iff : ∀ path, path ≠ "<no ref>" →
    (path ∈ report.unboundQuestions ↔ form.AsksFor path ∧ path ∉ form.fields.paths)
  unbound_noRef_iff : "<no ref>" ∈ report.unboundQuestions ↔
    ∃ question, Control.Within (.question question) form.controls ∧ question.heading.ref = none
  questions_eq : report.totalQuestions =
    (Control.preorderAll form.controls).countP (·.question?.isSome)
  total_eq : report.totalQuestions + report.totalGroups = Control.countAll form.controls
  repeatGroups_eq :
    report.repeatGroups = (Control.preorderAll form.controls).countP Control.isRepeatable
  disjoint : ∀ listed ∈ report.unboundQuestions, listed ∉ report.fieldsWithoutQuestion
  asked_not_mem : ∀ path, form.AsksFor path → path ∉ report.fieldsWithoutQuestion
  nodup_unbound : report.unboundQuestions.Nodup
  nodup_withoutQuestion : report.fieldsWithoutQuestion.Nodup

/-- Whatever form loads, a report on it compares its body with its instance exactly. -/
theorem comparesExactly_of_ofTree (hload : Form.ofTree options root = .ok form)
    (depthLimit : Option Int) : (ofForm form depthLimit).ComparesExactly form := by
  have hpaths := Form.nodup_paths_of_ofTree hload
  have hrefs := Form.isAbsolute_ref_of_mem_questions hload
  have hmissing : ¬ Path.IsAbsolute "<no ref>" := by decide
  have hasked : ¬ form.AsksFor "<no ref>" := by
    rw [Form.asksFor_iff]
    rintro ⟨question, hquestion, href⟩
    exact hmissing (hrefs question hquestion _ href)
  constructor
  case withoutQuestion_iff => exact fun path => Form.mem_fieldsWithoutQuestion_iff hpaths
  case unbound_iff =>
    intro path hpath
    apply (Form.mem_unboundQuestions_iff hrefs).trans
    simp [hpath]
  case unbound_noRef_iff =>
    apply (Form.mem_unboundQuestions_iff hrefs).trans
    simp [hasked, Form.mem_questions_iff]
  case questions_eq => exact form.length_questions
  case total_eq => exact form.length_questions_add_countP
  case repeatGroups_eq =>
    rw [← form.allControls_eq]
    apply List.countP_congr
    rintro (content | ⟨heading, repeats, children⟩) - <;> rfl
  case disjoint =>
    intro listed hunbound hwithout
    obtain ⟨field, hget, -, -, -, hasks⟩ :=
      (Form.mem_fieldsWithoutQuestion_iff hpaths).mp hwithout
    have hpath : listed ∈ form.fields.paths :=
      FieldMap.contains_iff.mp (Option.isSome_of_mem hget)
    rcases (Form.mem_unboundQuestions_iff hrefs).mp hunbound with ⟨hasks', -⟩ | ⟨rfl, -⟩
    · exact hasks hasks'
    · exact hmissing (Form.isAbsolute_of_mem_paths hload _ hpath)
  case asked_not_mem =>
    intro path hasks hwithout
    obtain ⟨field, -, -, -, -, hnone⟩ := (Form.mem_fieldsWithoutQuestion_iff hpaths).mp hwithout
    exact hnone hasks
  case nodup_unbound => exact nodup_sortedSet _
  case nodup_withoutQuestion => exact nodup_sortedSet _

/-- A form in which a field has two questions at different depths, another has only a group with
its path, a third is calculated and a fourth is nowhere in the body; and in which questions in
and beside a repeat refer to no field or to nothing. -/
def crossedForm : Element :=
  let question (tag : String) (attributes : List (String × String)) :=
    Node.ofParts tag attributes [Node.ofParts "label" [] []]
  let leaf (name : String) := Node.ofParts name [] []
  Form.documentOf [.text "Crossed"]
    [Node.ofParts "instance" []
        [Node.ofParts "data" []
          [leaf "a", leaf "b", leaf "e", Node.ofParts "g" [] [leaf "c", leaf "d"]]],
      Node.ofParts "bind" [("nodeset", "g/d"), ("calculate", "uuid()")] []]
    [Node.ofParts "group" [("ref", "b")]
        [question "input" [("ref", "a")],
          Node.ofParts "repeat" [("nodeset", "g")]
            [Node.ofParts "group" [] [question "input" [("ref", "c")], question "upload" []]]],
      question "select1" [("ref", "/data/a")], question "input" [("ref", "x")],
      Node.ofParts "group" [] [question "input" [("ref", "/data/x")], question "trigger" []]]

theorem comparesExactly_of_ofTree_crossedForm :
    ∃ form, Form.ofTree {} crossedForm = .ok form ∧
      form.allControls.map Control.ref =
        [some "/data/b", some "/data/a", none, some "/data/g/c", none, some "/data/a",
          some "/data/x", none, some "/data/x", none] ∧
      (ofForm form none).fieldsWithoutQuestion = ["/data/b", "/data/e"] ∧
      (ofForm form none).unboundQuestions = ["/data/x", "<no ref>"] ∧
      ((ofForm form none).totalQuestions, (ofForm form none).totalGroups,
        (ofForm form none).repeatGroups) = (7, 3, 1) ∧
      (ofForm form none).ComparesExactly form := by
  have hshown : (Form.ofTree {} crossedForm).map (fun form =>
      let report := ofForm form none
      (form.allControls.map Control.ref, report.fieldsWithoutQuestion, report.unboundQuestions,
        report.totalQuestions, report.totalGroups, report.repeatGroups)) =
      .ok ([some "/data/b", some "/data/a", none, some "/data/g/c", none, some "/data/a",
          some "/data/x", none, some "/data/x", none],
        ["/data/b", "/data/e"], ["/data/x", "<no ref>"], 7, 3, 1) := by
    simp only [ofForm, Form.fieldsWithoutQuestion, Form.unboundQuestions,
      sortedSet_eq_insertionSort]
    decide +kernel
  obtain ⟨form, hload, hview⟩ := Form.exists_ofTree_of_map_eq hshown
  obtain ⟨hcontrols, hview⟩ := Prod.mk.inj hview
  obtain ⟨hwithout, hview⟩ := Prod.mk.inj hview
  obtain ⟨hunbound, hcounts⟩ := Prod.mk.inj hview
  exact ⟨form, hload, hcontrols, hwithout, hunbound, hcounts, comparesExactly_of_ofTree hload none⟩

end Report

end SurveyForm
