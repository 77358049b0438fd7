import Mathlib.Data.List.Induction
import SurveyForm.Form.Basic
/-!
The traversal of controls, turn by turn.  The stack has its top at the end; the control there
comes next, and what is inside it takes its place.  What is still to come is at any time the
order of the tree on the stack from its top down, so that the walk ends with all of it, and a
search for a question finds the first one in that order.
-/

namespace SurveyForm

namespace Control

variable {stack rest shown order : List Control} {control : Control} {content : Question}
  {path : String}

/-- One turn: the control on top of the stack, and the stack that is left with what is inside
that control on top, the last of it lowest. -/
def turn? (stack : List Control) : Option (Control × List Control) :=
  stack.getLast?.map fun control => (control, stack.dropLast ++ control.children.reverse)

/-- `Yields stack shown`: after finitely many turns the stack is empty, and the controls that
came up are the ones shown. -/
inductive Yields : List Control → List Control → Prop
  | done : Yields [] []
  | turn {stack rest shown : List Control} {control : Control}
      (hturn : turn? stack = some (control, rest)) (hrest : Yields rest shown) :
      Yields stack (control :: shown)

theorem turn?_concat (stack : List Control) (control : Control) :
    turn? (stack ++ [control]) = some (control, stack ++ control.children.reverse) := by
  simp [turn?]

/-- A turn takes the first of what is still to come and keeps the others. -/
theorem traverse_of_turn? (hturn : turn? stack = some (control, rest)) :
    traverse stack.reverse = control :: traverse rest.reverse := by
  induction stack using List.reverseRecOn with
  | nil => contradiction
  | append_singleton lower top =>
      rw [turn?_concat] at hturn
      obtain ⟨rfl, rfl⟩ := Prod.mk.inj (Option.some.inj hturn)
      simp [traverse]

theorem Yields.eq_traverse (hyields : Yields stack shown) : shown = traverse stack.reverse := by
  induction hyields with
  | done => simp [traverse]
  | turn hturn _ ih => rw [traverse_of_turn? hturn, ih]

/-- Every stack runs empty: a turn leaves fewer controls on it, counted with those inside. -/
theorem yields_traverse (stack : List Control) : Yields stack.reverse (traverse stack) := by
  induction stack using traverse.induct with
  | case1 =>
      rw [traverse]
      exact .done
  | case2 control rest ih =>
      rw [traverse, List.reverse_cons]
      apply Yields.turn (turn?_concat rest.reverse control)
      rwa [← List.reverse_append]

theorem yields_iff : Yields stack.reverse shown ↔ shown = preorderAll stack := by
  rw [← traverse_eq_preorderAll]
  constructor
  · intro hyields
    simpa using hyields.eq_traverse
  · rintro rfl
    exact yields_traverse stack

theorem count_eq (control : Control) : count control = countAll control.children + 1 := by
  cases control <;> simp [count, children, countAll]

/-- There is one turn for each control. -/
theorem length_preorderAll (stack : List Control) : (preorderAll stack).length = countAll stack := by
  rw [← traverse_eq_preorderAll]
  induction stack using traverse.induct with
  | case1 => simp [traverse, countAll]
  | case2 control rest ih =>
      rw [traverse, List.length_cons, ih, countAll_append, countAll, count_eq]
      omega

/-- `Within control controls`: the control is one of them, or it is inside a group that is, at
whatever depth. -/
inductive Within (control : Control) : List Control → Prop
  | here {controls : List Control} (hmem : control ∈ controls) : Within control controls
  | inside {controls children : List Control} {heading : Heading} {repeats : Bool}
      (hgroup : .group heading repeats children ∈ controls) (hinside : Within control children) :
      Within control controls

theorem Within.mono {left right : List Control} (hsubset : left ⊆ right)
    (hwithin : Within control left) : Within control right := by
  cases hwithin with
  | here hmem => exact .here (hsubset hmem)
  | inside hgroup hinside => exact .inside (hsubset hgroup) hinside

theorem within_append_iff {left right : List Control} :
    Within control (left ++ right) ↔ Within control left ∨ Within control right := by
  constructor
  · intro hwithin
    cases hwithin with
    | here hmem => exact (List.mem_append.mp hmem).imp .here .here
    | inside hgroup hinside =>
        exact (List.mem_append.mp hgroup).imp (.inside · hinside) (.inside · hinside)
  · rintro (hleft | hright)
    · exact hleft.mono (List.subset_append_left left right)
    · exact hright.mono (List.subset_append_right left right)

theorem within_singleton_iff {top : Control} :
    Within control [top] ↔ control = top ∨ Within control top.children := by
  constructor
  · intro hwithin
    cases hwithin with
    | here hmem => exact .inl (List.mem_singleton.mp hmem)
    | inside hgroup hinside =>
        obtain rfl := List.mem_singleton.mp hgroup
        exact .inr hinside
  · rintro (rfl | hinside)
    · exact .here List.mem_cons_self
    · cases top with
      | question content => rcases hinside with hmem | ⟨hgroup, -⟩ <;> contradiction
      | group heading repeats children => exact .inside List.mem_cons_self hinside

/-- The traversal comes to the controls at all depths and to no others. -/
theorem mem_traverse_iff : control ∈ traverse stack ↔ Within control stack := by
  induction stack using traverse.induct with
  | case1 =>
      rw [traverse]
      constructor
      · intro hmem
        contradiction
      · rintro (hmem | ⟨hgroup, -⟩) <;> contradiction
  | case2 top rest ih =>
      rw [traverse, List.mem_cons, ih, within_append_iff, ← List.singleton_append (l := rest),
        within_append_iff, within_singleton_iff, or_assoc]

/-- Whether a control is a group that can be repeated. -/
def isRepeatable : Control → Bool
  | .group _ repeats _ => repeats
  | .question _ => false

/-- Whether a control is a question that asks for the value at a path; a group never is. -/
def AsksFor (path : String) (control : Control) : Prop :=
  ∃ content, control = .question content ∧ content.heading.ref = some path

/-- The question comes up in the order before any other one that asks for the path. -/
structure FirstFor (path : String) (order : List Control) (content : Question) : Prop where
  asks : content.heading.ref = some path
  first : ∃ before after, order = before ++ .question content :: after ∧
    ∀ control ∈ before, ¬ control.AsksFor path

/-- Whether a control asks for a path is said by the question that it is, if it is one. -/
theorem asksFor_iff :
    (control.question?.any fun content => content.heading.ref = some path) = true ↔
      control.AsksFor path := by
  cases control with
  | question content => simp [question?, AsksFor]
  | group heading repeats children => simp [question?, AsksFor]

/-- The first of the questions at a path is the first control that asks for it. -/
theorem find?_questions_eq_some_iff :
    (order.filterMap question?).find? (·.heading.ref = some path) = some content ↔
      FirstFor path order content := by
  rw [List.find?_filterMap, Option.bind_eq_some_iff]
  constructor
  · rintro ⟨control, hfound, hcontent⟩
    obtain ⟨hasks, before, after, horder, hbefore⟩ := List.find?_eq_some_iff_append.mp hfound
    cases control with
    | group => contradiction
    | question other =>
        obtain rfl := Option.some.inj hcontent
        constructor
        · simpa [question?] using hasks
        · refine ⟨before, after, horder, ?_⟩
          intro control hcontrol hother
          have hnot := hbefore control hcontrol
          rw [asksFor_iff.mpr hother] at hnot
          contradiction
  · rintro ⟨hasks, before, after, horder, hbefore⟩
    refine ⟨.question content, ?_, rfl⟩
    apply List.find?_eq_some_iff_append.mpr
    refine ⟨asksFor_iff.mpr ⟨content, rfl, hasks⟩, before, after, horder, ?_⟩
    intro control hcontrol
    rw [Bool.not_eq_true', ← Bool.not_eq_true, asksFor_iff]
    exact hbefore control hcontrol

theorem find?_questions_eq_none_iff :
    (order.filterMap question?).find? (·.heading.ref = some path) = none ↔
      ∀ control ∈ order, ¬ control.AsksFor path := by
  rw [List.find?_eq_none]
  constructor
  · rintro hnone control hcontrol ⟨content, rfl, hasks⟩
    have hquestion : content ∈ order.filterMap question? :=
      List.mem_filterMap.mpr ⟨.question content, hcontrol, rfl⟩
    exact hnone content hquestion (by simpa using hasks)
  · intro hnone content hcontent hasks
    obtain ⟨control, hcontrol, hquestion⟩ := List.mem_filterMap.mp hcontent
    apply hnone control hcontrol
    apply asksFor_iff.mp
    rw [hquestion]
    exact hasks

end Control

namespace Form

theorem allControls_eq (form : Form) : form.allControls = Control.preorderAll form.controls :=
  Control.traverse_eq_preorderAll form.controls

/-- The walk over the controls of a form ends, and it shows them in the order of the tree, each
before those inside it.  A search finds the first question in that order that asks for the
path, and none only if there is none. -/
theorem yields_preorderAll_and_question?_iff (form : Form) :
    (∀ shown, Control.Yields form.controls.reverse shown ↔
        shown = Control.preorderAll form.controls) ∧
      form.allControls = Control.preorderAll form.controls ∧
      form.allControls.length = Control.countAll form.controls ∧
      ∀ path,
        (∀ content, form.question? path = some content ↔
          Control.FirstFor path (Control.preorderAll form.controls) content) ∧
        (form.question? path = none ↔
          ∀ control ∈ Control.preorderAll form.controls, ¬ control.AsksFor path) := by
  refine ⟨fun shown => Control.yields_iff, form.allControls_eq, ?_,
    fun path => ⟨fun content => ?_, ?_⟩⟩
  · rw [allControls_eq, Control.length_preorderAll]
  · rw [question?, questions, allControls_eq]
    exact Control.find?_questions_eq_some_iff
  · rw [question?, questions, allControls_eq]
    exact Control.find?_questions_eq_none_iff

end Form

end SurveyForm
