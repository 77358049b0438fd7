import SurveyForm.Field
import SurveyForm.Translation
/-!
Controls: what a body shows.  A question refers to its field by path and carries
what the field says; a group holds controls in order.
-/

namespace SurveyForm

/-- What every control has. -/
structure Heading where
  label : Caption
  hint : Caption
  appearance : Option String
  ref : Option String
deriving DecidableEq, Repr

/-- The path of a control as a name without slashes. -/
def Heading.elementName (heading : Heading) : String :=
  Path.flatName (heading.ref.getD "")

/-- One option to select. -/
structure Choice where
  label : Caption
  value : Caption
deriving DecidableEq, Repr

/-- The options of a question, of which one or several may be selected. -/
structure Selection where
  multiple : Bool
  choices : List Choice
deriving DecidableEq, Repr

/-- What a question takes over from its field. -/
structure BoundData where
  dataType : Option String := none
  defaultValue : Option String := none
  required : Option Bool := none
  readonly : Option Bool := none
  calculate : Option Expr := none
  constraint : Option Condition := none
  relevant : Option Condition := none
  attributes : Entries String := []
deriving BEq

def BoundData.ofField (field : Field) : BoundData :=
  { dataType := field.type
    defaultValue := field.defaultValue
    required := field.required
    readonly := field.readonly
    calculate := field.calculate
    constraint := field.constraint
    relevant := field.relevant
    attributes := field.attributes }

/-- A control that asks for one value. -/
structure Question where
  heading : Heading
  tag : String
  bound : BoundData
  selection : Option Selection
deriving BEq

namespace Question

/-- What kind of control a question is: selections are all of one kind. -/
def kind (question : Question) : String :=
  if question.selection.isSome then "select" else question.tag

def isRequired (question : Question) : Bool :=
  question.bound.required.getD false

def defaultText (question : Question) : String :=
  question.bound.defaultValue.getD ""

end Question

inductive Control where
  | question (content : Question)
  | group (heading : Heading) (repeats : Bool) (children : List Control)
deriving BEq

namespace Control

def heading : Control → Heading
  | .question content => content.heading
  | .group heading _ _ => heading

def ref (control : Control) : Option String :=
  control.heading.ref

def kind : Control → String
  | .question content => content.kind
  | .group .. => "group"

/-- The controls directly inside a group; a question holds none. -/
def children : Control → List Control
  | .question _ => []
  | .group _ _ children => children

def question? : Control → Option Question
  | .question content => some content
  | .group .. => none

mutual

/-- A control and all controls inside it, each before those inside it. -/
def preorder : Control → List Control
  | .question content => [.question content]
  | .group heading repeats children =>
      .group heading repeats children :: preorderAll children

def preorderAll : List Control → List Control
  | [] => []
  | control :: rest => preorder control ++ preorderAll rest

end

mutual

/-- The number of controls that a control amounts to, itself included. -/
def count : Control → Nat
  | .question _ => 1
  | .group _ _ children => countAll children + 1

def countAll : List Control → Nat
  | [] => 0
  | control :: rest => count control + countAll rest

end

theorem countAll_append (left right : List Control) :
    countAll (left ++ right) = countAll left + countAll right := by
  induction left with
  | nil => simp [countAll]
  | cons control rest ih => simp [countAll, ih]; omega

theorem countAll_children_lt (control : Control) :
    countAll control.children < count control := by
  cases control <;> simp [children, count, countAll]

/-- The controls on a stack and those inside them, in document order: the top of
the stack comes next, and what is inside it goes on top of the rest. -/
def traverse : List Control → List Control
  | [] => []
  | control :: rest => control :: traverse (control.children ++ rest)
termination_by stack => countAll stack
decreasing_by
  have := countAll_children_lt control
  simp only [countAll_append, countAll]
  omega

theorem preorderAll_append (left right : List Control) :
    preorderAll (left ++ right) = preorderAll left ++ preorderAll right := by
  induction left with
  | nil => simp [preorderAll]
  | cons control rest ih => simp [preorderAll, ih]

theorem preorder_eq_cons (control : Control) :
    preorder control = control :: preorderAll control.children := by
  cases control <;> simp [preorder, children, preorderAll]

/-- The stack gives the controls in the order of the tree. -/
theorem traverse_eq_preorderAll (stack : List Control) : traverse stack = preorderAll stack := by
  induction stack using traverse.induct with
  | case1 => simp [traverse, preorderAll]
  | case2 control rest ih =>
      rw [traverse, ih, preorderAll_append, preorderAll, preorder_eq_cons, List.cons_append]

end Control

end SurveyForm
