import SurveyForm.Form.Basic
/-!
Reports on forms: counts, the fields that the logic of each field refers to, and
where the body and the instance do not match.  Sets of texts are lists in order
without repetitions.
-/

namespace SurveyForm

/-- The texts in order, each once. -/
def sortedSet (texts : List String) : List String :=
  (firstOccurrences texts).mergeSort fun a b => decide (a ≤ b)

/-- The size of an expression: how many steps lie between its root and its
deepest node, and how many nodes it has. -/
structure ExprSize where
  depth : Nat
  nodes : Nat
deriving DecidableEq, Repr

namespace ExprSize

def zero : ExprSize :=
  ⟨0, 0⟩

/-- The sizes of two expressions side by side. -/
def beside (first second : ExprSize) : ExprSize :=
  ⟨max first.depth second.depth, first.nodes + second.nodes⟩

/-- The size of a node above expressions of a common size, if there are any. -/
def above (hasChildren : Bool) (inside : ExprSize) : ExprSize :=
  ⟨if hasChildren then inside.depth + 1 else 0, inside.nodes + 1⟩

mutual

def ofExpr : Expr → ExprSize
  | .absent => zero
  | .call _ args => above (!args.isEmpty) (ofExprs args)
  | .conditional test whenTrue whenFalse =>
      above true (((ofExpr test).beside (ofExpr whenTrue)).beside (ofExpr whenFalse))
  | .matching .. => above false zero
  | .comparison .. => above false zero
  | .group terms => above (terms.any (!·.members.isEmpty)) (ofTerms terms)
  | .unparsed _ => above false zero

def ofExprs : List Expr → ExprSize
  | [] => zero
  | expr :: rest => (ofExpr expr).beside (ofExprs rest)

def ofTerms : List (Term Expr) → ExprSize
  | [] => zero
  | .one member :: rest => (ofExpr member).beside (ofTerms rest)
  | .all members :: rest => (ofExprs members).beside (ofTerms rest)

end

end ExprSize

/-- What a report says about the logic of a form. -/
structure LogicReport where
  /-- The paths that the logic of each field refers to, for fields with any. -/
  dependencies : Entries (List String)
  /-- The paths among them that are no fields. -/
  undefinedReferences : List String
  unparsedExpressions : Nat
  maxDepth : Nat
  totalNodes : Nat
deriving DecidableEq, Repr

structure Report where
  title : String
  basePath : String
  totalFields : Nat
  totalContainers : Nat
  totalQuestions : Nat
  totalGroups : Nat
  repeatGroups : Nat
  logic : LogicReport
  requiredFields : Nat
  fieldsWithRelevant : Nat
  fieldsWithConstraint : Nat
  fieldsWithCalculate : Nat
  /-- The paths of questions that are no fields. -/
  unboundQuestions : List String
  /-- The paths of fields that no question asks for. -/
  fieldsWithoutQuestion : List String
  warnings : List String
deriving DecidableEq, Repr

/-- The paths that the logic of a field refers to. -/
def Field.references (field : Field) : List String :=
  sortedSet (field.logic.flatMap ExprOver.referencedPaths)

/-- How a question is listed: by its path, if it has one. -/
def Question.listing (question : Question) : String :=
  match question.heading.ref with
  | none => "<no ref>"
  | some ref => if ref = "" then "<no ref>" else ref

namespace Form


def dependencies (form : Form) : Entries (List String) :=
  (form.fields.map fun field => (field.path, field.references)).filter (!·.2.isEmpty)

def undefinedReferences (form : Form) : List String :=
  sortedSet ((form.fields.flatMap Field.references).filter (!form.fields.contains ·))

/-- The sizes of all expressions of a form, side by side. -/
def logicSize (form : Form) : ExprSize :=
  ((form.fields.flatMap Field.logic).map ExprSize.ofExpr).foldl ExprSize.beside .zero

def logicReport (form : Form) : LogicReport :=
  { dependencies := dependencies form
    undefinedReferences := undefinedReferences form
    unparsedExpressions := (form.diagnosticsOf .unrecognizedExpression).length
    maxDepth := (logicSize form).depth
    totalNodes := (logicSize form).nodes }

/-- Whether a question refers to no field. -/
def isUnbound (form : Form) (question : Question) : Bool :=
  match question.heading.ref with
  | none => true
  | some ref => !form.fields.contains ref

def unboundQuestions (form : Form) : List String :=
  sortedSet ((form.questions.filter (isUnbound form)).map Question.listing)

/-- Whether a field should have a question: it is a leaf that nothing calculates. -/
def wantsQuestion (form : Form) (field : Field) : Bool :=
  !field.isContainer && field.calculate.isNone && field.path ≠ form.basePath

def fieldsWithoutQuestion (form : Form) : List String :=
  sortedSet ((form.fields.filter fun field =>
    wantsQuestion form field && (form.question? field.path).isNone).map (·.path))

end Form

namespace Report

/-- A warning about a set of texts, if it is not empty. -/
def listWarning (start : String) (texts : List String) : List String :=
  if texts.isEmpty then [] else [start ++ ", ".intercalate texts]

/-- A warning about deep logic, if a limit is given and exceeded. -/
def depthWarning (limit : Option Int) (depth : Nat) : List String :=
  match limit with
  | some limit =>
      if limit < depth then ["High expression complexity: max depth " ++ toString depth]
      else []
  | none => []

/-- All messages, in the order in which they are listed, with repetitions. -/
def messages (depthLimit : Option Int) (form : Form) : List String :=
  listWarning "Logic refers to unknown fields: " form.undefinedReferences ++
    listWarning "Controls without a field: " form.unboundQuestions ++
    depthWarning depthLimit form.logicSize.depth ++
    form.diagnostics.map Diagnostic.message

/-- The report on a form.  Logic deeper than the limit is warned of. -/
def ofForm (form : Form) (depthLimit : Option Int) : Report :=
  { title := form.title
    basePath := form.basePath
    totalFields := form.fields.length
    totalContainers := form.fields.countP (·.isContainer)
    totalQuestions := form.questions.length
    totalGroups := form.allControls.countP (·.question?.isNone)
    repeatGroups := form.allControls.countP fun
      | .group _ repeats _ => repeats
      | .question _ => false
    logic := form.logicReport
    requiredFields := form.fields.countP (·.required.getD false)
    fieldsWithRelevant := form.fields.countP (·.relevant.isSome)
    fieldsWithConstraint := form.fields.countP (·.constraint.isSome)
    fieldsWithCalculate := form.fields.countP (·.calculate.isSome)
    unboundQuestions := form.unboundQuestions
    fieldsWithoutQuestion := form.fieldsWithoutQuestion
    warnings := firstOccurrences (messages depthLimit form) }

/-- The limit of depth that a report uses when none is given. -/
def standardDepthLimit : Option Int :=
  some 5

/-- The fields whose logic refers to a path. -/
def dependentsOf (report : Report) (path : String) : List String :=
  sortedSet ((report.logic.dependencies.filter (·.2.contains path)).map (·.1))

end Report

end SurveyForm
