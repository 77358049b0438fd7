import SurveyForm.Report.Basic
import SurveyForm.Value.Display
/-!
Reports as text: the counts, the dependencies, the coverage, the tree of controls
and the warnings, each under a heading of its own.
-/

namespace SurveyForm.Report

def rule : String :=
  String.ofList (List.replicate 70 '=')

/-- Texts as a list between brackets, or a word for none. -/
def listOrNone (texts : List String) : String :=
  if texts.isEmpty then "None" else (Value.list (texts.map .text)).display

/-- Names one after the other, or a word for none. -/
def namesOrNone (names : List String) : String :=
  let joined := ", ".intercalate names
  if joined = "" then "None" else joined

def titleLines (report : Report) : List String :=
  let title := if report.title = "" then report.basePath else report.title
  ["", rule, "FORM ANALYSIS REPORT: " ++ title, rule, ""]

def metricLines (report : Report) (languages : List String) : List String :=
  ["📊 BASIC METRICS",
    "  Base Path:             " ++ report.basePath,
    "  Total Fields:          " ++ toString report.totalFields ++ " (" ++
      toString report.totalContainers ++ " containers)",
    "  Total Controls:        " ++ toString report.totalQuestions,
    "  Total Groups:          " ++ toString report.totalGroups ++ " (" ++
      toString report.repeatGroups ++ " repeatable)",
    "  Languages:             " ++ namesOrNone languages, ""]

def dependencyLines (dependencies : Entries (List String)) : List String :=
  if dependencies.isEmpty then ["  None"]
  else
    (dependencies.mergeSort fun a b => decide (a.1 ≤ b.1)).map fun entry =>
      "  " ++ entry.1 ++ " <- " ++ ", ".intercalate entry.2

def logicLines (logic : LogicReport) : List String :=
  ["🔗 LOGIC DEPENDENCIES"] ++ dependencyLines logic.dependencies ++
    ["  Undefined References:  " ++ listOrNone logic.undefinedReferences,
      "  Unparsed Expressions:  " ++ toString logic.unparsedExpressions,
      "  Max Expression Depth:  " ++ toString logic.maxDepth,
      "  Total Expression Nodes:" ++ toString logic.totalNodes, ""]

def coverageLines (report : Report) : List String :=
  ["✅ COVERAGE METRICS",
    "  Required Fields:       " ++ toString report.requiredFields,
    "  With Relevant:         " ++ toString report.fieldsWithRelevant,
    "  With Constraint:       " ++ toString report.fieldsWithConstraint,
    "  With Calculate:        " ++ toString report.fieldsWithCalculate,
    "  Unbound Controls:      " ++ listOrNone report.unboundQuestions,
    "  Fields Without Control:" ++ listOrNone report.fieldsWithoutQuestion, ""]

/-- The line of one control: its kind, its path and what its label says. -/
def controlLine (form : Form) (indent : Nat) (control : Control) : String :=
  let mark := match control with
    | .group _ true _ => " (repeat)"
    | _ => ""
  String.ofList (List.replicate (2 * indent) ' ') ++ "- [" ++ control.kind ++ "] " ++
    control.ref.getD "" ++ " " ++ Text.quoted (form.text control.heading.label none) ++ mark

mutual

/-- The lines of a control and of the controls inside it, which are indented. -/
def controlLines (form : Form) (indent : Nat) : Control → List String
  | .question content => [controlLine form indent (.question content)]
  | .group heading repeats children =>
      controlLine form indent (.group heading repeats children) ::
        controlsLines form (indent + 1) children

def controlsLines (form : Form) (indent : Nat) : List Control → List String
  | [] => []
  | control :: rest => controlLines form indent control ++ controlsLines form indent rest

end

def warningLines (warnings : List String) : List String :=
  if warnings.isEmpty then ["✨ NO WARNINGS - Form looks clean!", ""]
  else
    "⚠️  WARNINGS" ::
      (warnings.zipIdx 1).map (fun warning =>
        "  " ++ toString warning.2 ++ ". " ++ warning.1) ++ [""]

/-- The lines of the report on a form. -/
def lines (form : Form) (report : Report) : List String :=
  titleLines report ++ metricLines report form.translations.languages.keys ++
    logicLines report.logic ++ coverageLines report ++
    ["🌳 CONTROL TREE"] ++ controlsLines form 1 form.controls ++ [""] ++
    warningLines report.warnings

/-- The report on a form as text. -/
def print (form : Form) (report : Report) : String :=
  String.join ((lines form report).map (· ++ "\n"))

/-- The line that says where a form was written to. -/
def exportLine (file : String) : String :=
  "✅ Form exported to " ++ file ++ "\n"

/-- The file that a form is written to when none is named. -/
def standardOutput : String :=
  "example_form_output.yaml"

end SurveyForm.Report
