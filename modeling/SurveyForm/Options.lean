import SurveyForm.Value.Display
import SurveyForm.Value.Order
/-!
Options for loading a form, and reading them from dynamic values.  Unknown names
are refused first, then the values are checked in a fixed order.  What a message
cannot show has a problem of its own.
-/

namespace SurveyForm

structure Options where
  /-- The deepest nesting of elements in the instance and in the body. -/
  maxDepth : Nat := 100
  /-- The deepest nesting of calls that is read in an expression. -/
  maxExpressionDepth : Nat := 32
  /-- Whether every diagnostic is also given as a warning. -/
  warnOnDiagnostics : Bool := false
  /-- The form of a translated value that names none. -/
  defaultTextForm : String := "long"
deriving DecidableEq, Repr

namespace Options

/-- What is wrong with given options. -/
inductive Problem where
  | unknownNames (names : List Value)
  | unorderedNames
  | notAnInteger (name : String) (value : Value)
  | notPositive (name : String) (value : Int)
  | notABoolean (value : Value)
  | notAForm (value : Value)
  | notAMap (file : String)
  | unshowable

def Problem.message : Problem → String
  | .unknownNames names => "Unknown parser options: " ++ (Value.list names).display
  | .unorderedNames => "Unknown parser options cannot be put in order"
  | .notAnInteger name value => name ++ " must be an integer, got " ++ value.display
  | .notPositive name value => name ++ " must be positive, got " ++ toString value
  | .notABoolean value => "warn_on_diagnostics must be a boolean, got " ++ value.display
  | .notAForm value =>
      "default_text_form must be a non-empty string, got " ++ value.display
  | .notAMap file => "Options file must contain a mapping: " ++ file
  | .unshowable => "An integer among the options has too many digits"

/-- A problem with a value, if the value can be shown. -/
def Problem.about (value : Value) (problem : Problem) : Problem :=
  if value.isShown then problem else .unshowable

def names : List String :=
  ["max_depth", "max_expression_depth", "warn_on_diagnostics", "default_text_form"]

def isName : Value → Bool
  | .text s => names.contains s
  | _ => false

/-- A positive number, or the standard one if none is given. -/
def positive (values : Value) (name : String) (standard : Nat) : Except Problem Nat :=
  match values.get? name with
  | none => .ok standard
  | some (.int n) => if n < 1 then .error (.about (.int n) (.notPositive name n)) else .ok n.toNat
  | some value => .error (.about value (.notAnInteger name value))

def boolean (values : Value) (name : String) (standard : Bool) : Except Problem Bool :=
  match values.get? name with
  | none => .ok standard
  | some (.bool b) => .ok b
  | some value => .error (.about value (.notABoolean value))

def textForm (values : Value) (name : String) (standard : String) :
    Except Problem String :=
  match values.get? name with
  | none => .ok standard
  | some (.text s) => if s = "" then .error (.notAForm (.text s)) else .ok s
  | some value => .error (.about value (.notAForm value))

/-- The unknown names in order, if they can be put in order. -/
def unknownNames (entries : List (Value × Value)) : Except Problem Unit :=
  match (entries.map (·.1)).filter (!isName ·) with
  | [] => .ok ()
  | unknown =>
      match Value.sort? unknown with
      | some sorted => .error (.about (.list sorted) (.unknownNames sorted))
      | none => .error .unorderedNames

/-- The options that the entries of a map give. -/
def ofEntries (entries : List (Value × Value)) : Except Problem Options := do
  unknownNames entries
  let values := Value.map entries
  let maxDepth ← positive values "max_depth" 100
  let maxExpressionDepth ← positive values "max_expression_depth" 32
  let warnOnDiagnostics ← boolean values "warn_on_diagnostics" false
  let defaultTextForm ← textForm values "default_text_form" "long"
  return { maxDepth, maxExpressionDepth, warnOnDiagnostics, defaultTextForm }

/-- The options that a document in a file gives; an empty document gives none. -/
def ofDocument (file : String) : Value → Except Problem Options
  | .null => .ok {}
  | .map entries => ofEntries entries
  | _ => .error (.notAMap file)

end Options

end SurveyForm
