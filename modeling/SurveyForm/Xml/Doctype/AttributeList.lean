import SurveyForm.Xml.AttributeValue
/-!
Declarations of attributes.  The first rule for an attribute counts; a later one is
checked for its form and its value.
-/

namespace SurveyForm.Xml.AttributeList

open Reader

/-- Words between vertical bars, up to the closing parenthesis. -/
def choices (word : Scan Unit) : (fuel : Nat) → Scan Unit
  | 0 => Scan.refuse
  | fuel + 1 => do
      let _ ← Scan.spaces
      word
      let _ ← Scan.spaces
      if ← Scan.takeIf "|" then choices word fuel else Scan.take ")"

def choice (word : Scan Unit) : Scan Unit := do
  Scan.take "("
  choices word ((← Scan.rest).length + 1)

/-- A run of name characters. -/
def someToken : Scan Unit := do
  if (← Scan.token).isEmpty then Scan.refuse

/-- The keywords for kinds of values.  A keyword stands in front of those that it
starts with. -/
def keywords : List (String × AttributeKind) :=
  [("CDATA", .text), ("IDREFS", .names), ("IDREF", .name), ("ID", .id), ("ENTITY", .name),
    ("ENTITIES", .names), ("NMTOKENS", .tokens), ("NMTOKEN", .token)]

/-- The kind of the values of an attribute. -/
def kind : Scan AttributeKind := do
  let rest ← Scan.rest
  match keywords.find? fun (keyword, _) => keyword.toList.isPrefixOf rest with
  | some (keyword, kind) =>
      Scan.take keyword
      return kind
  | none =>
      if ← Scan.takeIf "NOTATION" then
        Scan.someSpace
        choice (discard Scan.name)
        return .name
      else
        choice someToken
        return .tokens

/-- The value that an attribute has when it is left out, if there is one. -/
def standard : Reader (Option String) := do
  if ← Scan.takeIf "#REQUIRED" then return none
  if ← Scan.takeIf "#IMPLIED" then return none
  if ← Scan.takeIf "#FIXED" then Scan.someSpace
  return some (← AttributeValue.read false)

/-- Takes up a rule, unless there is one for the attribute. -/
def addRule (rule : AttributeRule) : Reader Unit := do
  if rule.name = "xml:id" && rule.kind ≠ .id then blame
  if rule.standard.any (!rule.kind.admits ·) then blame
  if (← rule? rule.element rule.name).isSome then warn
  else
    if rule.kind = .id && (← rulesOf rule.element).any (·.kind = .id) then blame
    modify fun progress => { progress with rules := progress.rules ++ [rule] }

/-- The rules of one declaration, up to its end. -/
def rules (element : String) : (fuel : Nat) → Reader Unit
  | 0 => refuse
  | fuel + 1 => do
      if ← Scan.takeIf ">" then return
      let name ← Scan.name
      Scan.someSpace
      let kind ← kind
      Scan.someSpace
      let standard ← standard
      if !(← Scan.spaces) && !(← Scan.ahead ">") then refuse
      addRule { element, name, kind, standard := standard.map kind.normalize }
      rules element fuel

/-- The rest of a declaration of attributes. -/
def declarationRest : Reader Unit := do
  Scan.someSpace
  let element ← Scan.name
  let _ ← Scan.spaces
  rules element (← enough)

end SurveyForm.Xml.AttributeList
