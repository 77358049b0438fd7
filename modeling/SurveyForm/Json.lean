import SurveyForm.Value.Display
/-!
Values as JSON text: one line, the members of a map in the order of their names,
and every character outside the printable ASCII range escaped.
-/

namespace SurveyForm.Json

/-- A UTF-16 unit as an escape. -/
def unitEscape (unit : Nat) : List Char :=
  '\\' :: 'u' :: Text.hexDigits 4 unit

/-- How one character of a text is written. -/
def escapedChar (c : Char) : List Char :=
  if c = '"' ∨ c = '\\' then ['\\', c]
  else if c = '\n' then ['\\', 'n']
  else if c = '\r' then ['\\', 'r']
  else if c = '\t' then ['\\', 't']
  else if c = '\x08' then ['\\', 'b']
  else if c = '\x0c' then ['\\', 'f']
  else if ' ' ≤ c ∧ c ≤ '~' then [c]
  else if c.toNat < 0x10000 then unitEscape c.toNat
  else
    let rest := c.toNat - 0x10000
    unitEscape (0xd800 + rest / 0x400) ++ unitEscape (0xdc00 + rest % 0x400)

def renderText (text : String) : String :=
  String.ofList ('"' :: text.toList.flatMap escapedChar ++ ['"'])

/-- The name of a member; a key that is no text is named as messages show it. -/
def memberName : Value → String
  | .text s => s
  | key => key.display

/-- A double as a number, and what is no finite number as a word. -/
def renderFloat (x : Float) : String :=
  if x.isNaN then "NaN"
  else if x.isInf then if x < 0 then "-Infinity" else "Infinity"
  else Value.displayFloat x

/-- Members in the order of their names. -/
def sortMembers {α : Type} (members : List (String × α)) : List (String × α) :=
  members.mergeSort fun a b => decide (a.1 ≤ b.1)

mutual

/-- The value as JSON text. -/
def render : Value → String
  | .null => "null"
  | .bool true => "true"
  | .bool false => "false"
  | .int n => toString n
  | .float x => renderFloat x
  | .text s => renderText s
  | .bytes data => renderText (Value.displayBytes data)
  | .day d => renderText (Value.displayDay d)
  | .moment m => renderText (Value.displayMoment m)
  | .list items => "[" ++ ", ".intercalate (renderAll items) ++ "]"
  | .pair first second => "[" ++ render first ++ ", " ++ render second ++ "]"
  | .set items => "[" ++ ", ".intercalate (renderAll items) ++ "]"
  | .map entries =>
      "\x7b" ++ ", ".intercalate ((sortMembers (renderMembers entries)).map fun member =>
        renderText member.1 ++ ": " ++ member.2) ++ "\x7d"
  | .listAgain => renderText (Value.display .listAgain)
  | .mapAgain => renderText (Value.display .mapAgain)

def renderAll : List Value → List String
  | [] => []
  | item :: rest => render item :: renderAll rest

def renderMembers : List (Value × Value) → List (String × String)
  | [] => []
  | (key, item) :: rest => (memberName key, render item) :: renderMembers rest

end

end SurveyForm.Json
