import SurveyForm.Xml.Scan
/-!
The content that an element is declared to have.  A declaration is checked for its
form only.
-/

namespace SurveyForm.Xml.ContentModel

/-- How deep groups may nest. -/
def depthLimit : Nat :=
  256

/-- How often a part may come, if that is said. -/
def quantifier : Scan Unit := do
  match ← Scan.rest with
  | c :: after => if "?*+".toList.contains c then set after
  | [] => return

/-- A part of a group: a name, or a group inside it. -/
def part (group : Scan Unit) : Scan Unit := do
  if ← Scan.takeIf "(" then group
  else
    let _ ← Scan.name
    quantifier

/-- The parts of a group after the first one.  All parts of a group are separated in
the same way. -/
def parts (group : Scan Unit) : (fuel : Nat) → (separator : Option String) → Scan Unit
  | 0, _ => Scan.refuse
  | fuel + 1, separator => do
      let _ ← Scan.spaces
      if ← Scan.takeIf ")" then return
      let mark := if ← Scan.ahead "|" then "|" else ","
      if separator.any (· ≠ mark) then Scan.refuse
      Scan.take mark
      let _ ← Scan.spaces
      part group
      parts group fuel mark

/-- The rest of a group, after its opening parenthesis. -/
def groupRest : (depth : Nat) → Scan Unit
  | 0 => Scan.refuse
  | depth + 1 => do
      let _ ← Scan.spaces
      part (groupRest depth)
      parts (groupRest depth) ((← Scan.rest).length + 1) none
      quantifier

/-- The names that may stand among text. -/
def textNames : (fuel : Nat) → Scan Unit
  | 0 => Scan.refuse
  | fuel + 1 => do
      if ← Scan.takeIf "|" then
        let _ ← Scan.spaces
        let _ ← Scan.name
        let _ ← Scan.spaces
        textNames fuel
      else Scan.take ")*"

/-- The rest of a group of text and names.  Text alone needs no asterisk. -/
def textRest : Scan Unit := do
  let _ ← Scan.spaces
  if ← Scan.takeIf ")" then
    let _ ← Scan.takeIf "*"
  else textNames ((← Scan.rest).length + 1)

/-- The content of an element. -/
def scan : Scan Unit := do
  if ← Scan.takeIf "EMPTY" then return
  if ← Scan.takeIf "ANY" then return
  Scan.take "("
  let _ ← Scan.spaces
  if ← Scan.takeIf "#PCDATA" then textRest else groupRest depthLimit

end SurveyForm.Xml.ContentModel
