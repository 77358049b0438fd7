import SurveyForm.Xml.Progress
/-!
Instructions to programs that handle the document.  Only their form matters.
-/

namespace SurveyForm.Xml.Instruction

open Reader

/-- The targets with a reserved start that have a meaning of their own. -/
def standardTargets : List String :=
  ["xml-stylesheet", "xml-model"]

/-- Checks the target.  The name `xml` itself is reserved in any case, and a name that
starts with it should be one of the known ones. -/
def checkTarget (target : String) : Reader Unit := do
  if target.toLower = "xml" then refuse
  if standardTargets.contains target then return
  if (String.ofList (target.toList.take 3)).toLower = "xml" then warn
  if target.toList.contains ':' then blame

/-- The rest of an instruction. -/
def rest : Reader Unit := do
  checkTarget (← Scan.name)
  if !(← Scan.takeIf "?>") then
    Scan.someSpace
    let _ ← Scan.upTo "?>"

end SurveyForm.Xml.Instruction
