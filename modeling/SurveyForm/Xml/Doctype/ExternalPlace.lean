import SurveyForm.Xml.Scan
/-!
The places of things outside a document: a system identifier names one directly, a
public identifier by agreement.
-/

namespace SurveyForm.Xml

namespace Scan

def isPublicChar (c : Char) : Bool :=
  c = ' ' || c = '\n' || c.isAlphanum || "-'()+,./:=?;!*#@$_%".toList.contains c

def systemIdentifier : Scan String := do
  named (← quoted)

def publicIdentifier : Scan Unit := do
  let chars ← quoted
  let _ ← named chars
  if !chars.all isPublicChar then refuse

/-- The system identifier of a place, if a place is given. -/
def externalPlace? : Scan (Option String) := do
  if ← takeIf "SYSTEM" then
    someSpace
    return some (← systemIdentifier)
  else if ← takeIf "PUBLIC" then
    someSpace
    publicIdentifier
    someSpace
    return some (← systemIdentifier)
  else return none

/-- The place of a notation, which may have a public identifier alone. -/
def notationPlace : Scan Unit := do
  if ← takeIf "SYSTEM" then
    someSpace
    let _ ← systemIdentifier
  else
    take "PUBLIC"
    someSpace
    publicIdentifier
    if (← spaces) && ((← ahead "\"") || (← ahead "'")) then
      let _ ← systemIdentifier

end Scan

end SurveyForm.Xml
