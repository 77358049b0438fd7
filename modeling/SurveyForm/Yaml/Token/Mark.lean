import SurveyForm.Text.CharacterReference
import SurveyForm.Yaml.Reading
/-!
Anchors, references to them, tags and directives: the tokens that say something about
a node or a document.
-/

namespace SurveyForm.Yaml.Reader

def isWordChar (c : Char) : Bool :=
  c.isAlphanum || c = '-' || c = '_'

/-- The name of an anchor or of a reference to one. -/
def anchorName : Reader String := do
  skip 1
  let name ← run isWordChar
  if name.isEmpty then refuse
  let follows ← peek 0
  if !(← endsWord 0) && !(follows.any "?:,]\x7d%@\x60".toList.contains) then refuse
  return String.ofList name

def isUriChar (c : Char) : Bool :=
  c.isAlphanum || "-;/?:@&=+$,_.!~*'()[]".toList.contains c

/-- The characters of bytes that percent signs encode. -/
def ofBytes? (bytes : List Nat) : Option (List Char) :=
  (String.fromUTF8? ⟨(bytes.map Nat.toUInt8).toArray⟩).map String.toList

/-- Takes up to so many hexadecimal digits, all of which have to be there. -/
def hexDigits (count : Nat) : Reader (List Char) := do
  let digits := ((← get).rest.take count).takeWhile Text.isHexDigit
  if digits.length < count then
    want digits.length
    refuse
  else return digits

/-- The bytes that percent signs encode. -/
def encodedBytes : (fuel : Nat) → Reader (List Nat)
  | 0 => return []
  | fuel + 1 => do
      if (← peek 0) ≠ some '%' then return []
      skip 1
      let digits ← hexDigits 2
      skip 2
      return Text.ofHexDigits digits :: (← encodedBytes fuel)

def tagUri : (fuel : Nat) → Reader (List Char)
  | 0 => return []
  | fuel + 1 => do
      let start ← run isUriChar
      if (← peek 0) ≠ some '%' then return start
      match ofBytes? (← encodedBytes fuel) with
      | none => refuse
      | some chars => return start ++ chars ++ (← tagUri fuel)

def someTagUri : Reader String := do
  let uri ← tagUri (← get).fuel
  if uri.isEmpty then refuse
  return String.ofList uri

/-- A handle between exclamation marks. -/
def tagHandle : Reader String := do
  if (← peek 0) ≠ some '!' then refuse
  skip 1
  if (← peek 0) = some ' ' then return "!"
  let name ← run isWordChar
  if (← peek 0) ≠ some '!' then refuse
  skip 1
  return "!" ++ String.ofList name ++ "!"

/-- Whether another exclamation mark follows the one that starts a tag. -/
def hasHandle : Reader Bool := do
  let ahead := ((← get).rest.drop 1).takeWhile fun c => c ≠ '!' && c ≠ ' ' && !isBreak c
  return (← peek (ahead.length + 1)) = some '!'

def tag : Reader Token := do
  let found ← do
    if (← peek 1) = some '<' then
      skip 2
      let suffix ← someTagUri
      if (← peek 0) ≠ some '>' then refuse
      skip 1
      pure (Token.tag none suffix)
    else if ← endsWord 1 then
      skip 1
      pure (Token.tag none "!")
    else if ← hasHandle then
      let handle ← tagHandle
      pure (Token.tag (some handle) (← someTagUri))
    else
      skip 1
      pure (Token.tag (some "!") (← someTagUri))
  if !(← endsPart) then refuse
  return found

/-- A number of a version; one with too many digits is none. -/
def directiveNumber : Reader Nat := do
  let digits ← run Char.isDigit
  if digits.isEmpty then refuse
  if Text.digitLimit < digits.length then throw .range
  return Text.ofDecimalDigits digits

def versionDirective : Reader Token := do
  let _ ← run (· = ' ')
  let major ← directiveNumber
  if (← peek 0) ≠ some '.' then refuse
  skip 1
  let _ ← directiveNumber
  if !(← endsPart) then refuse
  return .versionDirective major

def tagDirective : Reader Token := do
  let _ ← run (· = ' ')
  let handle ← tagHandle
  if (← peek 0) ≠ some ' ' then refuse
  let _ ← run (· = ' ')
  let start ← someTagUri
  if !(← endsPart) then refuse
  return .tagDirective handle start

def directive : Reader Token := do
  skip 1
  let name := String.ofList (← run isWordChar)
  if name = "" then refuse
  if !(← endsPart) then refuse
  let found ←
    if name = "YAML" then versionDirective
    else if name = "TAG" then tagDirective
    else do
      let _ ← run (!isBreak ·)
      pure Token.otherDirective
  emptyRest
  return found

end SurveyForm.Yaml.Reader
