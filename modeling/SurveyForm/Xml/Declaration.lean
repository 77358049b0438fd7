import SurveyForm.Xml.Scan
/-!
The declaration at the start of a document.
-/

namespace SurveyForm.Xml

/-- What the declaration at the start of a document says. -/
structure Declaration where
  version : String
  encoding : Option String
  standalone : Bool
deriving DecidableEq, Repr

namespace Declaration

def isVersion (text : List Char) : Bool :=
  match text with
  | major :: '.' :: minor => major.isDigit && minor.all Char.isDigit
  | _ => false

def isEncodingName (text : List Char) : Bool :=
  match text with
  | [] => false
  | first :: rest =>
      first.isAlpha && rest.all fun c => c.isAlphanum || c = '.' || c = '_' || c = '-'

/-- A part of the declaration that starts with a keyword. -/
def part (keyword : String) : Scan String := do
  Scan.take keyword
  Scan.equals
  return String.ofList (← Scan.quoted)

/-- The end of the declaration, or the spaces in front of the next part. -/
def atEnd : Scan Bool := do
  let spaced ← Scan.spaces
  if ← Scan.takeIf "?>" then return true
  else if spaced then return false
  else Scan.refuse

def standalonePart (version : String) (encoding : Option String) : Scan Declaration := do
  let answer ← part "standalone"
  if (← atEnd) && (answer = "yes" || answer = "no") then
    return ⟨version, encoding, answer = "yes"⟩
  else Scan.refuse

/-- The declaration, whose first five characters and a space are known to come. -/
def scan : Scan Declaration := do
  Scan.take "<?xml"
  Scan.someSpace
  let version ← part "version"
  if !isVersion version.toList || !version.startsWith "1." then Scan.refuse
  if ← atEnd then return ⟨version, none, false⟩
  if ← Scan.ahead "encoding" then
    let encoding ← part "encoding"
    if !isEncodingName encoding.toList then Scan.refuse
    if ← atEnd then return ⟨version, some encoding, false⟩
    standalonePart version (some encoding)
  else standalonePart version none

/-- Whether a text starts like a declaration. -/
def starts (text : List Char) : Bool :=
  "<?xml".toList.isPrefixOf text && (text.drop 5).head?.any isSpace

/-- The declaration in front of a text, if it starts like one, and the rest. -/
def read? (text : List Char) : Option (Option Declaration × List Char) :=
  if starts text then
    (scan text).map fun (declaration, rest) => (some declaration, rest)
  else some (none, text)

end Declaration

end SurveyForm.Xml
