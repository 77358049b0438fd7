import SurveyForm.Text.CharacterReference
import SurveyForm.Xml.Scan
/-!
References.  A reference stands for a character, which it gives by number or by a
name that needs no declaration, or for an entity.  A text is cut at the references in
it.
-/

namespace SurveyForm.Xml

inductive Reference where
  | character (c : Char)
  | entity (name : String)
deriving DecidableEq, Repr

/-- The entities that need no declaration. -/
def predefined? : String → Option Char
  | "lt" => some '<'
  | "gt" => some '>'
  | "amp" => some '&'
  | "quot" => some '"'
  | "apos" => some '\''
  | _ => none

namespace Reference

/-- The rest of a reference by number. -/
def numbered (isDigit : Char → Bool) (value : List Char → Nat) : Scan Reference := do
  let digits ← Scan.run isDigit
  Scan.take ";"
  let c := Char.ofNat (value digits)
  if digits ≠ [] ∧ c.toNat = value digits ∧ isDocumentChar c then return .character c
  else Scan.refuse

/-- The rest of a reference, after its ampersand. -/
def scan : Scan Reference := do
  if ← Scan.takeIf "#x" then numbered Text.isHexDigit Text.ofHexDigits
  else if ← Scan.takeIf "#" then numbered Char.isDigit Text.ofDecimalDigits
  else
    let name ← Scan.name
    Scan.take ";"
    return ((predefined? name).map .character).getD (.entity name)

end Reference

/-- What a text is made of. -/
inductive Piece where
  | text (chars : List Char)
  | reference (reference : Reference)
deriving DecidableEq, Repr

namespace Piece

/-- The pieces of a text; each takes a character at least. -/
def scanAll : (fuel : Nat) → List Char → Option (List Piece)
  | _, [] => some []
  | 0, _ => none
  | fuel + 1, '&' :: rest => do
      let (found, rest) ← Reference.scan rest
      return .reference found :: (← scanAll fuel rest)
  | fuel + 1, chars => do
      return .text (chars.takeWhile (· ≠ '&')) :: (← scanAll fuel (chars.dropWhile (· ≠ '&')))

/-- The pieces of a text, if all its ampersands start references. -/
def ofText? (text : List Char) : Option (List Piece) :=
  scanAll text.length text

/-- The entity that a piece refers to, if it refers to one. -/
def entityName? : Piece → Option String
  | .reference (.entity name) => some name
  | _ => none

end Piece

/-- The entities that a text refers to, one that comes twice twice. -/
def entityNames (text : List Char) : List String :=
  ((Piece.ofText? text).getD []).filterMap Piece.entityName?

end SurveyForm.Xml
