import SurveyForm.Xml.Doctype.ExternalPlace
import SurveyForm.Xml.Progress
/-!
Declarations of entities.  Of two declarations of one name the first counts, and the
entities that need no declaration stay what they are.
-/

namespace SurveyForm.Xml.EntityDeclaration

open Reader

/-- A name as it stands in a reference. -/
def referredName : Scan String := do
  let name ← Scan.name
  Scan.take ";"
  return name

/-- The content that a declaration writes: characters by number are replaced, and
references by name stay.  A parameter may not be referred to here; an unknown one
ends the content. -/
def content : (fuel : Nat) → List Char → Reader (List Char)
  | _, [] => return []
  | 0, _ => refuse
  | fuel + 1, '&' :: '#' :: rest => do
      match Reference.scan ('#' :: rest) with
      | some (.character c, rest) => return c :: (← content fuel rest)
      | _ => refuse
  | fuel + 1, '&' :: rest => do
      match referredName rest with
      | some (name, rest) => return ('&' :: name.toList) ++ ';' :: (← content fuel rest)
      | none => refuse
  | _ + 1, '%' :: rest => do
      match referredName rest with
      | none => refuse
      | some (name, _) =>
          modify fun progress => { progress with incomplete := true }
          if (← entity? ⟨true, name⟩).isSome then refuse
          tolerateUnknown
          return []
  | fuel + 1, chars => do
      let isPlain (c : Char) := c ≠ '&' && c ≠ '%'
      return chars.takeWhile isPlain ++ (← content fuel (chars.dropWhile isPlain))

/-- What an entity stands for: a text, or a place outside the document. -/
def body (isParameter : Bool) : Reader EntityContent := do
  if (← Scan.ahead "\"") || (← Scan.ahead "'") then
    let written ← Scan.quoted
    if (← get).room = 0 then refuse
    return .internal (← content written.length written)
  match ← Scan.externalPlace? with
  | none => refuse
  | some place =>
      if place.toList.contains '#' then refuse
      let spaced ← Scan.spaces
      if !isParameter && spaced && (← Scan.takeIf "NDATA") then
        Scan.someSpace
        let _ ← Scan.name?
        return .unparsed
      else return .external

/-- Whether a text stands for a character in a way that the declaration of a
predefined entity may use. -/
def standsFor (text : List Char) (c : Char) : Bool :=
  let hexadecimal := String.ofList (Nat.toDigits 16 c.toNat) ++ ";"
  (text = [c] && c ≠ '<' && c ≠ '&') ||
    text = ("&#" ++ toString c.toNat ++ ";").toList ||
    (text.take 3 = "&#x".toList &&
      (String.ofList (text.drop 3)).toLower = hexadecimal)

/-- Takes up a declaration.  A predefined entity may be declared as what it is. -/
def declare (entity : Entity) : Reader Unit := do
  match if entity.key.isParameter then none else predefined? entity.key.name with
  | some c => if !standsFor entity.text c then warn
  | none =>
      if (← entity? entity.key).isNone then
        modify fun progress => { progress with entities := progress.entities ++ [entity] }

/-- The rest of a declaration of an entity. -/
def rest : Reader Unit := do
  Scan.someSpace
  let isParameter ← Scan.takeIf "%"
  if isParameter then Scan.someSpace
  let name ← Scan.name
  if name.toList.contains ':' then blame
  Scan.someSpace
  let content ← body isParameter
  declare { key := ⟨isParameter, name⟩, content }
  let _ ← Scan.spaces
  Scan.take ">"

end SurveyForm.Xml.EntityDeclaration
