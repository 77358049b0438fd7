import SurveyForm.Xml.Progress
/-!
Values of attributes.  A value is read in its written form: spaces are plain,
characters by number are replaced, and references to entities stay.  What the
entities stand for is checked at once and put in later, when the value is wanted.
The name of a namespace is wanted at once.
-/

namespace SurveyForm.Xml.AttributeValue

open Reader

/-- The entity that a reference in a value leads to.  One outside is not allowed. -/
def usable? (name : String) : Reader (Option Entity) := do
  match ← known? name with
  | some entity => if entity.content = .external then refuse else return some entity
  | none => return none

/-- Whether an entity needs no check.  While declarations are read its size stays
open, for what it refers to may come later. -/
def isSettled (entity : Entity) : Reader Bool := do
  return entity.isValue && (entity.isCounted || (← get).inDoctype)

/-- Checks that the content of an entity can stand in a value, with that of the
entities it refers to, and counts its size. -/
def check : (room : Nat) → Entity → Reader Unit
  | 0, _ => refuse
  | room + 1, entity => do
      if entity.text.contains '<' then refuse
      match Piece.ofText? entity.text with
      | none => refuse
      | some pieces =>
          let sizes ← opening entity <| (pieces.filterMap Piece.entityName?).mapM fun name => do
            match ← usable? name with
            | none => return 0
            | some inner =>
                if !(← isSettled inner) then check room inner
                return (← sizeOf inner.key) + referenceCost
          let counts := !(← get).inDoctype
          let size := sizes.foldl (· + ·) (byteCount entity.text)
          changeEntity entity.key fun entity =>
            { entity with
              isValue := true
              isCounted := entity.isCounted || counts
              size := if counts then size else entity.size }

/-- Takes note of a reference to an entity in a value. -/
def refer (name : String) : Reader Unit := do
  match ← usable? name with
  | none => return
  | some entity =>
      if !(← isSettled entity) then check (← get).room entity
      charge (← sizeOf entity.key)

/-- The characters with every space a plain one. -/
def plainSpaces (chars : List Char) : List Char :=
  chars.map fun c => if isSpace c then ' ' else c

/-- What an entity stands for in the name of a namespace. -/
def expand : (room : Nat) → Entity → Reader (List Char)
  | 0, _ => refuse
  | room + 1, entity => opening entity do
      charge (byteCount entity.text)
      if entity.text.contains '<' then refuse
      match Piece.ofText? entity.text with
      | none => refuse
      | some pieces =>
          let parts ← pieces.mapM fun
            | .text chars => return plainSpaces chars
            | .reference (.character c) => return [c]
            | .reference (.entity name) => do
                match ← usable? name with
                | some inner => expand room inner
                | none => return []
          return parts.flatten

def spelled (name : String) : String :=
  "&" ++ name ++ ";"

/-- What stands in the written form for a reference.  An ampersand by itself would
look like one. -/
def reference (bindsNamespace : Bool) (found : Reference) : Reader String := do
  match found with
  | .character c =>
      return if c = '&' && !bindsNamespace then "&#38;" else String.singleton c
  | .entity name =>
      if bindsNamespace then
        match ← usable? name with
        | some entity => return String.ofList (← expand (← get).room entity)
        | none => return spelled name
      else
        refer name
        return spelled name

/-- Reads on to the quote at the end of a value. -/
def upToQuote (quote : Char) (bindsNamespace : Bool) :
    (fuel : Nat) → (found : String) → Reader String
  | 0, _ => refuse
  | fuel + 1, found => do
      let plain ← Scan.run fun c => c ≠ quote && c ≠ '<' && c ≠ '&'
      let found := found ++ String.ofList (plainSpaces plain)
      if ← Scan.takeIf (String.singleton quote) then return found
      Scan.take "&"
      let added ← reference bindsNamespace (← Reference.scan)
      upToQuote quote bindsNamespace fuel (found ++ added)

/-- A value in its written form. -/
def read (bindsNamespace : Bool) : Reader String := do
  let fuel ← enough
  if ← Scan.takeIf "\"" then upToQuote '"' bindsNamespace fuel ""
  else
    Scan.take "'"
    upToQuote '\'' bindsNamespace fuel ""

/-! ### What a value stands for -/

/-- The text that a written form stands for. -/
def replaced (entities : List Entity) : (depth : Nat) → List Char → List Char
  | 0, _ => []
  | depth + 1, text =>
      ((Piece.ofText? text).getD []).flatMap fun
        | .text chars => chars
        | .reference (.character c) => [c]
        | .reference (.entity name) =>
            match entities.find? (·.key = ⟨false, name⟩) with
            | some entity => replaced entities depth entity.text
            | none => []

/-- The value that a written form stands for. -/
def resolve (written : String) : Reader String := do
  if written.toList.contains '&' then
    let entities := (← get).entities
    return String.ofList (replaced entities (entities.length + 1) written.toList)
  else return written

/-- Marks an entity, and those that it refers to, as read. -/
def markRead : (depth : Nat) → String → Reader Unit
  | 0, _ => return
  | depth + 1, name => do
      match ← entity? ⟨false, name⟩ with
      | none => return
      | some entity =>
          if entity.isRead then return
          changeEntity entity.key fun entity => { entity with isRead := true }
          (entityNames entity.text).forM (markRead depth)

/-- Whether a written form refers to entities. -/
def refersToEntities (written : String) : Bool :=
  !(entityNames written.toList).isEmpty

/-- Marks the entities that a value is made of as read. -/
def settle (written : String) : Reader Unit := do
  let depth := (← get).entities.length + 1
  (entityNames written.toList).forM (markRead depth)

end SurveyForm.Xml.AttributeValue
