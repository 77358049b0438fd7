import SurveyForm.Xml.Doctype.AttributeRule
import SurveyForm.Xml.Entity
/-!
How far the reading of a document has got: what is left of the text, what the
document type has declared, and what was noted on the way.
-/

namespace SurveyForm.Xml

/-- What was noted without giving the document up.  So many errors and so many
warnings are kept, and the last thing that is kept decides. -/
structure Findings where
  errors : Nat := 0
  warnings : Nat := 0
  endsInError : Bool := false
deriving DecidableEq, Repr

namespace Findings

def limit : Nat :=
  100

def withError (findings : Findings) : Findings :=
  if findings.errors < limit then
    { findings with errors := findings.errors + 1, endsInError := true }
  else findings

def withWarning (findings : Findings) : Findings :=
  if findings.warnings < limit then
    { findings with warnings := findings.warnings + 1, endsInError := false }
  else findings

end Findings

structure Progress where
  rest : List Char
  /-- The number of bytes of the text that is being read, the document or an entity. -/
  size : Nat
  /-- The entity that is being read, if it is not the document. -/
  within : Option EntityKey := none
  /-- How many entities may be opened inside one another from here. -/
  room : Nat
  /-- What the references of the document amount to. -/
  copied : Nat := 0
  findings : Findings := {}
  standalone : Bool := false
  /-- Whether there may be declarations that were not read. -/
  incomplete : Bool := false
  inDoctype : Bool := false
  entities : List Entity := []
  rules : List AttributeRule := []
  /-- The names of the elements and of the notations that have been declared. -/
  elements : List String := []
  notations : List String := []
  /-- The identifiers that elements have. -/
  ids : List String := []

/-- A step that reads on or gives the document up. -/
abbrev Reader (α : Type) : Type :=
  StateT Progress Option α

instance : MonadLift Scan Reader where
  monadLift scan := fun progress =>
    (scan progress.rest).map fun (found, rest) => (found, { progress with rest })

namespace Reader

def refuse {α : Type} : Reader α :=
  fun _ => none

/-- A number of steps that is enough for the text that is being read, if each takes a
character. -/
def enough : Reader Nat := do
  return (← get).size + 1

def warn : Reader Unit :=
  modify fun progress => { progress with findings := progress.findings.withWarning }

def blame : Reader Unit :=
  modify fun progress => { progress with findings := progress.findings.withError }

/-- Notes a name that something outside declares if anything does. -/
def tolerateUnknown : Reader Unit := do
  let progress ← get
  if progress.incomplete && !progress.standalone then warn else refuse

/-! ### Entities -/

def entity? (key : EntityKey) : Reader (Option Entity) := do
  return (← get).entities.find? (·.key = key)

def changeEntity (key : EntityKey) (change : Entity → Entity) : Reader Unit :=
  modify fun progress =>
    { progress with
      entities := progress.entities.map fun entity =>
        if entity.key = key then change entity else entity }

/-- The size of an entity, as far as it is known. -/
def sizeOf (key : EntityKey) : Reader Nat := do
  return ((← entity? key).map (·.size)).getD 0

/-- An entity that is referred to in the text.  A reference to something unparsed is
not allowed at all. -/
def known? (name : String) : Reader (Option Entity) := do
  match ← entity? ⟨false, name⟩ with
  | none =>
      tolerateUnknown
      return none
  | some entity => if entity.content = .unparsed then refuse else return some entity

/-- Marks an entity as open while a step is taken; inside it is not to be opened
again. -/
def opening {α : Type} (entity : Entity) (step : Reader α) : Reader α := do
  if ((← entity? entity.key).map (·.isOpen)).getD false then refuse
  changeEntity entity.key fun entity => { entity with isOpen := true }
  let found ← step
  changeEntity entity.key fun entity => { entity with isOpen := false }
  return found

/-! ### The cost of references -/

/-- What every reference costs on top of the text that it stands for. -/
def referenceCost : Nat :=
  20

/-- What references may amount to in any document. -/
def allowance : Nat :=
  1000000

/-- How many times what has been read references may amount to beyond the
allowance. -/
def growthLimit : Nat :=
  5

/-- Refuses a size that is far more than what has been read. -/
def restrain (size : Nat) : Reader Unit := do
  let progress ← get
  if allowance < size && progress.size - byteCount progress.rest < size / growthLimit then
    refuse

/-- Counts a reference to a text of some size.  It belongs to the entity that is being
read, and if that one has been counted already, nothing is added. -/
def charge (size : Nat) : Reader Unit := do
  let progress ← get
  match progress.within with
  | none =>
      let copied := progress.copied + size + referenceCost
      set { progress with copied }
      restrain copied
  | some key =>
      match ← entity? key with
      | none => return
      | some entity =>
          if entity.isCounted then return
          let size := entity.size + size + referenceCost
          changeEntity key fun entity => { entity with size }
          restrain size

/-- Reads the content of an entity in place of the text.  Then its size is complete,
and the reference that led to it is counted. -/
def readingEntity {α : Type} (entity : Entity) (step : Reader α) : Reader α := do
  let outer ← get
  match outer.room with
  | 0 => refuse
  | room + 1 =>
      let bytes := byteCount entity.text
      let found ← opening entity do
        modify fun progress =>
          { progress with rest := entity.text, size := bytes, within := entity.key, room }
        step
      modify fun progress =>
        { progress with
          rest := outer.rest, size := outer.size, within := outer.within, room := outer.room }
      changeEntity entity.key fun entity =>
        if entity.isCounted then entity
        else { entity with size := entity.size + bytes, isCounted := true }
      return found

/-! ### Attribute rules -/

/-- The first rule for an attribute of an element. -/
def rule? (element name : String) : Reader (Option AttributeRule) := do
  return (← get).rules.find? fun rule => rule.element = element && rule.name = name

def rulesOf (element : String) : Reader (List AttributeRule) := do
  return (← get).rules.filter (·.element = element)

end Reader

end SurveyForm.Xml
