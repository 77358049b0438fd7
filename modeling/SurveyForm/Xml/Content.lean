import SurveyForm.Xml.Instruction
import SurveyForm.Xml.StartTag
/-!
The content of elements.  Every end closes the innermost element that is open.  The
first reference to an entity has its content read like that of an element, on its own;
the reference itself stays where it is.
-/

namespace SurveyForm.Xml

open Reader

/-- An element whose end has not come yet, with its children so far, the last one
first. -/
structure OpenElement where
  name : String
  tag : Tag
  children : List Node

/-- A tree in the making: the open elements, the innermost first, and the element
at the top once it has ended. -/
structure Growth where
  /-- How many elements and entities are open around the tree. -/
  depth : Nat := 0
  path : List OpenElement := []
  root : Option Element := none

namespace Growth

/-- Adds a node to the innermost open element. -/
def add? (growth : Growth) (node : Node) : Option Growth :=
  match growth.path with
  | innermost :: outer =>
      some { growth with
        path := { innermost with children := node :: innermost.children } :: outer }
  | [] => none

/-- Adds an element, at the top if no other one is open. -/
def addElement (growth : Growth) (element : Element) : Growth :=
  (growth.add? (.element element)).getD { growth with root := some element }

def scope (growth : Growth) : List NamespaceBinding :=
  (growth.path.head?.map (·.tag.scope)).getD []

/-- How many elements and entities are open. -/
def openCount (growth : Growth) : Nat :=
  growth.depth + growth.path.length

end Growth

namespace Content

def add (growth : Growth) (node : Node) : Reader Growth :=
  match growth.add? node with
  | some grown => return grown
  | none => refuse

/-- The rest of a start tag. -/
def opening (growth : Growth) : Reader Growth := do
  let written ← StartTag.read
  let tag ← written.place growth.scope growth.openCount
  if written.isEmpty then return growth.addElement ⟨tag, []⟩
  else return { growth with path := ⟨written.name.spelling, tag, []⟩ :: growth.path }

/-- The rest of an end tag. -/
def closing (growth : Growth) : Reader Growth := do
  let name ← Scan.name
  let _ ← Scan.spaces
  Scan.take ">"
  match growth.path with
  | innermost :: outer =>
      if name ≠ innermost.name then refuse
      return { growth with path := outer }.addElement ⟨innermost.tag, innermost.children.reverse⟩
  | [] => refuse

/-- The rest of a reference.  The first one to an entity has its content read. -/
def reference (readContent : Nat → Entity → Reader Unit) (growth : Growth) :
    Reader Growth := do
  match ← Reference.scan with
  | .character c => add growth (.text (String.singleton c))
  | .entity name =>
      match ← known? name with
      | none => pure ()
      | some entity =>
          if entity.content ≠ .external && !entity.isRead then
            readContent growth.openCount entity
            changeEntity entity.key fun entity => { entity with isRead := true }
          charge (← sizeOf entity.key)
      add growth (.reference name)

/-- Whether a text holds the end of a marked section. -/
def holdsSectionEnd (text : List Char) : Bool :=
  (Scan.splitAtMark? "]]>".toList [] text).isSome

/-- One piece of content. -/
def step (readContent : Nat → Entity → Reader Unit) (growth : Growth) : Reader Growth := do
  if ← Scan.takeIf "<!--" then
    Scan.commentRest
    add growth .comment
  else if ← Scan.takeIf "<![CDATA[" then
    add growth (.text (String.ofList (← Scan.upTo "]]>")))
  else if ← Scan.takeIf "<?" then
    Instruction.rest
    add growth .instruction
  else if ← Scan.takeIf "</" then closing growth
  else if ← Scan.takeIf "<" then opening growth
  else if ← Scan.takeIf "&" then reference readContent growth
  else
    let text ← Scan.run fun c => c ≠ '<' && c ≠ '&'
    if text.isEmpty || holdsSectionEnd text then refuse
    add growth (.text (String.ofList text))

/-- Content up to the end of the text, or until no element is open. -/
def steps (readContent : Nat → Entity → Reader Unit) : (fuel : Nat) → Growth → Reader Growth
  | 0, _ => refuse
  | fuel + 1, growth => do
      if growth.path.isEmpty || (← get).rest.isEmpty then return growth
      else steps readContent fuel (← step readContent growth)

/-- The tag that stands for an entity while its content is read. -/
def entityTag : Tag :=
  { uri := none, name := "", attributes := [], scope := [], rules := [] }

/-- Reads the content of an entity inside so many open elements.  All that starts in it
ends in it, and the namespaces around it do not count. -/
def ofEntity : (room : Nat) → (depth : Nat) → Entity → Reader Unit
  | 0, _, _ => refuse
  | room + 1, depth, entity => do
      if StartTag.depthLimit ≤ depth then refuse
      readingEntity entity do
        let start : Growth := { depth, path := [⟨"", entityTag, []⟩] }
        let growth ← steps (ofEntity room) (← enough) start
        if growth.path.length ≠ 1 then refuse

/-- An element with all that is in it, after the start of its tag. -/
def elementRest : Reader Element := do
  let start ← opening {}
  let progress ← get
  match (← steps (ofEntity progress.room) (← enough) start).root with
  | some element => return element
  | none => refuse

end Content

end SurveyForm.Xml
