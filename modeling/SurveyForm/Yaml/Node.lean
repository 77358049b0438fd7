import SurveyForm.Yaml.Scalar.Kind
import SurveyForm.Yaml.Token.Stream
/-!
Nodes of a YAML document: scalars, lists and maps, each with its tag.  A reference
stands for the node that its anchor names, and a list or a map can hold a reference to
itself; so nodes stand in an array and hold one another by their places in it.
-/

namespace SurveyForm.Yaml

/-- The place of a node in the array of all nodes. -/
abbrev NodeId : Type :=
  Nat

inductive NodeContent where
  | scalar (text : String)
  | list (items : List NodeId)
  | map (entries : List (NodeId × NodeId))
deriving DecidableEq, Repr

structure Node where
  tag : String
  content : NodeContent
deriving DecidableEq, Repr

/-- The beginning of the tags that need no declaration. -/
def coreTag (name : String) : String :=
  "tag:yaml.org,2002:" ++ name

def ScalarKind.tag : ScalarKind → String
  | .null => coreTag "null"
  | .bool => coreTag "bool"
  | .int => coreTag "int"
  | .float => coreTag "float"
  | .timestamp => coreTag "timestamp"
  | .merge => coreTag "merge"
  | .defaultValue => coreTag "value"
  | .mark => coreTag "yaml"
  | .text => coreTag "str"

/-- The reading of the text, with the nodes, anchors and tag handles so far. -/
structure NodeState where
  reading : Reading
  nodes : Array Node := #[]
  anchors : List (String × NodeId) := []
  handles : List (String × String) := []

abbrev NodeReader (α : Type) : Type :=
  StateT NodeState (Except ReadError) α

namespace NodeReader

/-! ### Tokens -/

/-- The next token, left in place. -/
def peek : NodeReader Token := do
  let state ← get
  let (token, reading) ← Reader.nextToken state.reading
  set { state with reading }
  return token

def skip : NodeReader Unit :=
  modify fun state =>
    { state with reading := { state.reading with taken := state.reading.taken + 1 } }

def takeIf (token : Token) : NodeReader Bool := do
  if (← peek) = token then
    skip
    return true
  else return false

/-- Whether the next token is one of some. -/
def isOneOf (tokens : List Token) : NodeReader Bool := do
  return tokens.contains (← peek)

/-- Takes the comma between two items. -/
def flowSeparator : NodeReader Unit := do
  if !(← takeIf .flowEntry) then throw .grammar

/-! ### Tags and anchors -/

def standardHandles : List (String × String) :=
  [("!", "!"), ("!!", coreTag "")]

/-- A tag with its handle replaced by what it stands for. -/
def resolveTag (handle : Option String) (suffix : String) : NodeReader String := do
  match handle with
  | none => return suffix
  | some handle =>
      match ((← get).handles ++ standardHandles).lookup handle with
      | some start => return start ++ suffix
      | none => throw .grammar

/-- The anchor and the tag in front of a node, in either order. -/
def properties : NodeReader (Option String × Option String) := do
  match ← peek with
  | .anchor name =>
      skip
      match ← peek with
      | .tag handle suffix =>
          skip
          return (some name, some (← resolveTag handle suffix))
      | _ => return (some name, none)
  | .tag handle suffix =>
      skip
      match ← peek with
      | .anchor name =>
          skip
          return (some name, some (← resolveTag handle suffix))
      | _ => return (none, some (← resolveTag handle suffix))
  | _ => return (none, none)

/-- The tag of a text: a plain one has the tag of what it stands for. -/
def scalarTag (tag : Option String) (text : String) (plain : Bool) : String :=
  match tag with
  | none => if plain then (Scalar.kindOf text).tag else coreTag "str"
  | some "!" => (Scalar.kindOf text).tag
  | some tag => tag

def collectionTag (tag : Option String) (standard : String) : String :=
  match tag with
  | none => coreTag standard
  | some "!" => coreTag standard
  | some tag => tag

/-! ### Making nodes -/

/-- Makes a node under an anchor that is not there already. -/
def make (anchor : Option String) (node : Node) : NodeReader NodeId := do
  let state ← get
  let id := state.nodes.size
  let nodes := state.nodes.push node
  match anchor with
  | none => set { state with nodes }
  | some name =>
      if (state.anchors.lookup name).isSome then throw .reference
      set { state with nodes, anchors := (name, id) :: state.anchors }
  return id

def fill (id : NodeId) (content : NodeContent) : NodeReader NodeId := do
  modify fun state => { state with nodes := state.nodes.modify id ({ · with content }) }
  return id

/-- Makes a list.  It can be referred to from its own items. -/
def makeList (anchor tag : Option String) (items : NodeReader (List NodeId)) :
    NodeReader NodeId := do
  let id ← make anchor ⟨collectionTag tag "seq", .list []⟩
  fill id (.list (← items))

/-- Makes a map.  It can be referred to from its own entries. -/
def makeMap (anchor tag : Option String) (entries : NodeReader (List (NodeId × NodeId))) :
    NodeReader NodeId := do
  let id ← make anchor ⟨collectionTag tag "map", .map []⟩
  fill id (.map (← entries))

def emptyNode : NodeReader NodeId :=
  make none ⟨coreTag "null", .scalar ""⟩

/-- The empty node that an anchor or a tag stands in front of. -/
def emptyOr (anchor tag : Option String) : NodeReader NodeId := do
  if anchor.isNone && tag.isNone then throw .grammar
  else make anchor ⟨scalarTag tag "" true, .scalar ""⟩

/-! ### Nodes of the text -/

mutual

/-- A node, or the empty one if a token comes next that ends its place. -/
def nodeUnless (ends : List Token) (block indentless : Bool) : (fuel : Nat) → NodeReader NodeId
  | 0 => throw .grammar
  | fuel + 1 => do
      if ← isOneOf ends then emptyNode else node block indentless fuel

/-- A node.  Blocks may start inside blocks only, and a list without indentation
of its own only as the key or the value of a map. -/
def node (block indentless : Bool) : (fuel : Nat) → NodeReader NodeId
  | 0 => throw .grammar
  | fuel + 1 => do
      if let .reference name ← peek then
        skip
        match (← get).anchors.lookup name with
        | some found => return found
        | none => throw .reference
      let (anchor, tag) ← properties
      match ← peek with
      | .blockEntry =>
          if indentless then makeList anchor tag (plainItems fuel) else emptyOr anchor tag
      | .scalar text plain =>
          skip
          make anchor ⟨scalarTag tag text plain, .scalar text⟩
      | .flowListStart =>
          makeList anchor tag do
            skip
            flowItems true fuel
      | .flowMapStart =>
          makeMap anchor tag do
            skip
            flowEntries true fuel
      | .blockListStart =>
          if block then
            makeList anchor tag do
              skip
              blockItems fuel
          else emptyOr anchor tag
      | .blockMapStart =>
          if block then
            makeMap anchor tag do
              skip
              blockEntries fuel
          else emptyOr anchor tag
      | _ => emptyOr anchor tag

/-- The items of a list that has a block of its own. -/
def blockItems : (fuel : Nat) → NodeReader (List NodeId)
  | 0 => throw .grammar
  | fuel + 1 => do
      if ← takeIf .blockEntry then
        let item ← nodeUnless [.blockEntry, .blockEnd] true false fuel
        return item :: (← blockItems fuel)
      else if ← takeIf .blockEnd then return []
      else throw .grammar

/-- The items of a list without indentation of its own. -/
def plainItems : (fuel : Nat) → NodeReader (List NodeId)
  | 0 => throw .grammar
  | fuel + 1 => do
      if ← takeIf .blockEntry then
        let item ← nodeUnless [.blockEntry, .key, .value, .blockEnd] true false fuel
        return item :: (← plainItems fuel)
      else return []

def blockEntries : (fuel : Nat) → NodeReader (List (NodeId × NodeId))
  | 0 => throw .grammar
  | fuel + 1 => do
      let ends : List Token := [.key, .value, .blockEnd]
      if ← takeIf .key then
        let name ← nodeUnless ends true true fuel
        let item ← if ← takeIf .value then nodeUnless ends true true fuel else emptyNode
        return (name, item) :: (← blockEntries fuel)
      else if ← takeIf .blockEnd then return []
      else throw .grammar

/-- The items between brackets; a key among them makes a map of one entry. -/
def flowItems (first : Bool) : (fuel : Nat) → NodeReader (List NodeId)
  | 0 => throw .grammar
  | fuel + 1 => do
      if ← takeIf .flowListEnd then return []
      if !first then flowSeparator
      if ← isOneOf [.key] then
        let item ← makeMap none none do
          skip
          let name ← nodeUnless [.value, .flowEntry, .flowListEnd] false false fuel
          let item ←
            if ← takeIf .value then nodeUnless [.flowEntry, .flowListEnd] false false fuel
            else emptyNode
          return [(name, item)]
        return item :: (← flowItems false fuel)
      else if ← takeIf .flowListEnd then return []
      else
        let item ← node false false fuel
        return item :: (← flowItems false fuel)

/-- The entries between braces; an item without a key is a key without a value. -/
def flowEntries (first : Bool) : (fuel : Nat) → NodeReader (List (NodeId × NodeId))
  | 0 => throw .grammar
  | fuel + 1 => do
      if ← takeIf .flowMapEnd then return []
      if !first then flowSeparator
      if ← takeIf .key then
        let name ← nodeUnless [.value, .flowEntry, .flowMapEnd] false false fuel
        let item ←
          if ← takeIf .value then nodeUnless [.flowEntry, .flowMapEnd] false false fuel
          else emptyNode
        return (name, item) :: (← flowEntries false fuel)
      else if ← takeIf .flowMapEnd then return []
      else
        let name ← node false false fuel
        let _ ← peek
        return (name, ← emptyNode) :: (← flowEntries false fuel)

end

/-! ### Documents -/

/-- The directives in front of a document. -/
def directives (hasVersion : Bool) : (fuel : Nat) → NodeReader Unit
  | 0 => throw .grammar
  | fuel + 1 => do
      match ← peek with
      | .versionDirective major =>
          if hasVersion || major ≠ 1 then throw .grammar
          skip
          directives true fuel
      | .tagDirective handle start =>
          if ((← get).handles.lookup handle).isSome then throw .grammar
          skip
          modify fun state => { state with handles := (handle, start) :: state.handles }
          directives hasVersion fuel
      | .otherDirective =>
          skip
          directives hasVersion fuel
      | _ => return

/-- The directives and the mark that start a document. -/
def documentStart (fuel : Nat) : NodeReader Unit := do
  modify fun state => { state with handles := [] }
  directives false fuel
  if !(← takeIf .documentStart) then throw .grammar

def skipDocumentEnds : (fuel : Nat) → NodeReader Unit
  | 0 => return
  | fuel + 1 => do
      if ← takeIf .documentEnd then skipDocumentEnds fuel

def isDirective : Token → Bool
  | .versionDirective _ => true
  | .tagDirective .. => true
  | .otherDirective => true
  | _ => false

def startsDocument (token : Token) : Bool :=
  isDirective token || token = .documentStart

/-- The node of an explicit document, after its directives and its mark. -/
def explicitDocument (fuel : Nat) : NodeReader NodeId := do
  documentStart fuel
  let next ← peek
  if startsDocument next || next = .documentEnd || next = .streamEnd then emptyNode
  else node true false fuel

/-- The only document of a text, if there is one at all. -/
def onlyDocument (fuel : Nat) : NodeReader (Option NodeId) := do
  let first ← peek
  if first = .streamEnd then return none
  let root ← if startsDocument first then explicitDocument fuel else node true false fuel
  skipDocumentEnds fuel
  if (← peek) = .streamEnd then return some root
  documentStart fuel
  throw .reference

end NodeReader

/-- The nodes of the only document in a text, and the place of its root. -/
structure NodeGraph where
  nodes : Array Node
  root : NodeId

/-- The only document in a text, if there is one. -/
def NodeGraph.ofText (text : String) : Except ReadError (Option NodeGraph) := do
  let reading := Reading.ofText text
  if reading.limit = some 0 then throw .character
  let (root, state) ← NodeReader.onlyDocument (24 * reading.size + 28) { reading }
  return root.map fun root => ⟨state.nodes, root⟩

end SurveyForm.Yaml
