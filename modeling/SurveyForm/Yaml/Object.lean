import SurveyForm.Value.Slot
import SurveyForm.Yaml.Node
import SurveyForm.Yaml.Scalar.Value
/-!
What the nodes of a document are made into.  Every node is made once, however often it
is referred to.  A list or a map is made empty first and filled later, each in its turn;
so what is wrong with one shows only after all that was made before it has been filled.
-/

namespace SurveyForm.Yaml

/-- What a node is made into.  Lists, pairs and maps hold the nodes of their parts. -/
inductive Object where
  /-- A single value.  One that differs from itself is known by its identity. -/
  | plain (value : Value) (identity : Nat)
  | list (items : List NodeId)
  | pairs (entries : List (NodeId × NodeId))
  | set (items : List Value)
  | map (entries : List (NodeId × NodeId))

structure Build where
  nodes : Array Node
  objects : Array (Option Object)
  /-- The collections to be filled, in their order. -/
  queue : Array NodeId := #[]

abbrev Builder (α : Type) : Type :=
  StateT Build (Except ReadError) α

namespace Builder

def refuse {α : Type} : Builder α :=
  throw .construction

def node (id : NodeId) : Builder Node := do
  return (← get).nodes[id]?.getD ⟨"", .scalar ""⟩

def object? (id : NodeId) : Builder (Option Object) := do
  return (← get).objects[id]?.join

def setObject (id : NodeId) (object : Object) : Builder Unit :=
  modify fun build => { build with objects := build.objects.setIfInBounds id (some object) }

def setTag (id : NodeId) (tag : String) : Builder Unit :=
  modify fun build => { build with nodes := build.nodes.modify id ({ · with tag }) }

/-! ### Merging maps -/

def entries (id : NodeId) : Builder (List (NodeId × NodeId)) := do
  match (← node id).content with
  | .map entries => return entries
  | _ => return []

def setEntries (id : NodeId) (entries : List (NodeId × NodeId)) : Builder Unit :=
  modify fun build =>
    { build with nodes := build.nodes.modify id ({ · with content := .map entries }) }

def isMerge (entry : NodeId × NodeId) : Builder Bool := do
  return (← node entry.1).tag = ScalarKind.merge.tag

/-- Takes the first entry that merges out of a map, if there still is one. -/
def takeMerge (id : NodeId) : Builder Bool := do
  let nodes := (← get).nodes
  let merges (entry : NodeId × NodeId) : Bool :=
    nodes[entry.1]?.any (·.tag = ScalarKind.merge.tag)
  let found ← entries id
  match found.findIdx? merges with
  | some place =>
      setEntries id (found.eraseIdx place)
      return true
  | none => return false

/-- The entries of a map once it has been flattened. -/
def flatEntries (flatten : NodeId → Builder Unit) (id : NodeId) :
    Builder (List (NodeId × NodeId)) := do
  match (← node id).content with
  | .map _ =>
      flatten id
      entries id
  | _ => refuse

/-- The entries that a map, or each map of a list, brings in.  Of several maps the first
counts most, and so its entries come last. -/
def mergedEntries (flatten : NodeId → Builder Unit) (id : NodeId) :
    Builder (List (NodeId × NodeId)) := do
  match (← node id).content with
  | .list items => return (← items.mapM (flatEntries flatten)).reverse.flatten
  | _ => flatEntries flatten id

/-- Goes through the entries of a map and gathers what they bring in.  The mark of a
default value becomes a text.  A map that merges itself is flattened on the way, and
then nothing is left to gather. -/
def gather (flatten : NodeId → Builder Unit) (id : NodeId) :
    List (NodeId × NodeId) → Builder (List (NodeId × NodeId))
  | [] => return []
  | entry :: rest => do
      if ← isMerge entry then
        if ← takeMerge id then
          let found ← mergedEntries flatten entry.2
          return found ++ (← gather flatten id rest)
        else return []
      else
        if (← node entry.1).tag = ScalarKind.defaultValue.tag then
          setTag entry.1 ScalarKind.text.tag
        gather flatten id rest

/-- Puts the entries of the maps that a map merges in front of its own. -/
def flatten : (fuel : Nat) → NodeId → Builder Unit
  | 0, _ => refuse
  | fuel + 1, id => do
      let found ← gather (flatten fuel) id (← entries id)
      if !found.isEmpty then setEntries id (found ++ (← entries id))

/-! ### Single values -/

/-- The text of a scalar, or the default value of a map. -/
def scalarText : (fuel : Nat) → NodeId → Builder String
  | 0, _ => throw .endless
  | fuel + 1, id => do
      match (← node id).content with
      | .scalar text => return text
      | .list _ => refuse
      | .map entries =>
          let nodes := (← get).nodes
          let isDefault (entry : NodeId × NodeId) : Bool :=
            nodes[entry.1]?.any (·.tag = ScalarKind.defaultValue.tag)
          match entries.find? isDefault with
          | some entry => scalarText fuel entry.2
          | none => refuse

def isMap (id : NodeId) : Builder Bool := do
  match (← node id).content with
  | .map _ => return true
  | _ => return false

/-- How the tags of single values are read. -/
def plainReader? (tag : String) : Option (String → Except ReadError Value) :=
  [(coreTag "null", fun _ => .ok .null), (coreTag "bool", Scalar.boolValue),
    (coreTag "int", Scalar.intValue), (coreTag "float", Scalar.floatValue),
    (coreTag "str", fun text => .ok (.text text)), (coreTag "binary", Scalar.bytesValue),
    (coreTag "timestamp", Scalar.timestampValue)].lookup tag

/-- The collections that tags stand for, still empty. -/
def emptyObject? (tag : String) : Option Object :=
  [(coreTag "seq", Object.list []), (coreTag "omap", .pairs []), (coreTag "pairs", .pairs []),
    (coreTag "set", .set []), (coreTag "map", .map [])].lookup tag

/-- Makes a single value.  All places where the word for no number stands are one and
the same. -/
def makePlain (id : NodeId) (tag : String) (read : String → Except ReadError Value) :
    Builder Object := do
  let count := (← get).nodes.size
  let text ← scalarText (count + 1) id
  if tag = coreTag "timestamp" then
    if ← isMap id then throw .timestampMap
  let isShared := tag = coreTag "float" && Scalar.isNanWord text
  return .plain (← read text) (if isShared then count else id)

/-! ### Making and filling -/

/-- What a node is made into. -/
def make (id : NodeId) : Builder Object := do
  if let some object ← object? id then return object
  let tag := (← node id).tag
  match plainReader? tag, emptyObject? tag with
  | some read, _ =>
      let object ← makePlain id tag read
      setObject id object
      return object
  | none, some object =>
      setObject id object
      modify fun build => { build with queue := build.queue.push id }
      return object
  | none, none => refuse

/-- Whether two keys are the same. -/
def isSameKey (a b : Value × Nat) : Bool :=
  a.2 = b.2 || a.1 == b.1

/-- Makes the keys and values of a map.  A key that is there keeps its place and its
form, and the last of its values counts. -/
def makeEntries (id : NodeId) : Builder (List ((Value × Nat) × NodeId × NodeId)) := do
  if !(← isMap id) then refuse
  flatten ((← get).nodes.size + 1) id
  (← entries id).foldlM (fun found entry => do
    let .plain value identity ← make entry.1 | refuse
    let _ ← make entry.2
    let key := (value, identity)
    if found.any (isSameKey key ·.1) then
      return found.map fun other =>
        if isSameKey key other.1 then (other.1, other.2.1, entry.2) else other
    else return found ++ [(key, entry)]) []

/-- Makes the only key and the only value of a map. -/
def makePair (id : NodeId) : Builder (NodeId × NodeId) := do
  let [entry] ← entries id | refuse
  let _ ← make entry.1
  let _ ← make entry.2
  return entry

/-- The items of a list. -/
def items (id : NodeId) : Builder (List NodeId) := do
  match (← node id).content with
  | .list items => return items
  | _ => refuse

/-- Fills a collection. -/
def fill (id : NodeId) : Builder Unit := do
  match ← object? id with
  | some (.list _) =>
      let items ← items id
      let _ ← items.mapM make
      setObject id (.list items)
  | some (.pairs _) => setObject id (.pairs (← (← items id).mapM makePair))
  | some (.set _) =>
      let found ← makeEntries id
      setObject id (.set (Value.setOrder (found.map (·.1.1))))
  | some (.map _) =>
      let found ← makeEntries id
      setObject id (.map (found.map (·.2)))
  | _ => return

/-- Fills the collections in their order, those included that are found meanwhile. -/
def fillAll : (fuel : Nat) → (place : Nat) → Builder Unit
  | 0, _ => return
  | fuel + 1, place => do
      match (← get).queue[place]? with
      | some id =>
          fill id
          fillAll fuel (place + 1)
      | none => return

end Builder

/-- What the nodes of a document are made into, each at its place. -/
def NodeGraph.objects (graph : NodeGraph) : Except ReadError (Array (Option Object)) := do
  let count := graph.nodes.size
  let start : Build := { nodes := graph.nodes, objects := Array.replicate count none }
  let build : Builder Unit := do
    let _ ← Builder.make graph.root
    Builder.fillAll (count + 1) 0
  return (← build.run start).2.objects

end SurveyForm.Yaml
