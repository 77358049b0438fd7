import SurveyForm.Options
import SurveyForm.Yaml.Object
/-!
The value of a YAML document.  A collection that holds itself is unfolded up to the
place where it starts over.
-/

namespace SurveyForm.Yaml

/-- The values that have been unfolded without coming upon a place that starts over. -/
abbrev Unfolder (α : Type) : Type :=
  StateM (Array (Option Value)) α

namespace Object

/-- Keeps the value of a node, if it does not depend on where the node stands. -/
def keep (id : NodeId) (value : Value) (startsOver : Bool) : Unfolder (Value × Bool) := do
  if !startsOver then modify fun known => known.setIfInBounds id (some value)
  return (value, startsOver)

/-- The value of a node inside the collections on a path, and whether it holds a place
where one of these starts over. -/
def unfold (objects : Array (Option Object)) :
    (fuel : Nat) → (path : List NodeId) → NodeId → Unfolder (Value × Bool)
  | 0, _, _ => return (.null, true)
  | fuel + 1, path, id => do
      if let some value := (← get)[id]?.join then return (value, false)
      let inside := unfold objects fuel (id :: path)
      let entry (part : NodeId × NodeId) : Unfolder ((Value × Value) × Bool) := do
        let key ← inside part.1
        let value ← inside part.2
        return ((key.1, value.1), key.2 || value.2)
      match objects[id]?.join with
      | none => return (.null, false)
      | some (.plain value _) => return (value, false)
      | some (.set items) => return (.set items, false)
      | some (.list items) =>
          if path.contains id then return (.listAgain, true)
          let found ← items.mapM inside
          keep id (.list (found.map (·.1))) (found.any (·.2))
      | some (.pairs entries) =>
          if path.contains id then return (.listAgain, true)
          let found ← entries.mapM entry
          keep id (.list (found.map fun part => .pair part.1.1 part.1.2)) (found.any (·.2))
      | some (.map entries) =>
          if path.contains id then return (.mapAgain, true)
          let found ← entries.mapM entry
          keep id (.map (found.map (·.1))) (found.any (·.2))

/-- The value of a document.  The members of a map are unfolded each from itself. -/
def rootValue (objects : Array (Option Object)) (root : NodeId) : Value :=
  let start : NodeId → Unfolder Value := fun id =>
    return (← unfold objects (objects.size + 1) [] id).1
  let value : Unfolder Value := match objects[root]?.join with
    | some (.map entries) => do
        return .map (← entries.mapM fun entry => return (← start entry.1, ← start entry.2))
    | _ => start root
  (value.run (Array.replicate objects.size none)).1

end Object

/-- The value of the only document in a text; a text without one has none. -/
def read (text : String) : Except ReadError Value := do
  match ← NodeGraph.ofText text with
  | some graph => return Object.rootValue (← graph.objects) graph.root
  | none => return .null

end SurveyForm.Yaml

namespace SurveyForm.Options

/-- Why a text gives no options. -/
inductive FileProblem where
  | unreadable (cause : Yaml.ReadError)
  | wrong (problem : Problem)

/-- The options that the text of a file gives. -/
def ofText (file text : String) : Except FileProblem Options := do
  let value ← (Yaml.read text).mapError .unreadable
  (ofDocument file value).mapError .wrong

end SurveyForm.Options
