import SurveyForm.Diagnostic
import SurveyForm.Field
import SurveyForm.Xml.Node
/-!
The walk over the instance.  Every element is visited before the elements below
it, and a visit is recorded in the field of its path.  The walk stops before the
first visit that lies too deep, or to an element whose name cannot be asked for.
-/

namespace SurveyForm

/-- What the walk sees at one element. -/
structure InstanceVisit where
  path : String
  depth : Nat
  isContainer : Bool
  text : Option String
  /-- Whether the name of the element can be asked for. -/
  isReadable : Bool
deriving DecidableEq, Repr

namespace InstanceVisit

mutual

/-- The visits to an element and to the elements below it, in document order. -/
def ofElement (parent : String) (depth : Nat) : Xml.Element → List InstanceVisit
  | ⟨tag, children⟩ =>
      let path := parent ++ "/" ++ tag.name
      ⟨path, depth, !(Xml.elementsOf children).isEmpty, Xml.leadingText children,
          Xml.isNameIn tag.uri tag.name⟩ ::
        ofNodes path (depth + 1) children

def ofNodes (parent : String) (depth : Nat) : List Xml.Node → List InstanceVisit
  | [] => []
  | .element child :: rest => ofElement parent depth child ++ ofNodes parent depth rest
  | .text _ :: rest => ofNodes parent depth rest
  | .comment :: rest => ofNodes parent depth rest
  | .instruction :: rest => ofNodes parent depth rest
  | .reference _ :: rest => ofNodes parent depth rest

end

theorem ofNodes_other {node : Xml.Node} (hnode : node.element? = none) (parent : String)
    (depth : Nat) (rest : List Xml.Node) :
    ofNodes parent depth (node :: rest) = ofNodes parent depth rest := by
  cases node <;> simp_all [Xml.Node.element?, ofNodes]

/-- The visits from the root of an instance on. -/
def ofRoot (root : Xml.Element) : List InstanceVisit :=
  ofElement "" 0 root

/-- What a visit changes in its field. -/
def change (visit : InstanceVisit) (field : Field) : Field :=
  if visit.isContainer then { field with isContainer := true }
  else { field with type := some "string", defaultValue := visit.text }

def record (fields : FieldMap) (visit : InstanceVisit) : FieldMap :=
  fields.modifyOrAdd visit.path visit.change

/-- What stops the walk before a visit. -/
def stop? (limit : Nat) (visit : InstanceVisit) : Option LoadError :=
  LoadError.ofVisit? .instanceData limit visit.depth visit.isReadable

/-- The visits that come before the walk stops. -/
def within (limit : Nat) (visits : List InstanceVisit) : List InstanceVisit :=
  visits.takeWhile fun visit => (stop? limit visit).isNone

end InstanceVisit

end SurveyForm
