import SurveyForm.Entries
import SurveyForm.Expr.Basic
import SurveyForm.Path
/-!
Fields.  There is one for every path of the instance, in the order in which the
paths first occur there; declarations fill in what a field is like.
-/

namespace SurveyForm

/-- A condition that a bind declares, with the message to show when it fails. -/
structure Condition where
  expr : Expr
  message : Option String
deriving BEq

structure Field where
  path : String
  isContainer : Bool := false
  /-- The type of the values; a container has none of its own. -/
  type : Option String := none
  defaultValue : Option String := none
  required : Option Bool := none
  readonly : Option Bool := none
  calculate : Option Expr := none
  constraint : Option Condition := none
  relevant : Option Condition := none
  /-- All other declared attributes, by the names they go by. -/
  attributes : Entries String := []
deriving BEq

def Field.name (field : Field) : String :=
  Path.lastName field.path

/-- The logic of a field: its calculation, then the conditions of its relevance
and of its constraint. -/
def Field.logic (field : Field) : List Expr :=
  field.calculate.toList ++ (field.relevant.map (·.expr)).toList ++
    (field.constraint.map (·.expr)).toList

/-- The fields of a form, found by their paths. -/
abbrev FieldMap : Type :=
  List Field

namespace FieldMap

def get? (fields : FieldMap) (path : String) : Option Field :=
  fields.find? (·.path = path)

def contains (fields : FieldMap) (path : String) : Bool :=
  (fields.get? path).isSome

def paths (fields : FieldMap) : List String :=
  fields.map (·.path)

/-- Changes the field at a path. -/
def modify (fields : FieldMap) (path : String) (change : Field → Field) : FieldMap :=
  fields.map fun field => if field.path = path then change field else field

/-- Changes the field at a path, and adds it at the end if it is not there yet. -/
def modifyOrAdd (fields : FieldMap) (path : String) (change : Field → Field) : FieldMap :=
  if fields.contains path then fields.modify path change
  else fields ++ [change { path }]

theorem contains_iff {fields : FieldMap} {path : String} :
    fields.contains path = true ↔ path ∈ fields.paths := by
  simp [contains, get?, paths]

theorem path_of_get? {fields : FieldMap} {path : String} {field : Field}
    (hget : fields.get? path = some field) : field.path = path := by
  simpa using List.find?_some hget

end FieldMap

end SurveyForm
