import SurveyForm.Expr.Basic
import SurveyForm.Value.Display
/-!
Expressions as data.  Every node is a map with its kind under `type`; a missing
expression is null.  Reading looks at the members a kind has and at no others, and
takes over their names, paths and texts whatever they are.
-/

namespace SurveyForm

def MatchOp.symbol : MatchOp → String
  | .selected => "="
  | .regex => "~"

def MatchOp.ofSymbol? : String → Option MatchOp
  | "=" => some .selected
  | "~" => some .regex
  | _ => none

/-- A condition that was stored as data: its names, paths and texts are any values. -/
abbrev StoredExpr : Type :=
  ExprOver Value

namespace StoredExpr

mutual

/-- The data that a stored condition is written as. -/
def encode : StoredExpr → Value
  | .absent => .null
  | .call name args =>
      .object [("type", .text "call"), ("name", name), ("args", .list (encodeAll args))]
  | .conditional test whenTrue whenFalse =>
      .object [("type", .text "if"), ("test", encode test),
        ("when_true", encode whenTrue), ("when_false", encode whenFalse)]
  | .matching op path value =>
      .object [("type", .text "match"), ("op", .text op.symbol), ("path", path),
        ("value", value)]
  | .comparison op path value wrapper =>
      .object [("type", .text "compare"), ("op", op), ("path", path), ("value", value),
        ("wrapper_function", wrapper.getD .null)]
  | .group terms =>
      .object [("type", .text "group"), ("terms", .list (encodeTerms terms))]
  | .unparsed text =>
      .object [("type", .text "unparsed"), ("text", text)]

def encodeAll : List StoredExpr → List Value
  | [] => []
  | expr :: rest => encode expr :: encodeAll rest

/-- A disjunct with a single member is written as that member, and any other one
as a list. -/
def encodeTerms : List (Term StoredExpr) → List Value
  | [] => []
  | .one member :: rest => encode member :: encodeTerms rest
  | .all members :: rest => .list (encodeAll members) :: encodeTerms rest

end

/-- Why data is no expression. -/
inductive DecodeError where
  | notAnObject
  | unknownType (kind : Value)
  | missingMember (name : String)
  | unknownOperator
  | notIterable (name : String)

def DecodeError.message : DecodeError → String
  | .notAnObject => "An expression is null or a map"
  | .unknownType kind => "Unsupported expression dict type: " ++ kind.inSentence
  | .missingMember name => "Missing member: " ++ name
  | .unknownOperator => "Unknown match operator"
  | .notIterable name => "Not a list: " ++ name

/-- The member of a map under a name, with a proof that it is a part of the map. -/
def member? (entries : List (Value × Value)) (name : String) :
    Option { item : Value // sizeOf item < sizeOf entries } :=
  match entries with
  | [] => none
  | (key, item) :: rest =>
      if key.isKey name then some ⟨item, by simp; omega⟩
      else (member? rest name).map fun found =>
        ⟨found.1, by have := found.2; simp; omega⟩

def requireMember (entries : List (Value × Value)) (name : String) :
    Except DecodeError { item : Value // sizeOf item < sizeOf entries } :=
  match member? entries name with
  | some found => .ok found
  | none => .error (.missingMember name)

/-- The items of a list member, none when it is missing.  A text or a map counts as
the list of its characters or names: it is empty, or holds what is no expression. -/
def listMember (entries : List (Value × Value)) (name : String) :
    Except DecodeError { items : List Value // sizeOf items ≤ sizeOf entries } :=
  have least : sizeOf ([] : List Value) ≤ sizeOf entries := by cases entries <;> simp; omega
  match member? entries name with
  | none => .ok ⟨[], least⟩
  | some ⟨.list items, hsize⟩ => .ok ⟨items, by simp at hsize; omega⟩
  | some ⟨.text s, _⟩ => if s = "" then .ok ⟨[], least⟩ else .error .notAnObject
  | some ⟨.map [], _⟩ => .ok ⟨[], least⟩
  | some ⟨.map (_ :: _), _⟩ => .error .notAnObject
  | some _ => .error (.notIterable name)

def operatorMember (entries : List (Value × Value)) : Except DecodeError MatchOp :=
  match requireMember entries "op" with
  | .ok ⟨.text s, _⟩ => ((MatchOp.ofSymbol? s).map .ok).getD (.error .unknownOperator)
  | .ok _ => .error .unknownOperator
  | .error cause => .error cause

/-- The kind of expression that a map claims to be, null when it names none. -/
def kindMember (entries : List (Value × Value)) : Value :=
  ((member? entries "type").map (·.1)).getD .null

/-- The call around the left operand of a comparison; null is none. -/
def wrapperMember (entries : List (Value × Value)) : Option Value :=
  match member? entries "wrapper_function" with
  | none => none
  | some ⟨.null, _⟩ => none
  | some found => some found.1

mutual

/-- The expression that data stands for. -/
def decode (value : Value) : Except DecodeError StoredExpr :=
  match value with
  | .null => .ok .absent
  | .map entries =>
      match kindMember entries with
      | .text "call" => do
          let name ← requireMember entries "name"
          let args ← listMember entries "args"
          return .call name.1 (← decodeAll args.1)
      | .text "if" => do
          let test ← requireMember entries "test"
          let testExpr ← decode test.1
          let whenTrue ← requireMember entries "when_true"
          let whenTrueExpr ← decode whenTrue.1
          let whenFalse ← requireMember entries "when_false"
          let whenFalseExpr ← decode whenFalse.1
          return .conditional testExpr whenTrueExpr whenFalseExpr
      | .text "match" => do
          let op ← operatorMember entries
          let path ← requireMember entries "path"
          let operand ← requireMember entries "value"
          return .matching op path.1 operand.1
      | .text "compare" => do
          let op ← requireMember entries "op"
          let path ← requireMember entries "path"
          let operand ← requireMember entries "value"
          return .comparison op.1 path.1 operand.1 (wrapperMember entries)
      | .text "group" => do
          let terms ← listMember entries "terms"
          return .group (← decodeTerms terms.1)
      | .text "unparsed" => do
          let text ← requireMember entries "text"
          return .unparsed text.1
      | kind => .error (.unknownType kind)
  | _ => .error .notAnObject
termination_by sizeOf value
decreasing_by
  · have := args.2; simp; omega
  · have := test.2; simp; omega
  · have := whenTrue.2; simp; omega
  · have := whenFalse.2; simp; omega
  · have := terms.2; simp; omega

def decodeAll (values : List Value) : Except DecodeError (List StoredExpr) :=
  match values with
  | [] => .ok []
  | value :: rest => do
      let expr ← decode value
      .ok (expr :: (← decodeAll rest))
termination_by sizeOf values

def decodeTerms (values : List Value) : Except DecodeError (List (Term StoredExpr)) :=
  match values with
  | [] => .ok []
  | .list members :: rest => do
      let members ← decodeAll members
      .ok (.all members :: (← decodeTerms rest))
  | value :: rest => do
      let member ← decode value
      .ok (.one member :: (← decodeTerms rest))
termination_by sizeOf values

end

end StoredExpr

/-- The data that a condition is written as. -/
def Expr.encode (expr : Expr) : Value :=
  StoredExpr.encode (expr.map .text)

end SurveyForm
