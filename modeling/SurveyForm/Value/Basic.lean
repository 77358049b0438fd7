import SurveyForm.Calendar
import SurveyForm.Decimal.Nearest
/-!
Dynamic values: what an options document holds, and what a form is written as.
A map keeps its entries in order, and its keys are values themselves.  Values that
hold themselves are unfolded up to the place where they start over.
-/

namespace SurveyForm

inductive Value where
  | null
  | bool (b : Bool)
  | int (n : Int)
  | float (x : Float)
  | text (s : String)
  | bytes (data : List UInt8)
  | day (d : Day)
  | moment (m : Moment)
  | list (items : List Value)
  | pair (first second : Value)
  | set (items : List Value)
  | map (entries : List (Value × Value))
  /-- The list around this place, which starts over here. -/
  | listAgain
  /-- The map around this place, which starts over here. -/
  | mapAgain

namespace Value

/-- A map whose keys are texts. -/
def object (members : List (String × Value)) : Value :=
  .map (members.map fun member => (.text member.1, member.2))

def ofText? : Option String → Value
  | some s => .text s
  | none => .null

def ofBool? : Option Bool → Value
  | some b => .bool b
  | none => .null

def isKey (name : String) : Value → Bool
  | .text s => s = name
  | _ => false

/-- The value that a map holds under a text. -/
def get? (value : Value) (name : String) : Option Value :=
  match value with
  | .map entries => (entries.find? fun entry => entry.1.isKey name).map (·.2)
  | _ => none

/-- The number that a value counts as: truth values are numbers as well. -/
def number? : Value → Option Exact
  | .int n => some (.ofInt n)
  | .float x => some (.ofDouble x)
  | .bool b => some (.ofInt (if b then 1 else 0))
  | _ => none

/-- Whether two values count as the same number. -/
def sameNumber (a b : Value) : Bool :=
  match a.number?, b.number? with
  | some x, some y => x.compare? y = some .eq
  | _, _ => false

mutual

/-- Whether two values are equal.  Numbers are compared by value, moments by the
time they name, and maps and sets without regard to order. -/
def same : Value → Value → Bool
  | .null, other => match other with
      | .null => true
      | _ => false
  | .text s, other => other.isKey s
  | .bytes data, other => match other with
      | .bytes data' => data = data'
      | _ => false
  | .day d, other => match other with
      | .day d' => d = d'
      | _ => false
  | .moment m, other => match other with
      | .moment m' => m.isComparable m' && m.universalTime = m'.universalTime
      | _ => false
  | .list items, other => match other with
      | .list items' => sameAll items items'
      | _ => false
  | .pair first second, other => match other with
      | .pair first' second' => same first first' && same second second'
      | _ => false
  | .set items, other => match other with
      | .set items' => items.length = items'.length && sameMembers items items'
      | _ => false
  | .map entries, other => match other with
      | .map entries' => entries.length = entries'.length && sameEntries entries entries'
      | _ => false
  | .bool b, other => sameNumber (.bool b) other
  | .int n, other => sameNumber (.int n) other
  | .float x, other => sameNumber (.float x) other
  | .listAgain, _ => false
  | .mapAgain, _ => false

def sameAll : List Value → List Value → Bool
  | [], others => others.isEmpty
  | item :: rest, others => match others with
      | [] => false
      | other :: others => same item other && sameAll rest others

def sameMembers : List Value → List Value → Bool
  | [], _ => true
  | item :: rest, others => others.any (same item) && sameMembers rest others

def sameEntries : List (Value × Value) → List (Value × Value) → Bool
  | [], _ => true
  | (key, item) :: rest, others =>
      others.any (fun other => same key other.1 && same item other.2) &&
        sameEntries rest others

end

instance : BEq Value :=
  ⟨same⟩

end Value

end SurveyForm
