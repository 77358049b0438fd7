import SurveyForm.Value.Basic
/-!
The order of values.  Numbers, texts, bytes, days and moments can be put in order
among themselves, and other values not at all.  In a set numbers stand in the order of
the slots that they take in a table.
-/

namespace SurveyForm.Value

/-- Whether one value comes before another or is equal to it, if the two can be put
in order. -/
def atMost? : Value → Value → Option Bool
  | .text a, .text b => some (decide (a ≤ b))
  | .bytes a, .bytes b => some (decide (a ≤ b))
  | .day a, .day b => some (decide (a.ordinal ≤ b.ordinal))
  | .moment a, .moment b =>
      if a.isComparable b then some (decide (a.universalTime ≤ b.universalTime)) else none
  | a, b => do
      let x ← a.number?
      let y ← b.number?
      return match x.compare? y with
        | some .gt => false
        | _ => true

/-- The values in ascending order, if every two of them can be compared. -/
def sort? (values : List Value) : Option (List Value) :=
  match values with
  | [] => some []
  | [value] => some [value]
  | first :: rest =>
      if rest.all fun value => (atMost? first value).isSome then
        some (values.mergeSort fun a b => (atMost? a b).getD true)
      else none

end SurveyForm.Value
