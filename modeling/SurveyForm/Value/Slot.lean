import SurveyForm.Value.Basic
/-!
The order of the values in a set.  Each value takes a slot of a table that has room for
more than twice as many: the slot that its number names, or, where that one is taken,
another one that depends on the number.  Equal numbers have equal slots whatever
they are written as.
-/

namespace SurveyForm.Value

/-- The modulus of the numbers that name slots. -/
def slotModulus : Nat :=
  Nat.pow 2 61 - 1

/-- The number that names the slot of a value; negative ones count down from
`2 ^ 64`.  A power of two counts by its exponent modulo 61, since `2 ^ 61` is one more
than the modulus. -/
def slotNumber : Value → Nat
  | .null => 0xfca86420
  | value =>
      let signedNumber : Int := match value.number? with
        | some (.finite mantissa exponent) =>
            let size : Int := mantissa.natAbs * Nat.pow 2 (exponent % 61).toNat % slotModulus
            if mantissa < 0 then -size else size
        | some (.infinite negative) => if negative then -314159 else 314159
        | _ => 0
      let number : Int := if signedNumber = -1 then -2 else signedNumber
      (number % (Nat.pow 2 64 : Int)).toNat

/-- The least power of two from 8 on that is more than twice a number of values, from
five of them on. -/
def tableSize (count : Nat) : Nat :=
  if count < 5 then 8 else max 8 (Nat.pow 2 (Nat.log2 (2 * count) + 1))

/-- The slots that are tried one after the other: runs of ten neighbors, where the
table goes on that far, from starting points that take in more and more of the number. -/
def slots (size : Nat) : (fuel : Nat) → (start rest : Nat) → List Nat
  | 0, _, _ => []
  | fuel + 1, start, rest =>
      let run := if start + 9 < size then 10 else 1
      let next := rest / 32
      (List.range run).map (start + ·) ++ slots size fuel ((start * 5 + 1 + next) % size) next

/-- The first free slot of a value in a table. -/
def freeSlot (table : Array (Option Value)) (value : Value) : Nat :=
  let number := value.slotNumber
  ((slots table.size (table.size + 16) (number % table.size) number).find? fun slot =>
    (table[slot]?.getD none).isNone).getD 0

/-- Different values in the order in which a set holds them. -/
def setOrder (values : List Value) : List Value :=
  let table : Array (Option Value) := Array.replicate (tableSize values.length) none
  (values.foldl (fun table value => table.setIfInBounds (freeSlot table value) (some value))
    table).toList.filterMap id

end SurveyForm.Value
