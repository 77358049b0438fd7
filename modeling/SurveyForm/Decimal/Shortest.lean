/-!
The shortest decimal that reads back as a given binary number.  The number is
`mantissa · 2 ^ exponent`; a decimal reads back when it lies between the midpoints
to the two neighboring numbers.  Grids of one, two and more digits are tried in
exact arithmetic until one of them has a point there.
-/

namespace SurveyForm

/-- The number `digits · 10 ^ exponent`. -/
structure Decimal where
  digits : Nat
  exponent : Int
deriving DecidableEq, Repr

namespace Decimal

/-- The decimals that read back as one number: a range of fractions with a common
denominator, whose ends count when `closed` says so. -/
structure Interval where
  low : Nat
  value : Nat
  high : Nat
  denominator : Nat
  closed : Bool

/-- The interval of a positive binary number.  The gap below the first number of
a binade is half as wide, unless it is the narrowest binade. -/
def Interval.ofBinary (mantissa : Nat) (exponent : Int) (halfGapBelow : Bool) :
    Interval :=
  let up := Nat.pow 2 (exponent - 2).toNat
  { low := (4 * mantissa - if halfGapBelow then 1 else 2) * up
    value := 4 * mantissa * up
    high := (4 * mantissa + 2) * up
    denominator := Nat.pow 2 (2 - exponent).toNat
    closed := mantissa % 2 = 0 }

/-- Multiplies all bounds, which leaves the fractions' order alone. -/
def Interval.scale (interval : Interval) (factor : Nat) : Interval :=
  { interval with
    low := interval.low * factor
    value := interval.value * factor
    high := interval.high * factor }

def Interval.contains (interval : Interval) (numerator : Nat) : Bool :=
  if interval.closed then interval.low ≤ numerator && numerator ≤ interval.high
  else interval.low < numerator && numerator < interval.high

/-- The point nearest to the value on the grid of the given unit, if one of the
value's two neighbors there reads back.  A tie goes to the even one. -/
def Interval.nearest? (interval : Interval) (unit : Nat) : Option Nat :=
  let below := interval.value / unit
  let above := below + 1
  match interval.contains (below * unit), interval.contains (above * unit) with
  | false, false => none
  | true, false => some below
  | false, true => some above
  | true, true =>
      let under := interval.value - below * unit
      let excess := above * unit - interval.value
      if under < excess ∨ (under = excess ∧ below % 2 = 0) then some below else some above

/-- The exponent of the first decimal digit of a positive fraction. -/
def leadingExponent (numerator denominator : Nat) : Int :=
  if denominator ≤ numerator then
    ((Nat.toDigits 10 (numerator / denominator)).length : Int) - 1
  else
    -((Nat.toDigits 10 ((denominator - 1) / numerator)).length : Int)

/-- Moves the zeros at the end of the digits into the exponent. -/
def normalize (decimal : Decimal) : Decimal :=
  let reversed := (Nat.toDigits 10 decimal.digits).reverse
  let zeros := (reversed.takeWhile (· = '0')).length
  if decimal.digits = 0 then ⟨0, 0⟩
  else ⟨decimal.digits / Nat.pow 10 zeros, decimal.exponent + zeros⟩

/-- The shortest decimal in an interval around its value, the nearest if several
have the same length. -/
def Interval.shortest (interval : Interval) : Decimal :=
  let leading := leadingExponent interval.value interval.denominator
  let onGrid (count : Nat) : Option Decimal :=
    let exponent : Int := leading - count
    ((interval.scale (Nat.pow 10 (-exponent).toNat)).nearest?
      (interval.denominator * Nat.pow 10 exponent.toNat)).map fun digits =>
        normalize ⟨digits, exponent⟩
  ((List.range 20).findSome? onGrid).getD ⟨interval.value, 0⟩

/-- The shortest decimal that reads back as a positive finite double. -/
def ofDouble (x : Float) : Decimal :=
  let bits := x.toBits.toNat % Nat.pow 2 63
  let fraction := bits % Nat.pow 2 52
  let binade : Nat := bits / Nat.pow 2 52
  if bits = 0 then ⟨0, 0⟩
  else if binade = 0 then (Interval.ofBinary fraction (-1074) false).shortest
  else (Interval.ofBinary (Nat.pow 2 52 + fraction) ((binade : Int) - 1075)
    (fraction = 0 && 1 < binade)).shortest

end Decimal

end SurveyForm
