import SurveyForm.Decimal.Shortest
/-!
Between doubles and exact numbers.  A double stands for `mantissa · 2 ^ exponent`
or for no finite number; a fraction is rounded to the nearest double, and a tie goes
to the one with the even mantissa.
-/

namespace SurveyForm

/-- What a double stands for. -/
inductive Exact where
  | undefined
  | infinite (negative : Bool)
  | finite (mantissa exponent : Int)
deriving DecidableEq, Repr

namespace Exact

def ofInt (n : Int) : Exact :=
  .finite n 0

def ofDouble (x : Float) : Exact :=
  let bits := x.toBits.toNat
  let negative := Nat.pow 2 63 ≤ bits
  let fraction := bits % Nat.pow 2 52
  let binade := bits / Nat.pow 2 52 % Nat.pow 2 11
  if binade = 2047 then
    if fraction = 0 then .infinite negative else .undefined
  else
    let mantissa : Int := if binade = 0 then fraction else Nat.pow 2 52 + fraction
    .finite (if negative then -mantissa else mantissa) (max binade 1 - 1075 : Int)

/-- The mantissa that a number has above a smaller exponent. -/
def scaled (mantissa exponent least : Int) : Int :=
  mantissa * Nat.pow 2 (exponent - least).toNat

/-- How two numbers compare, if both are numbers. -/
def compare? : Exact → Exact → Option Ordering
  | .undefined, _ => none
  | _, .undefined => none
  | .infinite a, .infinite b => some (compare b a)
  | .infinite a, .finite .. => some (if a then .lt else .gt)
  | .finite .., .infinite b => some (if b then .gt else .lt)
  | .finite m e, .finite n f =>
      some (compare (scaled m e (min e f)) (scaled n f (min e f)))

end Exact

namespace Decimal

/-- The quotient rounded to an integer, a half to the even neighbor. -/
def roundedQuotient (numerator denominator : Nat) : Nat :=
  let below := numerator / denominator
  let rest := 2 * (numerator % denominator)
  if rest < denominator ∨ (rest = denominator ∧ below % 2 = 0) then below else below + 1

/-- The fraction `numerator / (denominator · 2 ^ exponent)`, rounded. -/
def scaledQuotient (numerator denominator : Nat) (exponent : Int) : Nat :=
  roundedQuotient (numerator * Nat.pow 2 (-exponent).toNat)
    (denominator * Nat.pow 2 exponent.toNat)

/-- The exponent with which the mantissa of a positive fraction has 53 binary
digits, or the least exponent of all. -/
def doubleExponent (numerator denominator : Nat) : Int :=
  let guess : Int := (Nat.log2 numerator : Int) - Nat.log2 denominator - 52
  let isLow := numerator * Nat.pow 2 (-guess).toNat <
    denominator * Nat.pow 2 guess.toNat * Nat.pow 2 52
  max (if isLow then guess - 1 else guess) (-1074)

/-- The bits of the double nearest to a fraction, those of infinity if it is too
large.  A mantissa that is rounded up to the next binade carries into the exponent. -/
def nearestBits (numerator denominator : Nat) : Nat :=
  if numerator = 0 then 0
  else
    let exponent := doubleExponent numerator denominator
    let mantissa := scaledQuotient numerator denominator exponent
    let bits := (exponent + 1074).toNat * Nat.pow 2 52 + mantissa
    min bits (2047 * Nat.pow 2 52)

def nearestDouble (numerator denominator : Nat) : Float :=
  Float.ofBits (nearestBits numerator denominator).toUInt64

/-- The double nearest to a decimal.  One far outside the range of doubles is zero
or infinite whatever its digits. -/
def toDouble (decimal : Decimal) : Float :=
  let size := (Nat.toDigits 10 decimal.digits).length + decimal.exponent
  if decimal.digits = 0 ∨ size < -400 then nearestDouble 0 1
  else if 400 < size then nearestDouble (Nat.pow 2 1024) 1
  else nearestDouble (decimal.digits * Nat.pow 10 decimal.exponent.toNat)
    (Nat.pow 10 (-decimal.exponent).toNat)

/-- The double nearest to an integer, if it is in the range of doubles. -/
def ofInt? (n : Int) : Option Float :=
  let x := nearestDouble n.natAbs 1
  if x.isInf then none else some (if n < 0 then -x else x)

end Decimal

end SurveyForm
