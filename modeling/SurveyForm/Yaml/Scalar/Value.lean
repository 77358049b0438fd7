import SurveyForm.Decimal.Nearest
import SurveyForm.Text.Base64
import SurveyForm.Text.Blank
import SurveyForm.Text.DecimalDigit
import SurveyForm.Value.Basic
import SurveyForm.Yaml.ReadError
import SurveyForm.Yaml.Scalar.Kind
/-!
The values of scalars whose tag says what they are.  Numbers can then be written more
freely than plain ones: with blanks around them and with the digits of any script.
-/

namespace SurveyForm.Yaml.Scalar

/-! ### Notations of numbers -/

/-- The characters of a number in ASCII.  What has no place in a number becomes a
question mark, which has none either. -/
def asciiForm (text : List Char) : List Char :=
  text.map fun c =>
    if c.toNat < 128 then c
    else if Text.isBlank c then ' '
    else match Text.decimalDigit? c with
      | some digit => Char.ofNat (48 + digit)
      | none => '?'

/-- The blanks that may stand around a number. -/
def isMargin (c : Char) : Bool :=
  c = ' ' || ('\t' ≤ c && c ≤ '\r')

/-- A number as it is read: in ASCII, without blanks around it. -/
def numberForm (text : List Char) : List Char :=
  Text.trimList isMargin (asciiForm text)

/-- The value of a notation after its sign. -/
def signed {α : Type} [Neg α] (value? : List Char → Option α) (text : List Char) : Option α :=
  let (negative, body) := unsigned text
  (value? body).map fun x => if negative then -x else x

/-- The digits in a base, after a mark in front of them if there is one. -/
def digitsIn? (base : Nat) (mark : Option Char) (body : List Char) : Option (List Char) :=
  let digits := match body, mark with
    | '0' :: c :: rest, some mark => if c.toLower = mark then rest else body
    | _, _ => body
  if some1 (fun c => Text.isHexDigit c && Text.ofHexDigits [c] < base) digits then some digits
  else none

/-- A whole number in a base.  To base ten there may not be too many digits. -/
def whole? (base : Nat) (mark : Option Char) (text : List Char) : Option Int :=
  signed (fun body => do
    let digits ← digitsIn? base mark body
    if base = 10 ∧ Text.digitLimit < digits.length then none
    else some (digits.foldl (fun value c => value * base + Text.ofHexDigits [c]) 0 : Nat))
    (numberForm text)

/-- The parts of a number to base sixty put together. -/
def ofSixtieths (parts : List Int) : Int :=
  parts.foldl (fun value part => value * 60 + part) 0

/-- An integer from its notation. -/
def int? (text : List Char) : Option Int :=
  signed (fun digits =>
    match digits with
    | ['0'] => some 0
    | '0' :: 'b' :: rest => whole? 2 (some 'b') rest
    | '0' :: 'x' :: rest => whole? 16 (some 'x') rest
    | '0' :: _ => whole? 8 (some 'o') digits
    | _ => ofSixtieths <$> (colonParts digits).mapM (whole? 10 none)) text

/-- The exponent of a decimal. -/
def exponent? : List Char → Option Int
  | [] => some 0
  | e :: digits => if e.toLower = 'e' then signed (fun digits =>
      if some1 Char.isDigit digits then some (Text.ofDecimalDigits digits : Int) else none) digits
      else none

/-- The value of a decimal without sign. -/
def unsignedDecimal? (text : List Char) : Option Float := do
  let whole := text.takeWhile Char.isDigit
  let rest := text.dropWhile Char.isDigit
  let (fraction, rest) := match rest with
    | '.' :: rest => (rest.takeWhile Char.isDigit, rest.dropWhile Char.isDigit)
    | rest => ([], rest)
  let scale := (← exponent? rest) - fraction.length
  if whole.isEmpty && fraction.isEmpty then none
  else return Decimal.toDouble ⟨Text.ofDecimalDigits (whole ++ fraction), scale⟩

/-- A decimal, or one of the words for what is no finite number. -/
def decimal? (text : List Char) : Option Float :=
  signed (fun body =>
    let word := String.ofList (body.map Char.toLower)
    if word = "inf" || word = "infinity" then some (1.0 / 0.0)
    else if word = "nan" then some (0.0 / 0.0)
    else unsignedDecimal? body) (numberForm text)

/-- The sum of parts, the first of which counts `unit` and each further one sixty
times the one in front of it.  A unit has to be in the range of doubles. -/
def sumOfSixtieths (value : Float) (unit : Nat) : List Float → Except ReadError Float
  | [] => .ok value
  | part :: rest =>
      match Decimal.ofInt? unit with
      | some factor => sumOfSixtieths (value + part * factor) (unit * 60) rest
      | none => .error .overflow

/-- The decimals between colons as one number to base sixty; they are added from the
least on. -/
def sexagesimal (text : List Char) : Except ReadError Float :=
  match (colonParts text).mapM decimal? with
  | none => .error .range
  | some [part] => .ok part
  | some parts => sumOfSixtieths 0 1 parts.reverse

/-! ### Values -/

def withoutLow (text : String) : List Char :=
  text.toList.filter (· ≠ '_')

def intValue (text : String) : Except ReadError Value :=
  let digits := withoutLow text
  if (unsigned digits).2.isEmpty then .error .noDigits
  else match int? digits with
    | some n => .ok (.int n)
    | none => .error .range

/-- Whether a text is the word that stands for no number, in letters of either case and
with a sign if need be. -/
def isNanWord (text : String) : Bool :=
  (unsigned (withoutLow text)).2.map Char.toLower = ".nan".toList

def floatValue (text : String) : Except ReadError Value := do
  let chars := (withoutLow text).map Char.toLower
  let (negative, body) := unsigned chars
  if chars.isEmpty then throw .noDigits
  let x ←
    if body = ".inf".toList then pure (1.0 / 0.0)
    else if body = ".nan".toList then pure (0.0 / 0.0)
    else sexagesimal body
  return .float (if negative then -x else x)

def boolValue (text : String) : Except ReadError Value :=
  let lower := text.toLower
  if ["yes", "true", "on"].contains lower then .ok (.bool true)
  else if ["no", "false", "off"].contains lower then .ok (.bool false)
  else .error .truthValue

def timestampValue (text : String) : Except ReadError Value :=
  match timestamp? text.toList with
  | some (.inl d) => if d.isValid then .ok (.day d) else .error .range
  | some (.inr m) => if m.isValid then .ok (.moment m) else .error .range
  | none => .error .timestamp

/-- The bytes that ASCII characters stand for. -/
def bytesValue (text : String) : Except ReadError Value :=
  if text.toList.any (127 < ·.toNat) then .error .construction
  else match Text.Base64.decode? text.toList with
    | some data => .ok (.bytes data)
    | none => .error .construction

end SurveyForm.Yaml.Scalar
