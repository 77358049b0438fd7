import SurveyForm.Decimal.Shortest
import SurveyForm.Text.CharacterReference
import SurveyForm.Text.Quoted
import SurveyForm.Value.Basic
/-!
Values as messages show them.  An integer with very many digits is not shown at all,
and then neither is a value that holds one.
-/

namespace SurveyForm.Value

/-- Where and how doubles are shown: positionally when the first digit stands
between the fifth place after the point and the sixteenth before it, and with an
exponent of two digits at least otherwise. -/
def displayDecimal (decimal : Decimal) : String :=
  let digits := Nat.toDigits 10 decimal.digits
  let point := decimal.exponent + digits.length
  if decimal.digits = 0 then "0.0"
  else if -4 < point ∧ point ≤ 16 then
    if point ≤ 0 then
      "0." ++ String.ofList (List.replicate (-point).toNat '0' ++ digits)
    else if digits.length ≤ point then
      String.ofList (digits ++ List.replicate decimal.exponent.toNat '0') ++ ".0"
    else
      String.ofList (digits.take point.toNat) ++ "." ++
        String.ofList (digits.drop point.toNat)
  else
    let exponent := point - 1
    let size := toString exponent.natAbs
    let fraction := match digits.drop 1 with
      | [] => ""
      | rest => "." ++ String.ofList rest
    String.ofList (digits.take 1) ++ fraction ++ "e" ++
      (if exponent < 0 then "-" else "+") ++ (if size.length < 2 then "0" else "") ++ size

/-- A double, shown with the fewest digits that read back. -/
def displayFloat (x : Float) : String :=
  if x.isNaN then "nan"
  else
    let sign := if Nat.pow 2 63 ≤ x.toBits.toNat then "-" else ""
    if x.isInf then sign ++ "inf" else sign ++ displayDecimal (Decimal.ofDouble x)

/-- How one byte is written between the given quotes. -/
def displayByte (quote : Char) (byte : UInt8) : List Char :=
  let c := Char.ofNat byte.toNat
  if c = quote ∨ c = '\\' then ['\\', c]
  else if c = '\n' then ['\\', 'n']
  else if c = '\r' then ['\\', 'r']
  else if c = '\t' then ['\\', 't']
  else if ' ' ≤ c ∧ c ≤ '~' then [c]
  else '\\' :: 'x' :: Text.hexDigits 2 byte.toNat

/-- Bytes, shown as the ASCII characters that they are. -/
def displayBytes (data : List UInt8) : String :=
  let quote := Text.quoteFor (data.map fun byte => Char.ofNat byte.toNat)
  String.ofList ('b' :: quote :: data.flatMap (displayByte quote) ++ [quote])

def displayNumbers (numbers : List Nat) : String :=
  ", ".intercalate (numbers.map toString)

def displayDay (d : Day) : String :=
  "datetime.date(" ++ displayNumbers [d.year, d.month, d.day] ++ ")"

/-- An offset, shown as days and seconds of which only the days can be negative. -/
def displayOffset (minutes : Int) : String :=
  if minutes = 0 then "datetime.timezone.utc"
  else
    let days := if minutes < 0 then "days=-1, " else ""
    "datetime.timezone(datetime.timedelta(" ++ days ++ "seconds=" ++
      toString (minutes % 1440 * 60) ++ "))"

/-- A moment, shown without seconds and microseconds that are zero. -/
def displayMoment (m : Moment) : String :=
  let fine := if m.microsecond ≠ 0 then [m.second, m.microsecond]
    else if m.second ≠ 0 then [m.second] else []
  let offset := match m.offset with
    | some minutes => ", tzinfo=" ++ displayOffset minutes
    | none => ""
  "datetime.datetime(" ++
    displayNumbers ([m.day.year, m.day.month, m.day.day, m.hour, m.minute] ++ fine) ++
    offset ++ ")"

mutual

/-- The value as messages show it. -/
def display : Value → String
  | .null => "None"
  | .bool true => "True"
  | .bool false => "False"
  | .int n => toString n
  | .float x => displayFloat x
  | .text s => Text.quoted s
  | .bytes data => displayBytes data
  | .day d => displayDay d
  | .moment m => displayMoment m
  | .list items => "[" ++ ", ".intercalate (displayAll items) ++ "]"
  | .pair first second => "(" ++ display first ++ ", " ++ display second ++ ")"
  | .set [] => "set()"
  | .set (item :: rest) =>
      "\x7b" ++ ", ".intercalate (display item :: displayAll rest) ++ "\x7d"
  | .map entries => "\x7b" ++ ", ".intercalate (displayEntries entries) ++ "\x7d"
  | .listAgain => "[...]"
  | .mapAgain => "\x7b...\x7d"

def displayAll : List Value → List String
  | [] => []
  | item :: rest => display item :: displayAll rest

def displayEntries : List (Value × Value) → List String
  | [] => []
  | (key, item) :: rest => (display key ++ ": " ++ display item) :: displayEntries rest

end

/-- Whether an integer has few enough digits to be shown. -/
def isShownInt (n : Int) : Bool :=
  n.natAbs < Nat.pow 10 Text.digitLimit

mutual

/-- Whether all integers in a value are shown. -/
def isShown : Value → Bool
  | .int n => isShownInt n
  | .list items => areShown items
  | .pair first second => isShown first && isShown second
  | .set items => areShown items
  | .map entries => entriesAreShown entries
  | .null => true
  | .bool _ => true
  | .float _ => true
  | .text _ => true
  | .bytes _ => true
  | .day _ => true
  | .moment _ => true
  | .listAgain => true
  | .mapAgain => true

def areShown : List Value → Bool
  | [] => true
  | item :: rest => isShown item && areShown rest

def entriesAreShown : List (Value × Value) → Bool
  | [] => true
  | (key, item) :: rest => isShown key && isShown item && entriesAreShown rest

end

/-- The value as it stands inside a sentence: a text as it is, and anything else
as messages show it. -/
def inSentence : Value → String
  | .text s => s
  | value => value.display

end SurveyForm.Value
