import SurveyForm.Calendar
import SurveyForm.Text.CharacterReference
/-!
Plain scalars: what a text without quotes stands for.  Besides texts there are
null, truth values, integers in four notations, floats, days and moments; some
marks have a meaning of their own.  A line feed at the end does not count.
-/

namespace SurveyForm.Yaml

/-- The kind of value that a plain text stands for. -/
inductive ScalarKind where
  | null
  | bool
  | int
  | float
  | timestamp
  | merge
  | defaultValue
  | mark
  | text
deriving DecidableEq, Repr

namespace Scalar

def isSign (c : Char) : Bool :=
  c = '+' || c = '-'

/-- The text without a sign in front, and whether it had a negative one. -/
def unsigned : List Char → Bool × List Char
  | '-' :: rest => (true, rest)
  | '+' :: rest => (false, rest)
  | rest => (false, rest)

def isDigitOrLow (c : Char) : Bool :=
  c.isDigit || c = '_'

def some1 (belongs : Char → Bool) (text : List Char) : Bool :=
  !text.isEmpty && text.all belongs

def isOctalOrLow (c : Char) : Bool :=
  ('0' ≤ c && c ≤ '7') || c = '_'

/-- A part of a number to base sixty: one digit, or two of which the first is at
most five. -/
def isSixtieth : List Char → Bool
  | [a] => a.isDigit
  | [a, b] => '0' ≤ a && a ≤ '5' && b.isDigit
  | _ => false

/-- The parts of a text between colons. -/
def colonParts (text : List Char) : List (List Char) :=
  ((String.ofList text).splitOn ":").map String.toList

def startsWithNonzero (text : List Char) : Bool :=
  text.head?.any fun c => c.isDigit && c ≠ '0'

/-- Whether a text without sign is an integer to base sixty. -/
def isSexagesimal (text : List Char) : Bool :=
  match colonParts text with
  | first :: second :: others =>
      startsWithNonzero first && first.all isDigitOrLow && (second :: others).all isSixtieth
  | _ => false

def isInt (text : List Char) : Bool :=
  match (unsigned text).2 with
  | '0' :: 'b' :: digits => some1 (fun c => c = '0' || c = '1' || c = '_') digits
  | '0' :: 'x' :: digits => some1 (fun c => Text.isHexDigit c || c = '_') digits
  | ['0'] => true
  | '0' :: digits => some1 isOctalOrLow digits
  | digits => (startsWithNonzero digits && digits.all isDigitOrLow) || isSexagesimal digits

def isExponent : List Char → Bool
  | [] => true
  | e :: sign :: digits => (e = 'e' || e = 'E') && isSign sign && some1 Char.isDigit digits
  | _ => false

/-- Whether a text is an optional fraction with an optional exponent. -/
def isFractionAndExponent (text : List Char) : Bool :=
  isExponent (text.dropWhile isDigitOrLow)

/-- Whether a text without sign is a float to base sixty. -/
def isSexagesimalFloat (text : List Char) : Bool :=
  let whole := text.takeWhile (· ≠ '.')
  match text.dropWhile (· ≠ '.'), colonParts whole with
  | '.' :: fraction, first :: second :: others =>
      first.head?.any Char.isDigit && first.all isDigitOrLow &&
        (second :: others).all isSixtieth && fraction.all isDigitOrLow
  | _, _ => false

def isInfinity (text : List Char) : Bool :=
  [".inf", ".Inf", ".INF"].contains (String.ofList text)

def isNan (text : List Char) : Bool :=
  [".nan", ".NaN", ".NAN"].contains (String.ofList text)

def isFloat (text : List Char) : Bool :=
  let body := (unsigned text).2
  let decimal := body.head?.any Char.isDigit &&
    match body.dropWhile isDigitOrLow with
    | '.' :: rest => isFractionAndExponent rest
    | _ => false
  let fraction := match text with
    | '.' :: digit :: rest => digit.isDigit && isFractionAndExponent rest
    | _ => false
  decimal || fraction || isSexagesimalFloat body || isInfinity body || isNan text

/-- The first digits of a text, at least `least` and at most `most` of them, and
the rest. -/
def takeDigits? (least most : Nat) (text : List Char) : Option (Nat × List Char) :=
  let digits := (text.take most).takeWhile Char.isDigit
  if digits.length < least then none
  else some (Text.ofDecimalDigits digits, text.drop digits.length)

def takeChar? (c : Char) : List Char → Option (List Char)
  | [] => none
  | d :: rest => if c = d then some rest else none

def isTabOrSpace (c : Char) : Bool :=
  c = ' ' || c = '\t'

/-- The digits after the point of a second, as microseconds. -/
def microseconds (digits : List Char) : Nat :=
  Text.ofDecimalDigits ((digits ++ List.replicate 6 '0').take 6)

/-- An offset from universal time at the end of a text. -/
def offset? (text : List Char) : Option (Option Int) :=
  match text.dropWhile isTabOrSpace with
  | [] => if text.isEmpty then some none else none
  | ['Z'] => some (some 0)
  | sign :: rest =>
      if !isSign sign then none
      else do
        let (hours, rest) ← takeDigits? 1 2 rest
        let minutes ← match rest with
          | [] => some 0
          | ':' :: rest =>
              match takeDigits? 2 2 rest with
              | some (minutes, []) => some minutes
              | _ => none
          | _ => none
        let total : Int := hours * 60 + minutes
        return some (if sign = '-' then -total else total)

/-- A time after a day, with what separates the two. -/
def moment? (day : Day) (text : List Char) : Option Moment := do
  let rest ← match text with
    | 'T' :: rest => some rest
    | 't' :: rest => some rest
    | c :: rest => if isTabOrSpace c then some (rest.dropWhile isTabOrSpace) else none
    | [] => none
  let (hour, rest) ← takeDigits? 1 2 rest
  let (minute, rest) ← takeDigits? 2 2 (← takeChar? ':' rest)
  let (second, rest) ← takeDigits? 2 2 (← takeChar? ':' rest)
  let (microsecond, rest) := match rest with
    | '.' :: rest => (microseconds (rest.takeWhile Char.isDigit), rest.dropWhile Char.isDigit)
    | rest => (0, rest)
  let offset ← offset? rest
  return ⟨day, hour, minute, second, microsecond, offset⟩

/-- The text without a line feed at its end, unless it is nothing else. -/
def withoutBreak (text : List Char) : List Char :=
  if text.getLast? = some '\n' && text.length ≠ 1 then text.dropLast else text

/-- A day or a moment.  The month and the day of the month have one digit or two. -/
def timestamp? (text : List Char) : Option (Day ⊕ Moment) := do
  let (year, rest) ← takeDigits? 4 4 (withoutBreak text)
  let (month, rest) ← takeDigits? 1 2 (← takeChar? '-' rest)
  let (dayOfMonth, rest) ← takeDigits? 1 2 (← takeChar? '-' rest)
  let day : Day := ⟨year, month, dayOfMonth⟩
  if rest.isEmpty then return .inl day else return .inr (← moment? day rest)

/-- Whether a plain text is a day or a moment; in a day alone the month and the day of
the month have two digits. -/
def isTimestamp (text : List Char) : Bool :=
  match timestamp? text with
  | some (.inl _) => text.length = 10
  | some (.inr _) => true
  | none => false

def boolWords : List (String × Bool) :=
  [("yes", true), ("Yes", true), ("YES", true), ("no", false), ("No", false), ("NO", false),
    ("true", true), ("True", true), ("TRUE", true), ("false", false), ("False", false),
    ("FALSE", false), ("on", true), ("On", true), ("ON", true), ("off", false),
    ("Off", false), ("OFF", false)]

def nullWords : List String :=
  ["", "~", "null", "Null", "NULL"]

def markWords : List String :=
  ["!", "&", "*"]

/-- What a plain text stands for. -/
def kindOf (text : String) : ScalarKind :=
  let chars := withoutBreak text.toList
  let word := String.ofList chars
  if nullWords.contains word then .null
  else if (boolWords.lookup word).isSome then .bool
  else if word = "<<" then .merge
  else if word = "=" then .defaultValue
  else if markWords.contains word then .mark
  else if isInt chars then .int
  else if isFloat chars then .float
  else if isTimestamp chars then .timestamp
  else .text

end Scalar

end SurveyForm.Yaml
