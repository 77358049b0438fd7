/-!
Days and moments, as documents of dynamic values can hold them.
-/

namespace SurveyForm

structure Day where
  year : Nat
  month : Nat
  day : Nat
deriving DecidableEq, Repr

/-- A day with a time; the offset from universal time is in minutes. -/
structure Moment where
  day : Day
  hour : Nat
  minute : Nat
  second : Nat
  microsecond : Nat
  offset : Option Int
deriving DecidableEq, Repr

def isLeapYear (year : Nat) : Bool :=
  year % 4 = 0 && (year % 100 ≠ 0 || year % 400 = 0)

def daysInMonth (year month : Nat) : Nat :=
  if month = 2 then if isLeapYear year then 29 else 28
  else if month = 4 ∨ month = 6 ∨ month = 9 ∨ month = 11 then 30
  else 31

/-- Whether a day exists. -/
def Day.isValid (d : Day) : Bool :=
  1 ≤ d.year && 1 ≤ d.month && d.month ≤ 12 && 1 ≤ d.day &&
    d.day ≤ daysInMonth d.year d.month

/-- Whether a moment exists; offsets stay below one day. -/
def Moment.isValid (m : Moment) : Bool :=
  m.day.isValid && m.hour < 24 && m.minute < 60 && m.second < 60 &&
    m.offset.all fun minutes => minutes.natAbs < 1440

/-- The days of a year that come before a month. -/
def daysBeforeMonth (year month : Nat) : Nat :=
  (List.range (month - 1)).foldl (fun days earlier => days + daysInMonth year (earlier + 1)) 0

/-- The number of a day, counted from the first day of the first year. -/
def Day.ordinal (d : Day) : Nat :=
  let years := d.year - 1
  years * 365 + years / 4 - years / 100 + years / 400 + daysBeforeMonth d.year d.month + d.day

/-- The microseconds that a moment lies after the start of its own count of days. -/
def Moment.localTime (m : Moment) : Int :=
  (((m.day.ordinal * 24 + m.hour) * 60 + m.minute) * 60 + m.second) * 1000000 + m.microsecond

/-- The same for moments of all offsets: the time at offset zero. -/
def Moment.universalTime (m : Moment) : Int :=
  m.localTime - m.offset.getD 0 * 60000000

/-- Whether two moments can be put in order: both have an offset or neither has. -/
def Moment.isComparable (m n : Moment) : Bool :=
  m.offset.isSome = n.offset.isSome

end SurveyForm
