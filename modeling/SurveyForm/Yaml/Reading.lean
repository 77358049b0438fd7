import SurveyForm.Yaml.ReadError
/-!
How far the reading of a YAML text has got, and the steps that look at the text and
go on in it.  A text is taken in by stretches; a character that may not stand in it
shows when something in its stretch is wanted, and nothing in front of that stretch
is affected.
-/

namespace SurveyForm.Yaml

inductive Token where
  | versionDirective (major : Nat)
  | tagDirective (handle tagStart : String)
  | otherDirective
  | documentStart
  | documentEnd
  | streamEnd
  | blockListStart
  | blockMapStart
  | blockEnd
  | flowListStart
  | flowListEnd
  | flowMapStart
  | flowMapEnd
  | blockEntry
  | flowEntry
  | key
  | value
  | reference (name : String)
  | anchor (name : String)
  | tag (handle : Option String) (suffix : String)
  | scalar (text : String) (plain : Bool)
deriving DecidableEq, Repr

/-- A place where a key may have started: the number of the token there, and
whether there has to be a key. -/
structure PossibleKey where
  token : Nat
  required : Bool
  index : Nat
  line : Nat
  column : Nat
deriving DecidableEq, Repr

structure Reading where
  rest : List Char
  /-- The number of characters of the whole text. -/
  size : Nat
  /-- Where the stretch with the first forbidden character starts, if there is one. -/
  limit : Option Nat := none
  index : Nat := 0
  line : Nat := 0
  column : Nat := 0
  /-- The tokens read so far, and how many of them have been taken. -/
  tokens : Array Token := #[]
  taken : Nat := 0
  /-- The number of brackets that are open. -/
  flow : Int := 0
  /-- The column of the innermost block, and those of the blocks around it. -/
  indent : Int := -1
  indents : List Int := []
  allowsKey : Bool := true
  /-- The possible keys, by the number of open brackets. -/
  keys : List (Int × PossibleKey) := []
  ended : Bool := false

/-- A step that reads on or fails. -/
abbrev Reader (α : Type) : Type :=
  StateT Reading (Except ReadError) α

/-- The text with every line break that is a carriage return, alone or in front of a
line feed, made a line feed. -/
def normalBreaks : List Char → List Char
  | '\r' :: '\n' :: rest => '\n' :: normalBreaks rest
  | '\r' :: rest => '\n' :: normalBreaks rest
  | c :: rest => c :: normalBreaks rest
  | [] => []

/-- Whether a character may stand in a text. -/
def isReadable (c : Char) : Bool :=
  c = '\t' || c = '\n' || c = '\r' || c = '\x85' || (' ' ≤ c && c ≤ '~') ||
    (0xa0 ≤ c.toNat && c.toNat ≤ 0xd7ff) || (0xe000 ≤ c.toNat && c.toNat ≤ 0xfffd) ||
    (0x10000 ≤ c.toNat && c.toNat ≤ 0x10ffff)

/-- Where the stretch of a character starts: the first one has 8192 characters, and
each further one 4096. -/
def stretchStart (index : Nat) : Nat :=
  if index < 8192 then 0 else index / 4096 * 4096

/-- The reading at the start of a text. -/
def Reading.ofText (text : String) : Reading :=
  let chars := normalBreaks text.toList
  { rest := chars
    size := chars.length
    limit := (chars.findIdx? (!isReadable ·)).map stretchStart }

/-- More steps than there are characters left. -/
def Reading.fuel (reading : Reading) : Nat :=
  reading.size - reading.index + 2

namespace Reader

def refuse {α : Type} : Reader α :=
  throw .token

def isBreak (c : Char) : Bool :=
  c = '\n' || c = '\x85' || c = '\u2028' || c = '\u2029'

def isGap (c : Char) : Bool :=
  c = ' ' || c = '\t'

/-- Makes sure that the text can be read up to some places ahead. -/
def want (ahead : Nat) : Reader Unit := do
  let reading ← get
  if reading.limit.any (· ≤ reading.index + ahead) then throw .character

/-- The character some places ahead, if there is one. -/
def peek (ahead : Nat) : Reader (Option Char) := do
  want ahead
  return (← get).rest[ahead]?

/-- Whether the text ends or breaks some places ahead. -/
def endsLine (ahead : Nat) : Reader Bool := do
  return (← peek ahead).all isBreak

/-- Whether the text ends or a blank comes some places ahead. -/
def endsWord (ahead : Nat) : Reader Bool := do
  return (← peek ahead).all fun c => isBreak c || isGap c

/-- Whether a space comes next, or the line ends. -/
def endsPart : Reader Bool := do
  return (← peek 0).all fun c => isBreak c || c = ' '

def startsWith (text : String) : Reader Bool := do
  want (text.length - 1)
  return text.toList.isPrefixOf (← get).rest

/-- A test that is made only if another one came out true. -/
def andAlso (first : Bool) (second : Reader Bool) : Reader Bool :=
  if first then second else return false

/-- The reading after one more character. -/
def past (reading : Reading) : Reading :=
  match reading.rest with
  | [] => reading
  | c :: rest =>
      if isBreak c then
        { reading with
          rest, index := reading.index + 1, line := reading.line + 1, column := 0 }
      else
        { reading with
          rest, index := reading.index + 1
          column := if c = '\ufeff' then reading.column else reading.column + 1 }

/-- Goes on by some characters, to one that can be read. -/
def skip (count : Nat) : Reader Unit := do
  want count
  modify fun reading => (List.range count).foldl (fun reading _ => past reading) reading

/-- Takes the longest run of one class of characters. -/
def run (belongs : Char → Bool) : Reader (List Char) := do
  let taken := (← get).rest.takeWhile belongs
  skip taken.length
  return taken

/-- Takes a line break, which counts as a line feed unless it separates lines or
paragraphs; nothing is taken if there is none. -/
def lineBreak : Reader (List Char) := do
  match ← peek 0 with
  | some c =>
      if !isBreak c then return []
      skip 1
      return if c = '\u2028' || c = '\u2029' then [c] else ['\n']
  | none => return []

def emit (token : Token) : Reader Unit :=
  modify fun reading => { reading with tokens := reading.tokens.push token }

def allowKey (allowed : Bool) : Reader Unit :=
  modify fun reading => { reading with allowsKey := allowed }

def inFlow : Reader Bool := do
  return (← get).flow ≠ 0

/-- Whether a separator of documents comes next. -/
def atSeparator : Reader Bool := do
  let dashes ← startsWith "---"
  let dots ← startsWith "..."
  andAlso (dashes || dots) (endsWord 3)

/-- The rest of a line that may hold nothing but a comment. -/
def emptyRest : Reader Unit := do
  let _ ← run (· = ' ')
  if (← peek 0) = some '#' then
    let _ ← run (!isBreak ·)
  if !(← endsLine 0) then refuse
  let _ ← lineBreak

end Reader

end SurveyForm.Yaml
