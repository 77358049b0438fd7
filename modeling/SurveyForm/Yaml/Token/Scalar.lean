import SurveyForm.Text.CharacterReference
import SurveyForm.Yaml.Reading
/-!
Texts in quotes, plain texts and blocks of text.
-/

namespace SurveyForm.Yaml.Reader

/-! ### Between the words of a text -/

/-- The breaks of empty lines, with the blanks around them left out.  There are none
where a separator of documents comes. -/
def emptyLines (blank : Char → Bool) : (fuel : Nat) → Reader (Option (List Char))
  | 0 => return some []
  | fuel + 1 => do
      if ← atSeparator then return none
      let _ ← run blank
      match ← lineBreak with
      | [] => return some []
      | found => return (← emptyLines blank fuel).map (found ++ ·)

/-- One line break counts as a space, and of several the first does not count. -/
def folded (first others : List Char) : List Char :=
  if first ≠ ['\n'] then first ++ others
  else if others.isEmpty then [' '] else others

/-! ### Texts in quotes -/

/-- The breaks of the empty lines after a line break in quotes. -/
def quotedLines : Reader (List Char) := do
  match ← emptyLines isGap (← get).fuel with
  | some others => return others
  | none => refuse

/-- The blanks and breaks between the words of a text in quotes. -/
def quotedGap : Reader (List Char) := do
  let blanks ← run isGap
  match ← lineBreak with
  | [] => if (← peek 0).isNone then refuse else return blanks
  | found => return folded found (← quotedLines)

def escapeChars : List (Char × Nat) :=
  [('0', 0), ('a', 7), ('b', 8), ('t', 9), ('\t', 9), ('n', 10), ('v', 11), ('f', 12),
    ('r', 13), ('e', 27), (' ', 32), ('"', 34), ('\\', 92), ('/', 47), ('N', 0x85),
    ('_', 0xa0), ('L', 0x2028), ('P', 0x2029)]

def escapeSizes : List (Char × Nat) :=
  [('x', 2), ('u', 4), ('U', 8)]

/-- The character of a number that was written in digits. -/
def characterOf (digits : List Char) : Reader Char :=
  let point := Text.ofHexDigits digits
  if Nat.pow 2 31 ≤ point then throw .overflow
  else if 0x10ffff < point then throw .range
  else return Char.ofNat point

/-- Takes hexadecimal digits, all of which have to be there. -/
def escapeDigits (count : Nat) : Reader (List Char) := do
  let digits := ((← get).rest.take count).takeWhile Text.isHexDigit
  if digits.length < count then
    want digits.length
    refuse
  want (count - 1)
  return digits

/-- What a backslash between double quotes stands for. -/
def escaped : Reader (List Char) := do
  skip 1
  match ← peek 0 with
  | none => refuse
  | some c =>
      match escapeChars.lookup c, escapeSizes.lookup c with
      | some point, _ =>
          skip 1
          return [Char.ofNat point]
      | none, some size =>
          skip 1
          let digits ← escapeDigits size
          let found ← characterOf digits
          skip size
          return [found]
      | none, none =>
          if !isBreak c then refuse
          let _ ← lineBreak
          quotedLines

/-- The text up to the closing quote. -/
def quotedRest (quote : Char) : (fuel : Nat) → Reader (List Char)
  | 0 => refuse
  | fuel + 1 => do
      match ← peek 0 with
      | none => quotedGap
      | some c =>
          if c = quote then
            if ← andAlso (quote = '\'') (return (← peek 1) = some '\'') then
              skip 2
              return '\'' :: (← quotedRest quote fuel)
            else
              skip 1
              return []
          else if c = '\\' && quote = '"' then
            let found ← escaped
            return found ++ (← quotedRest quote fuel)
          else if isGap c || isBreak c then
            let gap ← quotedGap
            return gap ++ (← quotedRest quote fuel)
          else
            skip 1
            return c :: (← quotedRest quote fuel)

def quotedScalar (quote : Char) : Reader Token := do
  skip 1
  return .scalar (String.ofList (← quotedRest quote (← get).fuel)) false

/-! ### Plain texts -/

/-- The number of characters of a plain text before its next end. -/
def plainLength (flow : Bool) : List Char → Nat
  | [] => 0
  | c :: rest =>
      let ends := match rest with
        | [] => true
        | d :: _ => isBreak d || isGap d || (flow && ",[]\x7b\x7d".toList.contains d)
      if isBreak c || isGap c || (c = ':' && ends) ||
          (flow && ",?[]\x7b\x7d".toList.contains c) then 0
      else plainLength flow rest + 1

/-- The characters of a plain text before its next end, left in place. -/
def plainWord : Reader (List Char) := do
  let rest := (← get).rest
  let length := plainLength (← inFlow) rest
  want (if rest[length]? = some ':' then length + 1 else length)
  return rest.take length

/-- The blanks and breaks between the words of a plain text, if it goes on. -/
def plainGap : Reader (List Char) := do
  let blanks ← run (· = ' ')
  match ← lineBreak with
  | [] => return blanks
  | found =>
      allowKey true
      match ← emptyLines (· = ' ') (← get).fuel with
      | some others => return folded found others
      | none => return []

/-- A plain text, which goes on as long as its lines are indented. -/
def plainRest (indent : Int) (gap : List Char) : (fuel : Nat) → Reader (List Char)
  | 0 => return []
  | fuel + 1 => do
      if (← peek 0) = some '#' then return []
      let word ← plainWord
      if word.isEmpty then return []
      allowKey false
      skip word.length
      let next ← plainGap
      let goesOn := !next.isEmpty && (← peek 0) ≠ some '#' &&
        ((← inFlow) || indent ≤ (← get).column)
      if goesOn then return gap ++ word ++ (← plainRest indent next fuel)
      else return gap ++ word

def plainScalar : Reader Token := do
  let reading ← get
  let text ← plainRest (reading.indent + 1) [] reading.fuel
  return .scalar (String.ofList text) true

/-! ### Blocks of text -/

/-- How the breaks at the end of a block of text count, where its header says so. -/
def blockChomp : Reader (Option Bool) := do
  let c ← peek 0
  if c = some '+' || c = some '-' then
    skip 1
    return some (c = some '+')
  else return none

/-- The indentation of a block of text, where its header says so. -/
def blockIncrement : Reader (Option Nat) := do
  match ← peek 0 with
  | some c =>
      if c = '0' then refuse
      else if c.isDigit then
        skip 1
        return some (c.toNat - 48)
      else return none
  | none => return none

/-- The two parts of the header of a block of text, in either order. -/
def blockHeader : Reader (Option Bool × Option Nat) := do
  let first ← blockChomp
  let size ← blockIncrement
  let last ← if first.isNone && size.isSome then blockChomp else pure first
  if !(← endsPart) then refuse
  emptyRest
  return (last, size)

/-- The breaks of the empty lines in front of a block of text, and the greatest
column that their spaces reach. -/
def blockStart (greatest : Nat) : (fuel : Nat) → Reader (List Char × Nat)
  | 0 => return ([], greatest)
  | fuel + 1 => do
      if (← peek 0) = some ' ' then
        skip 1
        blockStart (max greatest (← get).column) fuel
      else
        match ← lineBreak with
        | [] => return ([], greatest)
        | found =>
            let (others, greatest) ← blockStart greatest fuel
            return (found ++ others, greatest)

/-- Takes spaces up to a column. -/
def indentation (column : Nat) : Reader Unit := do
  let reading ← get
  let spaces := ((reading.rest.take (column - reading.column)).takeWhile (· = ' ')).length
  skip spaces

/-- The breaks of empty lines inside a block of text. -/
def blockBreaks (column : Nat) : (fuel : Nat) → Reader (List Char)
  | 0 => return []
  | fuel + 1 => do
      indentation column
      match ← lineBreak with
      | [] => return []
      | found => return found ++ (← blockBreaks column fuel)

/-- Whether a line of a block of text starts here. -/
def atBlockLine (column : Nat) : Reader Bool := do
  andAlso ((← get).column = column) (return (← peek 0).isSome)

/-- The lines of a block of text, with the last break and the breaks after it. -/
def blockLines (folds : Bool) (column : Nat) (breaks : List Char) :
    (fuel : Nat) → Reader (List Char × List Char × List Char)
  | 0 => return ([], [], breaks)
  | fuel + 1 => do
      if !(← atBlockLine column) then return ([], [], breaks)
      let starts := !(← peek 0).any isGap
      let line ← run (!isBreak ·)
      let last ← lineBreak
      let next ← blockBreaks column (← get).fuel
      if ← atBlockLine column then
        let joint :=
          if folds && last = ['\n'] && starts && !(← peek 0).any isGap then
            if next.isEmpty then [' '] else []
          else last
        let (others, ending, trailing) ← blockLines folds column next fuel
        return (breaks ++ line ++ joint ++ others, ending, trailing)
      else return (breaks ++ line, last, next)

def blockScalar (folds : Bool) : Reader Token := do
  let least := max ((← get).indent + 1).toNat 1
  skip 1
  let (chomp, size) ← blockHeader
  let fuel := (← get).fuel
  let (breaks, column) ← match size with
    | none => do
        let (breaks, greatest) ← blockStart 0 fuel
        pure (breaks, max least greatest)
    | some size => do
        let column := least + size - 1
        pure (← blockBreaks column fuel, column)
  let (text, last, trailing) ← blockLines folds column breaks fuel
  let ending := match chomp with
    | some true => last ++ trailing
    | some false => []
    | none => last
  return .scalar (String.ofList (text ++ ending)) false

end SurveyForm.Yaml.Reader
