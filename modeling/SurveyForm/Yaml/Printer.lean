import SurveyForm.Json
import SurveyForm.Yaml.Scalar.Kind
/-!
Values as YAML text: collections in blocks, the members of a map in the order of
their names, and lines broken after the eightieth column where a space allows it.
A text stands plain if it reads back as the same text, else between single quotes
if all of it can be printed, and else between double quotes.
-/

namespace SurveyForm.Yaml

/-- What was written so far: the text, the column after it, whether a space or a
break was written last, and whether the line holds nothing but indentation and
marks. -/
structure Layout where
  text : String := ""
  column : Nat := 0
  spaced : Bool := true
  fresh : Bool := true

namespace Layout

/-- The column after which lines are broken. -/
def width : Nat :=
  80

def write (layout : Layout) (chars : List Char) : Layout :=
  { layout with
    text := layout.text ++ String.ofList chars
    column := layout.column + chars.length }

def breakLine (layout : Layout) : Layout :=
  { text := layout.text.push '\n', column := 0, spaced := true, fresh := true }

/-- Goes to a column, on a new line unless the line is still fresh and short. -/
def indentTo (layout : Layout) (column : Nat) : Layout :=
  let layout :=
    if !layout.fresh || column < layout.column ||
        (layout.column = column && !layout.spaced) then layout.breakLine
    else layout
  if layout.column < column then
    { layout.write (List.replicate (column - layout.column) ' ') with spaced := true }
  else layout

/-- Writes a mark, after a space if one is needed and there is none. -/
def mark (layout : Layout) (chars : List Char) (needsSpace keepsFresh : Bool) : Layout :=
  let data := if layout.spaced || !needsSpace then chars else ' ' :: chars
  { layout.write data with spaced := false, fresh := layout.fresh && keepsFresh }

end Layout

/-- The ways to write a text. -/
inductive ScalarStyle where
  | plain
  | single
  | double
deriving DecidableEq, Repr

namespace ScalarStyle

def isBlankOrBreak (c : Char) : Bool :=
  c = ' ' || c = '\t' || c = '\r' || c = '\n' || c = '\x00'

/-- Whether nothing or a blank comes next. -/
def endsWord : List Char → Bool
  | [] => true
  | c :: _ => isBlankOrBreak c

/-- Whether the first character of a plain text would mean something else. -/
def startsWithMark : List Char → Bool
  | [] => false
  | c :: rest =>
      "#,[]\x7b\x7d&*!|>'\"%@\x60".toList.contains c ||
        ((c = '?' || c = ':' || c = '-') && endsWord rest)

/-- Whether a character inside a plain text would mean something else: a colon at
the end of a word, or a number sign at the start of one. -/
def holdsMark : List Char → Bool
  | [] => false
  | c :: rest =>
      (c = ':' && endsWord rest) || (isBlankOrBreak c && rest.head? = some '#') ||
        holdsMark rest

def isMarked (text : List Char) : Bool :=
  "---".toList.isPrefixOf text || "...".toList.isPrefixOf text ||
    startsWithMark text || holdsMark text

/-- Whether a character can stand between single quotes. -/
def isOrdinary (c : Char) : Bool :=
  c = '\n' || (' ' ≤ c && c ≤ '~')

/-- Whether two characters follow each other somewhere in a text. -/
def holdsPair (first second : Char) : List Char → Bool
  | a :: b :: rest => (a = first && b = second) || holdsPair first second (b :: rest)
  | _ => false

/-- The style of a text; a name cannot span lines. -/
def ofText (text : String) (isName : Bool) : ScalarStyle :=
  let chars := text.toList
  let lines := chars.contains '\n'
  let edges := chars.head? = some ' ' || chars.getLast? = some ' '
  let quotable := chars.all isOrdinary && !holdsPair '\n' ' ' chars && !holdsPair ' ' '\n' chars
  if quotable && !lines && !edges && !isMarked chars && Scalar.kindOf text = .text then .plain
  else if quotable && !(isName && lines) then .single
  else .double

end ScalarStyle

namespace Layout

/-- What a piece of a text consists of. -/
inductive PieceKind where
  | spaces
  | breaks
  | word
deriving DecidableEq

def PieceKind.of (c : Char) : PieceKind :=
  if c = ' ' then .spaces else if c = '\n' then .breaks else .word

/-- The longest runs of spaces, of line breaks and of other characters. -/
def pieces (text : List Char) : List (List Char) :=
  text.splitBy fun a b => PieceKind.of a = PieceKind.of b

/-- Whether a line can be broken at a piece. -/
def breaksAt (layout : Layout) (folds : Bool) (piece : List Char) : Bool :=
  piece = [' '] && width < layout.column && folds

def writePlain (layout : Layout) (text : List Char) (indent : Nat) (folds : Bool) : Layout :=
  let start := if layout.spaced then layout else layout.write [' ']
  (pieces text).foldl (fun layout piece =>
    if layout.breaksAt folds piece then
      { layout.indentTo indent with spaced := false, fresh := false }
    else layout.write piece) { start with spaced := false, fresh := false }

/-- Writes the breaks inside a text, each as a line of its own. -/
def writeBreaks (layout : Layout) (count indent : Nat) : Layout :=
  ((List.range (count + 1)).foldl (fun layout _ => layout.breakLine) layout).indentTo indent

def writeSinglePieces (indent : Nat) (folds : Bool) :
    (first : Bool) → List (List Char) → Layout → Layout
  | _, [], layout => layout
  | first, piece :: rest, layout =>
      let next :=
        if piece.head? = some '\n' then layout.writeBreaks piece.length indent
        else if layout.breaksAt folds piece && !first && !rest.isEmpty then
          layout.indentTo indent
        else layout.write (piece.flatMap fun c => if c = '\'' then ['\'', '\''] else [c])
      writeSinglePieces indent folds false rest next

def writeSingle (layout : Layout) (text : List Char) (indent : Nat) (folds : Bool) : Layout :=
  (writeSinglePieces indent folds true (pieces text) (layout.mark ['\''] true false)).mark
    ['\''] false false

/-- The letters that stand for characters after a backslash. -/
def escapeLetters : List (Nat × Char) :=
  [(0x0, '0'), (0x7, 'a'), (0x8, 'b'), (0x9, 't'), (0xa, 'n'), (0xb, 'v'), (0xc, 'f'),
    (0xd, 'r'), (0x1b, 'e'), (0x22, '"'), (0x5c, '\\'), (0x85, 'N'), (0xa0, '_'),
    (0x2028, 'L'), (0x2029, 'P')]

/-- A character as an escape between double quotes. -/
def escape (c : Char) : List Char :=
  let digits (width : Nat) : List Char := (Text.hexDigits width c.toNat).map Char.toUpper
  match escapeLetters.lookup c.toNat with
  | some letter => ['\\', letter]
  | none =>
      if c.toNat ≤ 0xff then '\\' :: 'x' :: digits 2
      else if c.toNat ≤ 0xffff then '\\' :: 'u' :: digits 4
      else '\\' :: 'U' :: digits 8

def needsEscape (c : Char) : Bool :=
  c = '"' || c = '\\' || !(' ' ≤ c && c ≤ '~')

/-- Breaks a line between double quotes; a space at the start of the new line is
marked. -/
def breakDouble (layout : Layout) (indent : Nat) (next : Option Char) : Layout :=
  let broken := { (layout.write ['\\']).indentTo indent with spaced := false, fresh := false }
  if next = some ' ' then broken.write ['\\'] else broken

/-- Writes a text between double quotes.  The characters in `pending` (the last
one first) are still to be written; lines are broken at spaces and after escapes,
but not next to the quotes. -/
def writeDoubleChars (indent : Nat) (folds : Bool) :
    (first : Bool) → (pending : List Char) → List Char → Layout → Layout
  | _, pending, [], layout => layout.write pending.reverse
  | first, pending, c :: rest, layout =>
      let inside := !first && !rest.isEmpty && folds
      if needsEscape c then
        let written := (layout.write pending.reverse).write (escape c)
        let next :=
          if inside && width < written.column - 1 then written.breakDouble indent rest.head?
          else written
        writeDoubleChars indent folds false [] rest next
      else if inside && (c = ' ' || pending.isEmpty) &&
          width < layout.column + pending.length then
        let next := (layout.write pending.reverse).breakDouble indent (some c)
        writeDoubleChars indent folds false [c] rest next
      else writeDoubleChars indent folds false (c :: pending) rest layout

def writeDouble (layout : Layout) (text : List Char) (indent : Nat) (folds : Bool) : Layout :=
  (writeDoubleChars indent folds true [] text (layout.mark ['"'] true false)).mark
    ['"'] false false

/-- Writes a text in a style; its further lines start at the given column. -/
def writeText (layout : Layout) (style : ScalarStyle) (text : String) (indent : Nat)
    (folds : Bool) : Layout :=
  match style with
  | .plain => layout.writePlain text.toList indent folds
  | .single => layout.writeSingle text.toList indent folds
  | .double => layout.writeDouble text.toList indent folds

/-- The characters that break lines, besides the carriage return. -/
def isLineBreak (c : Char) : Bool :=
  c = '\n' || c = '\x85' || c = '\u2028' || c = '\u2029'

/-- Whether a name fits in front of its colon on one line. -/
def isShortName (name : String) : Bool :=
  name ≠ "" && !name.toList.any isLineBreak && name.length + 5 < 128

/-- Writes the name of a member and the marks around it. -/
def writeName (layout : Layout) (name : String) (indent : Nat) : Layout :=
  let line := layout.indentTo indent
  if isShortName name then
    (line.writeText (.ofText name true) name (indent + 2) false).mark [':'] false false
  else
    let named := (line.mark ['?'] true true).writeText (.ofText name false) name
      (indent + 2) true
    (named.indentTo indent).mark [':'] true true

end Layout

/-- Writes members in the order of their names. -/
def writeMembers (indent : Nat) (members : List (String × (Layout → Layout)))
    (layout : Layout) : Layout :=
  (Json.sortMembers members).foldl
    (fun layout member => member.2 (layout.writeName member.1 indent)) layout

mutual

/-- Writes a value inside a collection that starts at the given column.  A list
that is the value of a member on the same line starts at its member's column.  Forms
are made of plain data only; any other value is written as messages show it. -/
def writeValue (indent : Nat) (inMap : Bool) : Value → Layout → Layout
  | .null, layout => layout.writePlain "null".toList (indent + 2) true
  | .bool true, layout => layout.writePlain "true".toList (indent + 2) true
  | .bool false, layout => layout.writePlain "false".toList (indent + 2) true
  | .int n, layout => layout.writePlain (toString n).toList (indent + 2) true
  | .float x, layout => layout.writePlain (Value.displayFloat x).toList (indent + 2) true
  | .text s, layout => layout.writeText (.ofText s false) s (indent + 2) true
  | .list [], layout => (layout.mark ['['] true false).mark [']'] false false
  | .list (item :: rest), layout =>
      let column := if inMap && !layout.fresh then indent else indent + 2
      writeItems column (item :: rest) layout
  | .map [], layout => (layout.mark ['\x7b'] true false).mark ['\x7d'] false false
  | .map (entry :: rest), layout =>
      writeMembers (indent + 2) (memberWriters (indent + 2) (entry :: rest)) layout
  | other, layout => layout.writePlain (Value.display other).toList (indent + 2) true

def writeItems (indent : Nat) : List Value → Layout → Layout
  | [], layout => layout
  | item :: rest, layout =>
      writeItems indent rest
        (writeValue indent false item ((layout.indentTo indent).mark ['-'] true true))

/-- The writers of the values of a map, by the names of the members. -/
def memberWriters (indent : Nat) : List (Value × Value) → List (String × (Layout → Layout))
  | [] => []
  | (key, item) :: rest =>
      (Json.memberName key, writeValue indent true item) :: memberWriters indent rest

end

/-- A value as a document of its own; a map starts at the first column. -/
def render (value : Value) : String :=
  let written : Layout := match value with
    | .map (entry :: rest) => writeMembers 0 (memberWriters 0 (entry :: rest)) {}
    | other => writeValue 0 false other {}
  (written.indentTo 0).text

end SurveyForm.Yaml
