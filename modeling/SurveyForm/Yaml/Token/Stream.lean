import SurveyForm.Yaml.Token.Mark
import SurveyForm.Yaml.Token.Scalar
/-!
The tokens of a text, read as they are wanted.  Indentation opens and closes blocks,
and a text turns out to be a key only when a colon follows it on the same line; the
tokens that say so are put in front of it then.  So a token that may still be a key is
not taken before what follows it has been read.
-/

namespace SurveyForm.Yaml.Reader

/-! ### Indentation and keys -/

/-- Closes the blocks that start after a column. -/
def unwindFrom (column : Int) : List Int → Int → Array Token → List Int × Int × Array Token
  | [], indent, tokens => ([], indent, tokens)
  | outer :: rest, indent, tokens =>
      if column < indent then unwindFrom column rest outer (tokens.push .blockEnd)
      else (outer :: rest, indent, tokens)

def unwind (column : Int) : Reader Unit := do
  if ← inFlow then return
  modify fun reading =>
    let (indents, indent, tokens) :=
      unwindFrom column reading.indents reading.indent reading.tokens
    { reading with indents, indent, tokens }

/-- Opens a block at a column, if the innermost one starts before it. -/
def openBlock (column : Nat) : Reader Bool := do
  let reading ← get
  if reading.indent < column then
    set { reading with indents := reading.indent :: reading.indents, indent := column }
    return true
  else return false

/-- Forgets the possible key among the brackets that are open now. -/
def dropKey : Reader Unit := do
  let reading ← get
  match reading.keys.lookup reading.flow with
  | none => return
  | some key =>
      if key.required then refuse
      set { reading with keys := reading.keys.filter (·.1 ≠ reading.flow) }

/-- Notes that a key may start here. -/
def noteKey : Reader Unit := do
  let reading ← get
  if reading.allowsKey then
    dropKey
    let key : PossibleKey :=
      { token := reading.tokens.size
        required := reading.flow = 0 && reading.indent = reading.column
        index := reading.index
        line := reading.line
        column := reading.column }
    modify fun now => { now with keys := (reading.flow, key) :: now.keys }

/-- Forgets the possible keys that are on another line or too long. -/
def dropStaleKeys : Reader Unit := do
  let reading ← get
  let isStale (key : PossibleKey) : Bool :=
    key.line ≠ reading.line || 1024 < reading.index - key.index
  if reading.keys.any fun entry => isStale entry.2 && entry.2.required then refuse
  set { reading with keys := reading.keys.filter fun entry => !isStale entry.2 }

def insertAt (tokens : Array Token) (place : Nat) (added : List Token) : Array Token :=
  tokens.extract 0 place ++ added.toArray ++ tokens.extract place tokens.size

/-! ### The next tokens -/

/-- Skips blanks, comments and line breaks.  After a break outside brackets a key
may start. -/
def toNextToken : (fuel : Nat) → Reader Unit
  | 0 => return
  | fuel + 1 => do
      let _ ← run (· = ' ')
      if (← peek 0) = some '#' then
        let _ ← run (!isBreak ·)
      if (← lineBreak).isEmpty then return
      if !(← inFlow) then allowKey true
      toNextToken fuel

/-- Ends all blocks and the possible key. -/
def endBlocks : Reader Unit := do
  unwind (-1)
  dropKey
  allowKey false

def documentMark (token : Token) : Reader Unit := do
  endBlocks
  skip 3
  emit token

def openFlow (token : Token) : Reader Unit := do
  noteKey
  modify fun reading => { reading with flow := reading.flow + 1 }
  allowKey true
  skip 1
  emit token

def closeFlow (token : Token) : Reader Unit := do
  dropKey
  modify fun reading => { reading with flow := reading.flow - 1 }
  allowKey false
  skip 1
  emit token

def flowEntry : Reader Unit := do
  allowKey true
  dropKey
  skip 1
  emit .flowEntry

def blockEntry : Reader Unit := do
  if !(← inFlow) then
    if !(← get).allowsKey then refuse
    if ← openBlock (← get).column then emit .blockListStart
  allowKey true
  dropKey
  skip 1
  emit .blockEntry

def keyMark : Reader Unit := do
  if !(← inFlow) then
    if !(← get).allowsKey then refuse
    if ← openBlock (← get).column then emit .blockMapStart
  allowKey (!(← inFlow))
  dropKey
  skip 1
  emit .key

def valueMark : Reader Unit := do
  let reading ← get
  match reading.keys.lookup reading.flow with
  | some key =>
      let opens ← if reading.flow = 0 then openBlock key.column else pure false
      let added := if opens then [Token.blockMapStart, .key] else [.key]
      modify fun now =>
        { now with
          keys := now.keys.filter (·.1 ≠ reading.flow)
          tokens := insertAt now.tokens key.token added
          allowsKey := false }
  | none =>
      if reading.flow = 0 then
        if !reading.allowsKey then refuse
        if ← openBlock reading.column then emit .blockMapStart
      allowKey (reading.flow = 0)
      dropKey
  skip 1
  emit .value

/-- A token that may be a key. -/
def keyToken (token : Reader Token) : Reader Unit := do
  noteKey
  allowKey false
  emit (← token)

def blockText (folds : Bool) : Reader Unit := do
  allowKey true
  dropKey
  emit (← blockScalar folds)

/-- Whether a plain text starts with a character. -/
def startsPlain (c : Char) : Reader Bool := do
  if !isBreak c && !("\t -?:,[]\x7b\x7d#&*!|>'\"%@\x60".toList.contains c) then return true
  else
    let inside ← inFlow
    return !(← endsWord 1) && (c = '-' || (!inside && (c = '?' || c = ':')))

def streamEnd : Reader Unit := do
  endBlocks
  modify fun reading => { reading with keys := [], ended := true }
  emit .streamEnd

/-- What a character that stands at the start of a line begins, if it is special
there. -/
def lineStart (c : Char) : Reader (Option (Reader Unit)) := do
  if c = '%' then return some do
    endBlocks
    emit (← directive)
  else if c = '-' then
    if ← andAlso (← startsWith "---") (endsWord 3) then
      return some (documentMark .documentStart)
    else return none
  else if c = '.' then
    if ← andAlso (← startsWith "...") (endsWord 3) then
      return some (documentMark .documentEnd)
    else return none
  else return none

/-- What a character begins when a blank or the end of the line follows it, or inside
brackets anything at all. -/
def indicator (c : Char) : Reader (Option (Reader Unit)) := do
  let flow ← inFlow
  if c = '-' then
    if ← endsWord 1 then return some blockEntry else return none
  else if c = '?' then
    if flow then return some keyMark
    else if ← endsWord 1 then return some keyMark
    else return none
  else if c = ':' then
    if flow then return some valueMark
    else if ← endsWord 1 then return some valueMark
    else return none
  else return none

/-- What a character begins by itself. -/
def bracketed (c : Char) (flow : Bool) : Option (Reader Unit) :=
  match c with
  | '[' => some (openFlow .flowListStart)
  | '\x7b' => some (openFlow .flowMapStart)
  | ']' => some (closeFlow .flowListEnd)
  | '\x7d' => some (closeFlow .flowMapEnd)
  | ',' => some flowEntry
  | '*' => some (keyToken (Token.reference <$> anchorName))
  | '&' => some (keyToken (Token.anchor <$> anchorName))
  | '!' => some (keyToken tag)
  | '|' => if flow then none else some (blockText false)
  | '>' => if flow then none else some (blockText true)
  | '\'' => some (keyToken (quotedScalar c))
  | '"' => some (keyToken (quotedScalar c))
  | _ => none

/-- Reads on by at least one token. -/
def step : Reader Unit := do
  if ← andAlso ((← get).index = 0) (return (← peek 0) = some '\ufeff') then skip 1
  toNextToken (← get).fuel
  dropStaleKeys
  unwind (← get).column
  match ← peek 0 with
  | none => streamEnd
  | some c =>
      let special ← if (← get).column = 0 then lineStart c else pure none
      match special, bracketed c (← inFlow) with
      | some found, _ => found
      | none, some found => found
      | none, none =>
          match ← indicator c with
          | some found => found
          | none => if ← startsPlain c then keyToken plainScalar else refuse

/-! ### Taking tokens -/

/-- Whether the next token cannot be told yet: it has not been read, or it may be a
key. -/
def isOpen : Reader Bool := do
  let reading ← get
  if reading.ended then return false
  else if reading.tokens.size ≤ reading.taken then return true
  else
    dropStaleKeys
    return (← get).keys.any (·.2.token = reading.taken)

/-- Reads on until the next token can be told. -/
def settle : (fuel : Nat) → Reader Unit
  | 0 => refuse
  | fuel + 1 => do
      if ← isOpen then
        step
        settle fuel

/-- The next token, left in place. -/
def nextToken : Reader Token := do
  settle (← get).fuel
  let reading ← get
  return reading.tokens[reading.taken]?.getD .streamEnd

end SurveyForm.Yaml.Reader
