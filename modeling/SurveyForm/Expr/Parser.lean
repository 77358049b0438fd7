import SurveyForm.Expr.Basic
import SurveyForm.Expr.Nesting
import SurveyForm.Path
import SurveyForm.Text.CharacterReference
/-!
Reading a condition.  A text is tried as a call that produces a value, as a
conditional, as a match and as a comparison, in this order; what is none of
these is kept unparsed.  A group is a disjunction of conjunctions, cut at the
words `or` and `and`.
-/

namespace SurveyForm.Expr

open Token (call? source split isComma isWord unwrap atOperator?)

/-- The calls that produce a value. -/
def valueFunctions : List String :=
  ["concat", "uuid"]

/-- The calls that match a field against a value. -/
def matchFunction? : String → Option MatchOp
  | "selected" => some .selected
  | "regex" => some .regex
  | _ => none

/-- Takes off one quote at each end, where there is one.  The end of a text is what follows
its last character: it would also be before a final newline, but the sources of tokens,
which are all that is stripped here, end in no blank. -/
def stripQuotes (text : List Char) : List Char :=
  let text := match text with
    | first :: rest => if Token.isQuote first then rest else first :: rest
    | [] => []
  match text.getLast? with
  | some last => if Token.isQuote last then text.dropLast else text
  | none => text

/-- The text of one operand: what the tokens cover, without enclosing quotes. -/
def operand (tokens : List Token) : List Char :=
  stripQuotes (source tokens)

/-- A call of a value function; its arguments are read by `deeper`. -/
def valueCall? (deeper : List Char → Expr) (tokens : List Token) : Option Expr := do
  let (name, inner) ← call? tokens
  if name ∈ valueFunctions then
    some (.call name (if Token.trim inner = [] then []
      else (split isComma none inner).map fun part => deeper (operand part)))
  else none

/-- A disjunction of conjunctions whose members are read by `term`. -/
def groupOf (term : List Char → Expr) (text : List Char) : Expr :=
  let disjunct (tokens : List Token) : Term Expr :=
    match (split (isWord "and") none tokens).map fun part => term (operand part) with
    | [member] => .one member
    | members => .all members
  .group ((split (isWord "or") none (unwrap (Token.ofText text))).map disjunct)

/-- A conditional with three parts, none of them blank.  Commas after the second
belong to the last part. -/
def conditional? (deeper : List Char → Expr) (tokens : List Token) : Option Expr := do
  let (name, inner) ← call? tokens
  if name = "if" then
    match split isComma (some 2) inner with
    | [test, whenTrue, whenFalse] =>
        if source test = [] ∨ source whenTrue = [] ∨ source whenFalse = [] then none
        else some (.conditional (groupOf deeper (source test))
          (deeper (operand whenTrue)) (deeper (operand whenFalse)))
    | _ => none
  else none

/-- A match of a field against a value, neither of them blank.  Commas after the
first belong to the value. -/
def matching? (path : String) (tokens : List Token) : Option Expr := do
  let (name, inner) ← call? tokens
  let op ← matchFunction? name
  match split isComma (some 1) inner with
  | [field, value] =>
      if source field = [] ∨ source value = [] then none
      else some (.matching op (Path.resolve (String.ofList (source field)) path)
        (String.ofList (operand value)))
  | _ => none

/-- The operand on the left of a comparison: the wrapping call's name, if there
is one with something inside, and the text of the reference. -/
def leftOperand (tokens : List Token) : Option String × List Char :=
  match call? tokens with
  | some (name, inner) =>
      if Token.trim inner = [] then (none, source tokens) else (some name, source inner)
  | none => (none, source tokens)

/-- A comparison at the first operator outside any parentheses. -/
def comparison? (path : String) (tokens : List Token) : Option Expr := do
  let (left, op, right) ← atOperator? 0 tokens
  if source left = [] ∨ source right = [] then none
  else
    let (wrapper, reference) := leftOperand left
    some (.comparison (String.ofList op.text)
      (Path.resolve (String.ofList reference) path)
      (String.ofList (operand right)) wrapper)

/-- Reads one condition at a field path.  Calls are read to the given number of
levels, and what lies deeper is kept unparsed. -/
def read (path : String) : Nat → List Char → Expr
  | 0, text => .unparsed (String.ofList text)
  | levels + 1, text =>
      let tokens := Token.ofText text
      let deeper := read path levels
      (valueCall? deeper tokens <|> conditional? deeper tokens <|>
        matching? path tokens <|> comparison? path tokens).getD
          (.unparsed (String.ofList text))

/-- The levels of calls that a depth limit allows: none below zero. -/
def levelsOf (maxDepth : Int) : Nat :=
  (maxDepth + 1).toNat

/-- The text that is read, if there is one: character references replaced, blanks
trimmed. -/
def plainText? (raw : String) : Option (List Char) :=
  (Text.unescape? raw.toList).map Text.trim

/-- Reads a single condition, such as a calculation.  There is none if a character
reference of the text cannot be read. -/
def parse? (raw path : String) (maxDepth : Int) : Option Expr :=
  (plainText? raw).map (read path (levelsOf maxDepth))

/-- Reads a disjunction of conjunctions, such as a relevance or a constraint. -/
def parseGroup? (raw path : String) (maxDepth : Int) : Option Expr :=
  (plainText? raw).map (groupOf (read path (levelsOf maxDepth)))

end SurveyForm.Expr
