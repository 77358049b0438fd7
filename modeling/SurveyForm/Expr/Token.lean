import SurveyForm.Text.Blank
/-!
Tokens of a condition.  Every character of a text ends up in exactly one token:
a closed quoted string, a parenthesis, a comma, an operator, a run of blanks or
a run of other characters.  A quote that is never closed and a lone exclamation
mark are one-character words.
-/

namespace SurveyForm

/-- What a token is to the grammar. -/
inductive TokenKind where
  | quoted
  | opening
  | closing
  | comma
  | operator
  | blank
  | word
deriving DecidableEq, Repr

structure Token where
  kind : TokenKind
  text : List Char
deriving DecidableEq, Repr

namespace Token

def isQuote (c : Char) : Bool :=
  c = '\'' || c = '"'

def isOperatorChar (c : Char) : Bool :=
  c = '<' || c = '=' || c = '>'

/-- The characters of which words are made. -/
def isWordChar (c : Char) : Bool :=
  !(Text.isBlank c || isQuote c || isOperatorChar c ||
    c = '(' || c = ')' || c = ',' || c = '!')

/-- The quoted string that starts with the given quote, if it is closed. -/
def quoted? (quote : Char) (rest : List Char) : Option (Token × List Char) :=
  match rest.dropWhile (· != quote) with
  | [] => none
  | close :: after =>
      some (⟨.quoted, quote :: rest.takeWhile (· != quote) ++ [close]⟩, after)

/-- The longest run of one class of characters, whose first one is given. -/
def run (kind : TokenKind) (belongs : Char → Bool) (first : Char)
    (rest : List Char) : Token × List Char :=
  (⟨kind, first :: rest.takeWhile belongs⟩, rest.dropWhile belongs)

/-- The first token of a text that starts with the given character. -/
def next (first : Char) (rest : List Char) : Token × List Char :=
  if isQuote first then
    (quoted? first rest).getD (⟨.word, [first]⟩, rest)
  else if first = '(' then (⟨.opening, [first]⟩, rest)
  else if first = ')' then (⟨.closing, [first]⟩, rest)
  else if first = ',' then (⟨.comma, [first]⟩, rest)
  else if first = '!' then
    match rest with
    | '=' :: after => (⟨.operator, ['!', '=']⟩, after)
    | _ => (⟨.word, [first]⟩, rest)
  else if isOperatorChar first then run .operator isOperatorChar first rest
  else if Text.isBlank first then run .blank Text.isBlank first rest
  else run .word isWordChar first rest

theorem length_dropWhile_le (belongs : Char → Bool) (rest : List Char) :
    (rest.dropWhile belongs).length ≤ rest.length :=
  (List.dropWhile_suffix belongs).length_le

/-- Reading a token leaves no more than what followed its first character. -/
theorem length_next_le (first : Char) (rest : List Char) :
    (next first rest).2.length ≤ rest.length := by
  unfold next
  split
  · unfold quoted?
    split
    · simp
    · rename_i close after h
      have := length_dropWhile_le (· != first) rest
      simp only [Option.getD_some]
      rw [h] at this
      simp at this
      omega
  · repeat' split
    all_goals first
      | exact Nat.le_refl _
      | exact length_dropWhile_le _ _
      | simp

/-- The tokens of a text, in order. -/
def ofText : List Char → List Token
  | [] => []
  | first :: rest => (next first rest).1 :: ofText (next first rest).2
termination_by text => text.length
decreasing_by
  have := length_next_le first rest
  simp only [List.length_cons]
  omega

def isBlank (token : Token) : Bool :=
  token.kind = .blank

def isComma (token : Token) : Bool :=
  token.kind = .comma

/-- Whether a token is exactly the given word. -/
def isWord (word : String) (token : Token) : Bool :=
  token.kind = .word && token.text = word.toList

/-- The tokens without the blank ones at the two ends. -/
def trim (tokens : List Token) : List Token :=
  Text.trimList isBlank tokens

/-- The text that a run of tokens covers, without the blanks around it. -/
def source (tokens : List Token) : List Char :=
  (trim tokens).flatMap Token.text

end Token

end SurveyForm
