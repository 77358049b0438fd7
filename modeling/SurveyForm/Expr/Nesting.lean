import SurveyForm.Expr.Token
/-!
Parentheses in a run of tokens: cutting it at separators outside any
parentheses, recognizing a call that spans it, and taking off parentheses that
enclose it.
-/

namespace SurveyForm.Token

/-- Cuts the tokens at separators that stand where as many parentheses have
been closed as opened, at most `limit` times.  The first part is returned apart,
since there always is one. -/
def cut (separates : Token → Bool) :
    Option Nat → Int → List Token → List Token × List (List Token)
  | _, _, [] => ([], [])
  | limit, depth, token :: rest =>
      let keep (parts : List Token × List (List Token)) := (token :: parts.1, parts.2)
      if token.kind = .opening then keep (cut separates limit (depth + 1) rest)
      else if token.kind = .closing then keep (cut separates limit (depth - 1) rest)
      else if depth = 0 ∧ limit ≠ some 0 ∧ separates token then
        let parts := cut separates (limit.map (· - 1)) depth rest
        ([], parts.1 :: parts.2)
      else keep (cut separates limit depth rest)

/-- The parts between top-level separators, of which `limit` are cut at most. -/
def split (separates : Token → Bool) (limit : Option Nat) (tokens : List Token) :
    List (List Token) :=
  let parts := cut separates limit 0 tokens
  parts.1 :: parts.2

/-- The tokens up to the parenthesis that closes a stretch in which `depth`
further ones are open, and the tokens after it. -/
def untilClose : Nat → List Token → Option (List Token × List Token)
  | _, [] => none
  | depth, token :: rest =>
      let keep := Option.map fun (parts : List Token × List Token) =>
        (token :: parts.1, parts.2)
      match token.kind, depth with
      | .opening, _ => keep (untilClose (depth + 1) rest)
      | .closing, 0 => some ([], rest)
      | .closing, depth + 1 => keep (untilClose depth rest)
      | _, _ => keep (untilClose depth rest)

/-- The name and the inner tokens of a call that spans all of the tokens. -/
def call? (tokens : List Token) : Option (String × List Token) :=
  match trim tokens with
  | name :: opening :: rest =>
      if name.kind = .word ∧ opening.kind = .opening then
        match untilClose 0 rest with
        | some (inner, []) => some (String.ofList name.text, inner)
        | _ => none
      else none
  | _ => none

/-- Whether a stretch that follows an opening parenthesis ends in a closing one
and does not close the opening one before that. -/
def endsEnclosure (rest : List Token) : Bool :=
  rest.getLast?.any (·.kind = .closing) &&
    match untilClose 0 rest with
    | some (_, _ :: _) => false
    | _ => true

/-- Takes off the pairs of parentheses around the tokens. -/
def unwrap (tokens : List Token) : List Token :=
  match _trimmed : trim tokens with
  | [] => []
  | first :: rest =>
      if first.kind = .opening ∧ endsEnclosure rest then unwrap rest.dropLast
      else first :: rest
termination_by tokens.length
decreasing_by
  have := Text.length_trimList_le isBlank tokens
  unfold trim at _trimmed
  rw [_trimmed] at this
  simp at this ⊢
  omega

/-- The first operator where as many parentheses have been closed as opened,
with the tokens before and after it. -/
def atOperator? : Int → List Token → Option (List Token × Token × List Token)
  | _, [] => none
  | depth, token :: rest =>
      let keep := Option.map fun (parts : List Token × Token × List Token) =>
        (token :: parts.1, parts.2)
      if token.kind = .opening then keep (atOperator? (depth + 1) rest)
      else if token.kind = .closing then keep (atOperator? (depth - 1) rest)
      else if token.kind = .operator ∧ depth = 0 then some ([], token, rest)
      else keep (atOperator? depth rest)

end SurveyForm.Token
