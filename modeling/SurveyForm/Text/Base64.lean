/-!
Bytes written with 64 characters, six bits each.  Characters that stand for nothing
are passed over, and padding ends the text where it completes a group of four.
-/

namespace SurveyForm.Text.Base64

/-- The six bits of a character. -/
def digit? (c : Char) : Option Nat :=
  if 'A' ≤ c ∧ c ≤ 'Z' then some (c.toNat - 65)
  else if 'a' ≤ c ∧ c ≤ 'z' then some (c.toNat - 71)
  else if '0' ≤ c ∧ c ≤ '9' then some (c.toNat + 4)
  else if c = '+' then some 62
  else if c = '/' then some 63
  else none

/-- The byte that a further character of a group completes, where `filled` of its four
places are taken and the bits of the last one are given. -/
def byte? (filled last next : Nat) : Option UInt8 :=
  match filled with
  | 1 => some (last * 4 + next / 16).toUInt8
  | 2 => some (last % 16 * 16 + next / 4).toUInt8
  | 3 => some (last % 4 * 64 + next).toUInt8
  | _ => none

/-- The bytes of a text, inside a group of which `filled` places are taken and `pads`
signs of padding have come since. -/
def decodeFrom (filled last pads : Nat) : List Char → Option (List UInt8)
  | [] => if filled = 0 then some [] else none
  | c :: rest =>
      if c = '=' then
        if 2 ≤ filled then
          if 4 ≤ filled + pads + 1 then some []
          else decodeFrom filled last (pads + 1) rest
        else decodeFrom filled last pads rest
      else match digit? c with
        | none => decodeFrom filled last pads rest
        | some next =>
            (decodeFrom ((filled + 1) % 4) next 0 rest).map
              ((byte? filled last next).toList ++ ·)

/-- The bytes that a text stands for, if its last group is complete. -/
def decode? (text : List Char) : Option (List UInt8) :=
  decodeFrom 0 0 0 text

end SurveyForm.Text.Base64
