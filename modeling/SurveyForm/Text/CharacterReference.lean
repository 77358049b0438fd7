import SurveyForm.Text.Blank
import SurveyForm.Text.CharacterName
/-!
Replacing character references in a text by what they stand for.  A reference
that stands for nothing known is kept as it was written, so a text without an
ampersand is left alone.  A text with a decimal number of too many digits in a
reference cannot be replaced at all.
-/

namespace SurveyForm.Text

/-- What the code points from U+0080 to U+009F stand for when a reference names
them by number: the characters of the Windows Western code page. -/
def westernCodePage : List Nat :=
  [0x20ac, 0x81, 0x201a, 0x192, 0x201e, 0x2026, 0x2020, 0x2021, 0x2c6, 0x2030,
    0x160, 0x2039, 0x152, 0x8d, 0x17d, 0x8f, 0x90, 0x2018, 0x2019, 0x201c,
    0x201d, 0x2022, 0x2013, 0x2014, 0x2dc, 0x2122, 0x161, 0x203a, 0x153, 0x9d,
    0x17e, 0x178]

/-- The code points that a reference may not name and that are left out. -/
def isLeftOut (point : Nat) : Bool :=
  (0x1 ≤ point && point ≤ 0x8) || point = 0xb || (0xe ≤ point && point ≤ 0x1f) ||
    point = 0x7f || (0xfdd0 ≤ point && point ≤ 0xfdef) ||
    (point % 0x10000 = 0xfffe) || (point % 0x10000 = 0xffff)

/-- What a reference by number stands for. -/
def ofCodePoint (point : Nat) : List Char :=
  if point = 0 then ['\uFFFD']
  else if 0x80 ≤ point ∧ point ≤ 0x9f then
    ((westernCodePage[point - 0x80]?).map Char.ofNat).toList
  else if 0xd800 ≤ point ∧ point ≤ 0xdfff ∨ 0x10ffff < point then ['\uFFFD']
  else if isLeftOut point then []
  else [Char.ofNat point]

def isHexDigit (c : Char) : Bool :=
  c.isDigit || ('a' ≤ c && c ≤ 'f') || ('A' ≤ c && c ≤ 'F')

/-- Whether a character may stand in the name of a reference. -/
def isNameChar (c : Char) : Bool :=
  !(c = '\t' || c = '\n' || c = '\x0c' || c = ' ' || c = '<' || c = '&' ||
    c = '#' || c = ';')

/-- One when a semicolon comes first, and zero otherwise. -/
def semicolonLength : List Char → Nat
  | ';' :: _ => 1
  | _ => 0

/-- A reference by number: what it stands for and how many characters it takes,
the `marker` ones before the digits included. -/
def numbered? (isDigit : Char → Bool) (value : List Char → Nat) (marker : Nat)
    (rest : List Char) : Option (List Char × Nat) :=
  let digits := rest.takeWhile isDigit
  if digits = [] then none
  else
    let after := rest.dropWhile isDigit
    some (ofCodePoint (value digits), marker + digits.length + semicolonLength after)

def ofDecimalDigits (digits : List Char) : Nat :=
  digits.foldl (fun value c => value * 10 + (c.toNat - 48)) 0

/-- The characters that a written form stands for. -/
def named? (form : List Char) : Option (List Char) :=
  (characterNames.find? (·.1 = form)).map (·.2)

/-- The longest proper part of at least two characters that is a form itself,
replaced. -/
def namedPart? (form : List Char) : Option (List Char) :=
  ((List.range (form.length - 2)).map (form.length - 1 - ·)).findSome? fun size =>
    (named? (form.take size)).map (· ++ form.drop size)

/-- A reference by name, and how many characters it takes.  An unknown name is
replaced by itself. -/
def byName? (rest : List Char) : Option (List Char × Nat) :=
  let name := (rest.takeWhile isNameChar).take 32
  if name = [] then none
  else
    let size := name.length + semicolonLength (rest.drop name.length)
    let form := rest.take size
    some (((named? form <|> namedPart? form).getD ('&' :: form)), size)

/-- The reference that follows an ampersand, and how many characters it takes. -/
def reference? : List Char → Option (List Char × Nat)
  | '#' :: 'x' :: rest => numbered? isHexDigit ofHexDigits 2 rest
  | '#' :: 'X' :: rest => numbered? isHexDigit ofHexDigits 2 rest
  | '#' :: rest => numbered? Char.isDigit ofDecimalDigits 1 rest
  | rest => byName? rest

/-- Replaces the character references of a text. -/
def unescape : List Char → List Char
  | [] => []
  | c :: rest =>
      if c = '&' then
        match reference? rest with
        | some (replacement, size) => replacement ++ unescape (rest.drop size)
        | none => c :: unescape rest
      else c :: unescape rest
termination_by text => text.length
decreasing_by
  all_goals simp only [List.length_cons, List.length_drop]; omega

/-- The most digits with which a decimal integer is read or written. -/
def digitLimit : Nat :=
  4300

/-- Whether every decimal number in a reference is short enough to be read. -/
def hasShortReferences : List Char → Bool
  | [] => true
  | c :: rest =>
      let isLong := match c, rest with
        | '&', '#' :: digits => digitLimit < (digits.takeWhile Char.isDigit).length
        | _, _ => false
      !isLong && hasShortReferences rest

/-- Replaces the character references of a text, if all of them can be read. -/
def unescape? (text : List Char) : Option (List Char) :=
  if hasShortReferences text then some (unescape text) else none

theorem unescape_nil : unescape [] = [] := by
  simp [unescape]

theorem unescape_cons {c : Char} (h : c ≠ '&') (rest : List Char) :
    unescape (c :: rest) = c :: unescape rest := by
  simp [unescape, h]

/-- Only an ampersand starts a reference. -/
theorem unescape_eq_self {text : List Char} (h : '&' ∉ text) :
    unescape text = text := by
  induction text with
  | nil => exact unescape_nil
  | cons c rest ih =>
      have hc : c ≠ '&' := fun hc => h (hc ▸ List.mem_cons_self)
      rw [unescape_cons hc, ih fun hmem => h (List.mem_cons_of_mem c hmem)]

/-- A text without an ampersand has no reference that is too long. -/
theorem hasShortReferences_of_not_mem {text : List Char} (h : '&' ∉ text) :
    hasShortReferences text = true := by
  induction text with
  | nil => rfl
  | cons c rest ih =>
      have hc : c ≠ '&' := fun hc => h (hc ▸ List.mem_cons_self)
      have hrest := ih fun hmem => h (List.mem_cons_of_mem c hmem)
      simp only [hasShortReferences, hrest, Bool.and_true]
      split
      · exact absurd rfl hc
      · rfl

end SurveyForm.Text
