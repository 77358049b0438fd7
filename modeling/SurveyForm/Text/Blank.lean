/-!
Blank characters: the Unicode white space together with the four information
separators U+001C to U+001F.  Texts are trimmed of these at both ends, and the
tokens of a condition are separated by them.
-/

namespace SurveyForm.Text

/-- The blank characters, as inclusive ranges of code points. -/
def blankRanges : List (Nat × Nat) :=
  [(0x09, 0x0d), (0x1c, 0x20), (0x85, 0x85), (0xa0, 0xa0), (0x1680, 0x1680),
    (0x2000, 0x200a), (0x2028, 0x2029), (0x202f, 0x202f), (0x205f, 0x205f),
    (0x3000, 0x3000)]

def isBlank (c : Char) : Bool :=
  blankRanges.any fun range => range.1 ≤ c.toNat && c.toNat ≤ range.2

/-- Drops every element at the end of a list on which the predicate holds. -/
def dropTrailing {α : Type} (drop : α → Bool) (items : List α) : List α :=
  (items.reverse.dropWhile drop).reverse

/-- Drops the elements at both ends of a list on which the predicate holds. -/
def trimList {α : Type} (drop : α → Bool) (items : List α) : List α :=
  dropTrailing drop (items.dropWhile drop)

/-- The text without the blanks at its ends. -/
def trim (text : List Char) : List Char :=
  trimList isBlank text

def trimString (text : String) : String :=
  String.ofList (trim text.toList)

theorem length_dropTrailing_le {α : Type} (drop : α → Bool) (items : List α) :
    (dropTrailing drop items).length ≤ items.length := by
  simpa [dropTrailing] using
    (List.dropWhile_suffix drop (l := items.reverse)).length_le

theorem length_trimList_le {α : Type} (drop : α → Bool) (items : List α) :
    (trimList drop items).length ≤ items.length :=
  Nat.le_trans (length_dropTrailing_le drop _)
    (List.dropWhile_suffix drop).length_le

end SurveyForm.Text
