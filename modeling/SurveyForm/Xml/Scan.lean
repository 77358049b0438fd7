import SurveyForm.Xml.Character
/-!
Reading a text from the front: a step takes what it recognizes and leaves the
rest, or refuses.
-/

namespace SurveyForm.Xml

abbrev Scan (α : Type) : Type :=
  StateT (List Char) Option α

namespace Scan

def refuse {α : Type} : Scan α :=
  fun _ => none

def rest : Scan (List Char) :=
  get

/-- Whether the rest starts with a text. -/
def ahead (text : String) : Scan Bool := do
  return text.toList.isPrefixOf (← get)

/-- Takes a text, which has to come next. -/
def take (text : String) : Scan Unit := do
  if ← ahead text then modify (·.drop text.length) else refuse

/-- Takes a text if it comes next, and says whether it did. -/
def takeIf (text : String) : Scan Bool := do
  if ← ahead text then
    modify (·.drop text.length)
    return true
  else return false

/-- Takes the longest run of one class of characters. -/
def run (belongs : Char → Bool) : Scan (List Char) := do
  let chars ← get
  set (chars.dropWhile belongs)
  return chars.takeWhile belongs

/-- Takes the spaces that come next, and says whether there were any. -/
def spaces : Scan Bool := do
  return !(← run isSpace).isEmpty

/-- Takes the spaces that have to come next. -/
def someSpace : Scan Unit := do
  if !(← spaces) then refuse

/-- The most bytes that a name, or the name of a place, may take. -/
def nameLimit : Nat :=
  50000

/-- The text of characters that are not too many for a name. -/
def named (chars : List Char) : Scan String := do
  let text := String.ofList chars
  if nameLimit < text.utf8ByteSize then refuse else return text

/-- Takes a run of name characters, if it starts like a name. -/
def nameOf? (belongs : Char → Bool) : Scan (Option String) := do
  match ← rest with
  | first :: _ =>
      if isNameStart first && belongs first then return some (← named (← run belongs))
      else return none
  | [] => return none

def name? : Scan (Option String) :=
  nameOf? isNameChar

/-- Takes a name. -/
def name : Scan String := do
  match ← name? with
  | some found => return found
  | none => refuse

/-- Takes a name without a colon, if one comes next. -/
def localName? : Scan (Option String) :=
  nameOf? fun c => isNameChar c && c ≠ ':'

/-- Takes a run of name characters, which may start with any of them. -/
def token : Scan String := do
  named (← run isNameChar)

/-- Splits a text at the first place where a mark stands. -/
def splitAtMark? (mark : List Char) (taken : List Char) :
    List Char → Option (List Char × List Char)
  | [] => none
  | c :: more =>
      if mark.isPrefixOf (c :: more) then
        some (taken.reverse, (c :: more).drop mark.length)
      else splitAtMark? mark (c :: taken) more

/-- Takes everything up to a mark, and the mark. -/
def upTo (mark : String) : Scan (List Char) := do
  match splitAtMark? mark.toList [] (← get) with
  | some (taken, after) =>
      set after
      return taken
  | none => refuse

/-- Takes a text between quotes of either kind. -/
def quoted : Scan (List Char) := do
  if ← takeIf "\"" then upTo "\""
  else
    take "'"
    upTo "'"

/-- Takes an equals sign with spaces around it. -/
def equals : Scan Unit := do
  let _ ← spaces
  take "="
  let _ ← spaces

/-- The rest of a comment: two hyphens may stand at its end only. -/
def commentRest : Scan Unit := do
  let _ ← upTo "--"
  take ">"

end Scan

end SurveyForm.Xml
