/-!
Field paths.  A path is written absolutely (`/data/age`) or relative to a base
path, and `resolve` gives the absolute form.  Only one leading step up is
understood; whatever follows it is kept as it was written.
-/

namespace SurveyForm.Path

/-- Everything before the last slash.  A text without a slash has no parent and
loses its last character instead. -/
def parent (base : List Char) : List Char :=
  if '/' ∈ base then (base.reverse.dropWhile (· != '/')).tail.reverse
  else base.dropLast

/-- The name below the base path, with a leading `./` taken off. -/
def sameLevelName : List Char → List Char
  | '.' :: '/' :: name => name
  | name => name

/-- A reference that stays at or below the base path. -/
def below (base raw : List Char) : List Char :=
  if sameLevelName raw = ['.'] then base else base ++ '/' :: sameLevelName raw

/-- Resolution on characters: absolute, one step up, or below the base. -/
def resolveChars (base : List Char) : List Char → List Char
  | '/' :: rest => '/' :: rest
  | '.' :: '.' :: '/' :: rest => parent base ++ '/' :: rest
  | raw => below base raw

/-- The absolute form of a reference written at the given base path. -/
def resolve (raw base : String) : String :=
  String.ofList (resolveChars base.toList raw.toList)

/-- The part of a path after its last slash. -/
def lastName (path : String) : String :=
  String.ofList (path.toList.reverse.takeWhile (· != '/')).reverse

/-- The path with every slash written as an underscore. -/
def flatName (path : String) : String :=
  String.ofList (path.toList.map fun c => if c = '/' then '_' else c)

theorem resolveChars_absolute (base rest : List Char) :
    resolveChars base ('/' :: rest) = '/' :: rest := rfl

theorem resolveChars_up (base rest : List Char) :
    resolveChars base ('.' :: '.' :: '/' :: rest) = parent base ++ '/' :: rest := rfl

theorem resolve_dot (base : String) : resolve "." base = base := by
  simp [resolve, resolveChars, below, sameLevelName]

end SurveyForm.Path
