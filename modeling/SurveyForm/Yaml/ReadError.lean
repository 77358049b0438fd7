/-!
Why a YAML text has no value.
-/

namespace SurveyForm.Yaml

inductive ReadError where
  /-- A character that may not stand in a text. -/
  | character
  /-- Characters that make up no token. -/
  | token
  /-- Tokens that make up no document. -/
  | grammar
  /-- An anchor that is missing or there twice, or a second document. -/
  | reference
  /-- A node whose tag does not allow it, or a key that can be none. -/
  | construction
  /-- A text that is no truth value. -/
  | truthValue
  /-- A number without anything to read. -/
  | noDigits
  /-- A text that is neither a day nor a moment. -/
  | timestamp
  /-- A map where a day or a moment is wanted. -/
  | timestampMap
  /-- A number, day, moment or character that there is not. -/
  | range
  /-- A number too large for its kind. -/
  | overflow
  /-- A map that has itself as its text. -/
  | endless
deriving DecidableEq, Repr

end SurveyForm.Yaml
