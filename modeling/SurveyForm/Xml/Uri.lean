import SurveyForm.Text.CharacterReference
/-!
The form of a URI reference.  It starts with a scheme, or else it is relative, and its
first segment holds no colon then; an authority or a path, a query and a fragment
follow.  Each function here takes one part off the front of a text.
-/

namespace SurveyForm.Xml.Uri

def isLetter (c : Char) : Bool :=
  ('a' ≤ c && c ≤ 'z') || ('A' ≤ c && c ≤ 'Z')

/-- Characters of a host name. -/
def isHostChar (c : Char) : Bool :=
  isLetter c || c.isDigit || "-._~!$&'()*+,;=".toList.contains c

def isSegmentChar (c : Char) : Bool :=
  isHostChar c || c = ':' || c = '@'

def isPathChar (c : Char) : Bool :=
  isSegmentChar c || c = '/'

def isQueryChar (c : Char) : Bool :=
  isPathChar c || c = '?'

def isFragmentChar (c : Char) : Bool :=
  isQueryChar c || c = '[' || c = ']'

/-- What follows a run of one class of characters.  Any character may be encoded by a
percent sign and two digits in base sixteen. -/
def afterRun (belongs : Char → Bool) : List Char → List Char
  | '%' :: a :: b :: rest =>
      if Text.isHexDigit a && Text.isHexDigit b then afterRun belongs rest
      else '%' :: a :: b :: rest
  | c :: rest => if belongs c then afterRun belongs rest else c :: rest
  | [] => []

/-- What follows the name of a user, if there is one. -/
def afterUser (text : List Char) : List Char :=
  match afterRun (fun c => isHostChar c || c = ':') text with
  | '@' :: rest => rest
  | _ => text

/-- What follows a host.  An address in brackets is taken as it is. -/
def afterHost? : List Char → Option (List Char)
  | '[' :: rest =>
      match rest.dropWhile (· ≠ ']') with
      | _ :: after => some after
      | [] => none
  | text => some (afterRun isHostChar text)

/-- The greatest number of a port. -/
def portLimit : Nat :=
  2147483647

def afterPort? : List Char → Option (List Char)
  | ':' :: rest =>
      let digits := rest.takeWhile Char.isDigit
      if digits ≠ [] ∧ Text.ofDecimalDigits digits ≤ portLimit then
        some (rest.dropWhile Char.isDigit)
      else none
  | text => some text

def afterAuthority? (text : List Char) : Option (List Char) :=
  (afterHost? (afterUser text)).bind afterPort?

/-- What follows an authority and a path, or a path alone. -/
def afterHierarchy? : List Char → Option (List Char)
  | '/' :: '/' :: rest =>
      (afterAuthority? rest).map fun after =>
        if after.head? = some '/' then afterRun isPathChar after else after
  | text => some (afterRun isPathChar text)

def afterQuery : List Char → List Char
  | '?' :: rest => afterRun isQueryChar rest
  | text => text

def afterFragment : List Char → List Char
  | '#' :: rest => afterRun isFragmentChar rest
  | text => text

/-- Whether a text is what may follow a scheme. -/
def isHierarchical (text : List Char) : Bool :=
  (afterHierarchy? text).any fun after => (afterFragment (afterQuery after)).isEmpty

/-- Whether a text is a reference that starts with a scheme. -/
def isAbsolute (text : List Char) : Bool :=
  let afterScheme := text.dropWhile fun c => isLetter c || c.isDigit || "+-.".toList.contains c
  text.head?.any isLetter && afterScheme.head? = some ':' && isHierarchical afterScheme.tail

/-- Whether a text is a reference without a scheme. -/
def isRelative (text : List Char) : Bool :=
  isHierarchical text &&
    (afterRun (fun c => isSegmentChar c && c ≠ ':') text).head? ≠ some ':'

end SurveyForm.Xml.Uri
