import SurveyForm.Xml.QName
/-!
The rule that a document type gives for an attribute: the kind of value it takes and
the value that it has when it is left out.
-/

namespace SurveyForm.Xml

/-- The kinds of values.  A notation, an entity or a reference to an element is a
name, and a choice from a list counts as tokens. -/
inductive AttributeKind where
  | text
  | id
  | name
  | names
  | token
  | tokens
deriving DecidableEq, Repr

namespace AttributeKind

def isName : List Char → Bool
  | [] => false
  | first :: rest => isNameStart first && rest.all isNameChar

def isToken (word : List Char) : Bool :=
  !word.isEmpty && word.all isNameChar

/-- The words of a text between runs of blanks. -/
def words (text : List Char) : List (List Char) :=
  (text.splitOn ' ').filter (!·.isEmpty)

/-- Whether a text is a list of words, the first of which has nothing in front. -/
def isList (isWord : List Char → Bool) (text : List Char) : Bool :=
  !(words text).isEmpty && text.head? ≠ some ' ' && (words text).all isWord

/-- Whether a value is one of the kind. -/
def admits (kind : AttributeKind) (value : String) : Bool :=
  match kind with
  | .text => true
  | .id | .name => isName value.toList
  | .names => isList isName value.toList
  | .token => isToken value.toList
  | .tokens => isList isToken (value.toList.dropWhile isSpace)

/-- The value with the blanks that its kind leaves out: those at its ends, and of a
run of blanks all but one. -/
def normalize (kind : AttributeKind) (value : String) : String :=
  if kind = .text then value
  else String.ofList ([' '].intercalate (words value.toList))

end AttributeKind

/-- The rule for an attribute of an element, both by the names that the document
type writes. -/
structure AttributeRule where
  element : String
  name : String
  kind : AttributeKind
  standard : Option String
deriving DecidableEq, Repr

namespace AttributeRule

/-- The value that is found when the attribute is asked for and left out.  One that
is not of the right kind does not count. -/
def fallback? (rule : AttributeRule) : Option String :=
  rule.standard.filter rule.kind.admits

def qname (rule : AttributeRule) : QName :=
  QName.ofSpelling rule.name

end AttributeRule

end SurveyForm.Xml
