import SurveyForm.Xml.Character
/-!
Names with a prefix.
-/

namespace SurveyForm.Xml

/-- A name; the prefix is empty if there is none. -/
structure QName where
  prefixName : String
  localName : String
deriving DecidableEq, Repr

namespace QName

def plain (name : String) : QName :=
  ⟨"", name⟩

def spelling (name : QName) : String :=
  if name.prefixName = "" then name.localName
  else name.prefixName ++ ":" ++ name.localName

/-- The name that is cut at its first colon, unless nothing stands on one side of it. -/
def ofSpelling (spelling : String) : QName :=
  match spelling.toList.span (· ≠ ':') with
  | (first :: before, _ :: after :: rest) =>
      ⟨String.ofList (first :: before), String.ofList (after :: rest)⟩
  | _ => plain spelling

/-- The prefix that an attribute of a name binds, if it binds one; the empty prefix is
the default. -/
def boundPrefix? (name : QName) : Option String :=
  if name = plain "xmlns" then some ""
  else if name.prefixName = "xmlns" then some name.localName
  else none

end QName

end SurveyForm.Xml
