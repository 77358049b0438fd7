import SurveyForm.Xml.Reference
/-!
Entities: what a document type declares them to stand for, and what is known of them
so far.  A parameter is an entity of the document type itself.
-/

namespace SurveyForm.Xml

inductive EntityContent where
  | internal (text : List Char)
  | external
  | unparsed
deriving DecidableEq, Repr

structure EntityKey where
  isParameter : Bool
  name : String
deriving DecidableEq, Repr

/-- An entity.  The size is what it amounts to when its references are replaced, as
far as that has been counted. -/
structure Entity where
  key : EntityKey
  content : EntityContent
  size : Nat := 0
  /-- Whether the content has been read as the content of an element. -/
  isRead : Bool := false
  /-- Whether the size is complete. -/
  isCounted : Bool := false
  /-- Whether the content may stand in an attribute. -/
  isValue : Bool := false
  /-- Whether the content is being replaced right now. -/
  isOpen : Bool := false
deriving DecidableEq, Repr

/-- The number of bytes that a text takes. -/
def byteCount (text : List Char) : Nat :=
  text.foldl (fun count c => count + c.utf8Size) 0

namespace Entity

def text (entity : Entity) : List Char :=
  match entity.content with
  | .internal text => text
  | _ => []

end Entity

end SurveyForm.Xml
