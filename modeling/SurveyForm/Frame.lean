import SurveyForm.Head
import SurveyForm.Xml.Document
/-!
The frame of a form: an XHTML document in UTF-8 that binds the namespaces every
form uses and has one head and one body.
-/

namespace SurveyForm

/-- The bindings that the root of a form has to have, in the order in which they
are checked. -/
def requiredBindings : List Xml.NamespaceBinding :=
  [⟨"", "http://www.w3.org/2002/xforms"⟩, ⟨"h", xhtmlUri⟩,
    ⟨"ev", "http://www.w3.org/2001/xml-events"⟩,
    ⟨"xsd", "http://www.w3.org/2001/XMLSchema"⟩, ⟨"jr", javarosaUri⟩]

/-- The two parts of a form's document. -/
structure Frame where
  head : Xml.Element
  body : Xml.Element

namespace Frame

/-- The only child of a name in the document's namespace. -/
def part (root : Xml.Element) (name : String) : Except FrameError Xml.Element :=
  match root.elements.filter fun child => child.name = name && child.tag.uri = some xhtmlUri with
  | [child] => .ok child
  | found => .error (.partCount name found.length)

/-- The prefix of the first required binding that the root does not have. -/
def missingPrefix? (root : Xml.Element) : Option String :=
  (requiredBindings.find? fun binding =>
    root.binding? binding.prefixName ≠ some binding.uri).map (·.prefixName)

/-- What is wrong with the frame of a tree, or else its parts. -/
def check (root : Xml.Element) : Except FrameError Frame := do
  if root.name ≠ "html" then throw (.rootName root.name)
  if root.tag.uri ≠ some xhtmlUri then throw .rootNamespace
  if let some prefixName := missingPrefix? root then throw (.missingNamespace prefixName)
  return ⟨← part root "head", ← part root "body"⟩

/-- The frame of a tree, if it has one.  The name of the root is asked for first. -/
def ofRoot (root : Xml.Element) : Except LoadError Frame :=
  if root.hasPlainName then (check root).mapError .frame else .error .brokenOff

def isMargin (byte : UInt8) : Bool :=
  byte = 0x20 || (0x09 ≤ byte && byte ≤ 0x0d)

/-- The bytes without the spaces and line ends at their ends. -/
def trimBytes (bytes : ByteArray) : ByteArray :=
  ⟨(Text.trimList isMargin bytes.toList).toArray⟩

/-- The tree of a document that is well formed and in the right encoding and
version. -/
def rootOf (bytes : ByteArray) : Except FrameError Xml.Element :=
  match Xml.Document.read? (trimBytes bytes) with
  | none => .error .notWellFormed
  | some document =>
      if (document.encoding.getD "UTF-8").toUpper ≠ "UTF-8" then .error .encoding
      else if document.version.getD "1.0" ≠ "1.0" then .error .version
      else .ok document.root

end Frame

end SurveyForm
