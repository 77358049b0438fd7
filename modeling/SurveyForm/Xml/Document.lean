import SurveyForm.Xml.Content
import SurveyForm.Xml.Doctype
import SurveyForm.Xml.Encoding
/-!
Documents.  A document has one element at the top; a document type, comments and
instructions may stand in front of it, and comments and instructions behind it.
-/

namespace SurveyForm.Xml

/-- A document: the encoding and the version of XML that it says it has, and its
tree. -/
structure Document where
  encoding : Option String
  version : Option String
  root : Element

namespace Document

open Reader

/-- Takes spaces, comments and instructions. -/
def margin : (fuel : Nat) → Reader Unit
  | 0 => refuse
  | fuel + 1 => do
      let _ ← Scan.spaces
      if ← Scan.takeIf "<!--" then
        Scan.commentRest
        margin fuel
      else if ← Scan.takeIf "<?" then
        Instruction.rest
        margin fuel

def anyMargin : Reader Unit := do
  margin (← enough)

/-- The tree of a document, after its declaration. -/
def tree : Reader Element := do
  anyMargin
  if ← Scan.takeIf "<!DOCTYPE" then
    Doctype.rest
    anyMargin
  Scan.take "<"
  let root ← Content.elementRest
  anyMargin
  if (← get).rest.isEmpty then return root else refuse

/-- How many entities may be opened inside one another. -/
def entityDepthLimit : Nat :=
  19

/-- The document that characters make up.  Its declaration is read first; a version
that is not the first one is noted. -/
def ofChars? (signature : Signature) (chars : List Char) : Option Document := do
  if !chars.all isDocumentChar then none
  else
    let text := normalizeLines chars
    let (declaration, rest) ← Declaration.read? text
    let version := declaration.map (·.version)
    let start : Progress :=
      { rest
        size := byteCount text
        room := entityDepthLimit
        findings := if version.any (· ≠ "1.0") then Findings.withWarning {} else {}
        standalone := declaration.any (·.standalone) }
    let (root, progress) ← tree start
    if progress.findings.endsInError then none
    else return ⟨signature.encoding? (declaration.bind (·.encoding)), version, root⟩

/-- The document in the given bytes, if they are a well-formed one. -/
def read? (bytes : ByteArray) : Option Document := do
  let (signature, chars) ← decode? bytes
  ofChars? signature chars

end Document

end SurveyForm.Xml
