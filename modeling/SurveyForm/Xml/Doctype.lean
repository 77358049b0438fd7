import SurveyForm.Xml.Doctype.AttributeList
import SurveyForm.Xml.Doctype.ContentModel
import SurveyForm.Xml.Doctype.EntityDeclaration
import SurveyForm.Xml.Instruction
/-!
Document type declarations.  The declarations of entities and of attributes matter
later; those of elements and of notations are checked for their form, and that each
name is declared once.
-/

namespace SurveyForm.Xml.Doctype

open Reader

def elementDeclarationRest : Reader Unit := do
  Scan.someSpace
  let name ← Scan.name
  Scan.someSpace
  ContentModel.scan
  let _ ← Scan.spaces
  Scan.take ">"
  if (← get).elements.contains name then blame
  else modify fun progress => { progress with elements := name :: progress.elements }

def notationDeclarationRest : Reader Unit := do
  Scan.someSpace
  let name ← Scan.name
  if name.toList.contains ':' then blame
  Scan.someSpace
  Scan.notationPlace
  let _ ← Scan.spaces
  Scan.take ">"
  if (← get).notations.contains name then blame
  else modify fun progress => { progress with notations := name :: progress.notations }

/-- A declaration, a comment or an instruction. -/
def declaration : Reader Unit := do
  if ← Scan.takeIf "<!--" then Scan.commentRest
  else if ← Scan.takeIf "<?" then Instruction.rest
  else if ← Scan.takeIf "<!ENTITY" then EntityDeclaration.rest
  else if ← Scan.takeIf "<!ATTLIST" then AttributeList.declarationRest
  else if ← Scan.takeIf "<!ELEMENT" then elementDeclarationRest
  else
    Scan.take "<!NOTATION"
    notationDeclarationRest

/-- The rest of a reference to a parameter, whose content is read in its place.  With
such a reference not all declarations need to be there. -/
def parameterRest (readContent : Entity → Reader Unit) : Reader Unit := do
  let name ← Scan.name
  Scan.take ";"
  modify fun progress => { progress with incomplete := true }
  match ← entity? ⟨true, name⟩ with
  | none => tolerateUnknown
  | some entity =>
      match entity.content with
      | .internal _ =>
          readContent entity
          charge (← sizeOf entity.key)
      | _ => return

/-- Declarations and references to parameters, up to the end of the text or up to
something else. -/
def declarations (readContent : Entity → Reader Unit) : (fuel : Nat) → Reader Unit
  | 0 => refuse
  | fuel + 1 => do
      let _ ← Scan.spaces
      if ← Scan.ahead "<" then
        declaration
        declarations readContent fuel
      else if ← Scan.takeIf "%" then
        parameterRest readContent
        declarations readContent fuel

/-- The content of a parameter, which is made of whole declarations. -/
def parameterContent : (room : Nat) → Entity → Reader Unit
  | 0, _ => refuse
  | room + 1, entity => readingEntity entity do
      declarations (parameterContent room) (← enough)
      if !(← get).rest.isEmpty then refuse

/-- The rest of a document type declaration. -/
def rest : Reader Unit := do
  Scan.someSpace
  let _ ← Scan.name
  let _ ← Scan.spaces
  if (← Scan.externalPlace?).isSome then
    modify fun progress => { progress with incomplete := true }
  let _ ← Scan.spaces
  if ← Scan.takeIf "[" then
    modify fun progress => { progress with inDoctype := true }
    declarations (parameterContent (← get).room) (← enough)
    Scan.take "]"
    let _ ← Scan.spaces
    modify fun progress => { progress with inDoctype := false }
  Scan.take ">"

end SurveyForm.Xml.Doctype
