import SurveyForm.Bind
import SurveyForm.Instance
import SurveyForm.Text.Blank
import SurveyForm.Translation
/-!
The head of a form.  The walk over the instance makes the fields, the binds fill
them in, and the translations and the title are read beside them.  The model's
parts are looked for among its children only, so a field may be named like one.
-/

namespace SurveyForm

/-- The namespace of the document around a form. -/
def xhtmlUri : String :=
  "http://www.w3.org/1999/xhtml"

/-- All that the head of a form defines. -/
structure Head extends Findings where
  basePath : String
  fields : FieldMap
  translations : TranslationTable
  title : String

namespace Definitions

/-- The instance of a head: its model and the root of the instance. -/
def instanceRoot? (head : Xml.Element) : Except LoadError (Xml.Element × Xml.Element) :=
  match head.seek? "model" with
  | none => .error .brokenOff
  | some none => .error .noInstance
  | some (some model) =>
      match model.seek? "instance" with
      | none => .error .brokenOff
      | some none => .error .noInstance
      | some (some holder) =>
          match holder.elements with
          | [] => .error .emptyInstance
          | root :: _ => .ok (model, root)

/-- Records the visits to an instance up to where the walk stops.  The first one says what
the base path is. -/
def recordInstance (limit : Nat) (definitions : Definitions) (root : Xml.Element) :
    Definitions :=
  let visits := InstanceVisit.within limit (InstanceVisit.ofRoot root)
  { definitions with
    basePath := (visits.head?.map (·.path)).or definitions.basePath
    fields := visits.foldl InstanceVisit.record definitions.fields }

/-- The binds that are met in a model, up to the first child whose name cannot be asked
for. -/
def bindsMet (model : Xml.Element) : List Xml.Element :=
  (model.elements.takeWhile (·.hasPlainName)).filter (·.name = "bind")

def titleOf : Option Xml.Element → String
  | some title => Text.trimString (title.text?.getD "")
  | none => ""

/-- Reads what comes after the binds, the translations and the title.  Nothing is found
wrong with a title. -/
def loadTexts (options : Options) (definitions : Definitions) (head model : Xml.Element)
    (basePath : String) : Definitions × Except LoadError Head :=
  let itext := model.child? "itext"
  let complete := definitions.report options (TranslationTable.diagnosticsOf itext)
  (complete,
    match TranslationTable.read? options itext, head.seekIn? xhtmlUri "title" with
    | some translations, some title =>
        .ok { complete with basePath, translations, title := titleOf title }
    | _, _ => .error .brokenOff)

/-- Reads a head.  The definitions come out as far as they were made, whether or
not the head can be read to its end. -/
def load (options : Options) (definitions : Definitions) (head : Xml.Element) :
    Definitions × Except LoadError Head :=
  match instanceRoot? head with
  | .error cause => (definitions, .error cause)
  | .ok (model, root) =>
      let recorded := definitions.recordInstance options.maxDepth root
      match (InstanceVisit.ofRoot root).findSome? (InstanceVisit.stop? options.maxDepth) with
      | some cause => (recorded, .error cause)
      | none =>
          let (bound, ended) := recorded.applyBinds options (bindsMet model)
          -- All children of the model have been met then, so the translations are found.
          if ended && model.elements.all (·.hasPlainName) then
            bound.loadTexts options head model ("/" ++ root.name)
          else (bound, .error .brokenOff)

end Definitions

/-- A reader of one head, which cannot be used twice. -/
structure HeadReader where
  options : Options
  used : Bool := false
  definitions : Definitions := {}

namespace HeadReader

/-- Why a reader gives no head. -/
inductive Refusal where
  | alreadyUsed
  | failed (cause : LoadError)
deriving DecidableEq, Repr

def Refusal.message : Refusal → String
  | .alreadyUsed => "DefinitionLoader instances load a single document"
  | .failed cause => cause.message

/-- Reads a head, unless the reader is used up. -/
def load (reader : HeadReader) (head : Xml.Element) : HeadReader × Except Refusal Head :=
  if reader.used then (reader, .error .alreadyUsed)
  else
    let (definitions, result) := reader.definitions.load reader.options head
    ({ reader with used := true, definitions }, result.mapError .failed)

def applyBind (reader : HeadReader) (bind : Xml.Element) : HeadReader × BindOutcome :=
  let (definitions, outcome) := reader.definitions.applyBind reader.options bind
  ({ reader with definitions }, outcome)

end HeadReader

end SurveyForm
