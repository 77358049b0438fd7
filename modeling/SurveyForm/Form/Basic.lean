import SurveyForm.Body
import SurveyForm.Frame
/-!
Forms.  A form is loaded from its document as a whole or not at all; what is
found on the way is kept with it, and so are the warnings given about that.
-/

namespace SurveyForm

structure Form extends Findings where
  basePath : String
  fields : FieldMap
  translations : TranslationTable
  controls : List Control
  title : String

namespace Form

/-- The form that the head and the body of a frame make up. -/
def ofFrame (options : Options) (frame : Frame) : Except LoadError Form := do
  let head ← (Definitions.load options {} frame.head).2
  let reader : BodyReader := ⟨head.basePath, head.fields, options⟩
  let controls ← reader.build frame.body
  return {
    head.toFindings.reportAll options.warnOnDiagnostics (reader.diagnostics frame.body) with
    basePath := head.basePath
    fields := head.fields
    translations := head.translations
    controls
    title := head.title }

/-- The form in a tree. -/
def ofTree (options : Options) (root : Xml.Element) : Except LoadError Form := do
  ofFrame options (← Frame.ofRoot root)

/-- The form in the bytes of a document. -/
def ofBytes (options : Options) (bytes : ByteArray) : Except LoadError Form := do
  ofTree options (← (Frame.rootOf bytes).mapError .frame)

def field? (form : Form) (path : String) : Option Field :=
  form.fields.get? path

/-- All controls and groups, in document order. -/
def allControls (form : Form) : List Control :=
  Control.traverse form.controls

/-- All questions, in document order. -/
def questions (form : Form) : List Question :=
  form.allControls.filterMap Control.question?

/-- The first question at a path; groups are never meant. -/
def question? (form : Form) (path : String) : Option Question :=
  form.questions.find? (·.heading.ref = some path)

def text (form : Form) (caption : Caption) (language : Option String) : String :=
  form.translations.text caption language

def diagnosticsOf (form : Form) (kind : DiagnosticKind) : List Diagnostic :=
  form.diagnostics.filter (·.kind = kind)

end Form

/-- A reader of forms that remembers how its last attempt ended. -/
structure Session where
  options : Options
  form : Option Form := none
  error : Option LoadError := none

namespace Session

/-- The session before a new attempt. -/
def cleared (session : Session) : Session :=
  { session with form := none, error := none }

/-- Loads the form in the given bytes and says whether that went well.  It does not
say so, and nothing is remembered, if the form breaks off. -/
def load (session : Session) (bytes : ByteArray) : Session × Option Bool :=
  match Form.ofBytes session.options bytes with
  | .ok form => ({ session.cleared with form := some form }, some true)
  | .error .brokenOff => (session.cleared, none)
  | .error cause => ({ session.cleared with error := some cause }, some false)

def title (session : Session) : String :=
  (session.form.map (·.title)).getD ""

def question? (session : Session) (path : String) : Option Question :=
  session.form.bind (·.question? path)

end Session

end SurveyForm
