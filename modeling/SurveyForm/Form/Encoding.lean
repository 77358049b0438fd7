import SurveyForm.Expr.Encoding
import SurveyForm.Form.Basic
/-!
Forms as data: nothing but maps with texts as keys, lists, texts, truth values
and null.
-/

namespace SurveyForm

def Condition.encode (condition : Condition) : Value :=
  .object [("condition", condition.expr.encode), ("message", .ofText? condition.message)]

def Condition.encode? : Option Condition → Value
  | some condition => condition.encode
  | none => .null

def Expr.encode? : Option Expr → Value
  | some expr => expr.encode
  | none => .null

def Caption.encode : Caption → Value
  | .missing => .null
  | .plain text => .text text
  | .reference target =>
      .object [("text", .ofText? target.inlineText), ("translation_id", .text target.id),
        ("form", .text target.form)]

/-- Attributes as data. -/
def encodeTexts (texts : Entries String) : Value :=
  .object (texts.map fun entry => (entry.1, .text entry.2))

def Field.encode (field : Field) : Value :=
  .object [("path", .text field.path), ("is_container", .bool field.isContainer),
    ("type", .ofText? field.type), ("default_value", .ofText? field.defaultValue),
    ("required", .ofBool? field.required), ("readonly", .ofBool? field.readonly),
    ("calculate", Expr.encode? field.calculate),
    ("constraint", Condition.encode? field.constraint),
    ("relevant", Condition.encode? field.relevant),
    ("attributes", encodeTexts field.attributes)]

def Heading.members (heading : Heading) (kind : String) : List (String × Value) :=
  [("type", .text kind), ("ref", .ofText? heading.ref),
    ("name", .text heading.elementName), ("label", heading.label.encode),
    ("hint", heading.hint.encode), ("appearance", .ofText? heading.appearance)]

def Choice.encode (choice : Choice) : Value :=
  .object [("label", choice.label.encode), ("value", choice.value.encode)]

def Selection.members (selection : Selection) : List (String × Value) :=
  [("multiple", .bool selection.multiple),
    ("options", .list (selection.choices.map Choice.encode))]

def Question.encode (question : Question) : Value :=
  .object (question.heading.members question.kind ++
    [("required", .bool question.isRequired),
      ("default_value", .ofText? question.bound.defaultValue),
      ("relevant", Condition.encode? question.bound.relevant)] ++
    (question.selection.map Selection.members).getD [])

mutual

def Control.encode : Control → Value
  | .question content => content.encode
  | .group heading repeats children =>
      .object (heading.members "group" ++
        [("is_repeat", .bool repeats), ("children", .list (Control.encodeAll children))])

def Control.encodeAll : List Control → List Value
  | [] => []
  | control :: rest => control.encode :: Control.encodeAll rest

end

def Diagnostic.encode (diagnostic : Diagnostic) : Value :=
  .object [("kind", .text diagnostic.kind.label), ("message", .text diagnostic.message),
    ("source", .ofText? diagnostic.source)]

def TranslationTable.encodeLanguages (table : TranslationTable) : Value :=
  .object (table.languages.map fun language => (language.1, encodeTexts language.2))

/-- The whole form as data. -/
def Form.encode (form : Form) : Value :=
  .object [("title", .text form.title), ("base_path", .text form.basePath),
    ("fields", .list (form.fields.map Field.encode)),
    ("translations", .object
      [("default_language", .ofText? form.translations.defaultLanguage),
        ("languages", form.translations.encodeLanguages)]),
    ("controls", .list (Control.encodeAll form.controls)),
    ("diagnostics", .list (form.diagnostics.map Diagnostic.encode))]

end SurveyForm
