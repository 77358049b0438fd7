import SurveyForm.Diagnostic
import SurveyForm.Expr.Parser
import SurveyForm.Field
import SurveyForm.Options
import SurveyForm.Xml.Node
/-!
Binds.  Each attribute of a bind is a setting of the field that the bind names:
one of the properties that every field has, or an attribute kept as it is.
-/

namespace SurveyForm

/-- The namespace of the attributes that the survey platform adds. -/
def javarosaUri : String :=
  "http://openrosa.org/javarosa"

/-- What one attribute of a bind sets. -/
inductive Setting where
  | required (value : Bool)
  | readonly (value : Bool)
  | calculate (expr : Expr)
  | constraint (condition : Condition)
  | relevant (condition : Condition)
  | type (name : String)
  | attribute (name value : String)

namespace Setting

/-- A truth value, which is written as a call. -/
def isTrue (raw : String) : Bool :=
  raw = "true()"

/-- The setting that an attribute of the given name and value makes at a field, if
its expression can be read. -/
def ofNamed? (options : Options) (path : String) (message : Option String)
    (name raw : String) : Option Setting :=
  let limit : Int := options.maxExpressionDepth
  match name with
  | "required" => some (.required (isTrue raw))
  | "readonly" => some (.readonly (isTrue raw))
  | "calculate" => (Expr.parse? raw path limit).map .calculate
  | "constraint" =>
      (Expr.parseGroup? raw path limit).map fun expr => .constraint ⟨expr, message⟩
  | "relevant" =>
      (Expr.parseGroup? raw path limit).map fun expr => .relevant ⟨expr, message⟩
  | "type" => some (.type raw)
  | _ => some (.attribute name raw)

/-- What a setting changes in its field. -/
def apply (field : Field) : Setting → Field
  | .required value => { field with required := some value }
  | .readonly value => { field with readonly := some value }
  | .calculate expr => { field with calculate := some expr }
  | .constraint condition => { field with constraint := some condition }
  | .relevant condition => { field with relevant := some condition }
  | .type name => { field with type := some name }
  | .attribute name value => { field with attributes := field.attributes.put name value }

/-- The finding that an expression could not be read, if that is so. -/
def unrecognized? (path : String) : Expr → Option Diagnostic
  | .unparsed text => some (.unrecognized text path)
  | _ => none

/-- One finding for each whole calculation, and for each member of a disjunct,
that could not be read.  What lies deeper is not looked at. -/
def diagnostics (path : String) : Setting → List Diagnostic
  | .calculate expr => (unrecognized? path expr).toList
  | .constraint condition => condition.expr.disjuncts.flatten.filterMap (unrecognized? path)
  | .relevant condition => condition.expr.disjuncts.flatten.filterMap (unrecognized? path)
  | _ => []

end Setting

namespace Xml.Attribute

/-- Whether an attribute names the field of a bind or the message of its
conditions, and so is no setting. -/
def isBindFrame (attr : Xml.Attribute) : Bool :=
  (attr.uri.isNone && attr.name = "nodeset") ||
    (attr.uri = some javarosaUri && attr.name = "constraintMsg")

end Xml.Attribute

/-- The settings that a bind makes at a field, in the order of its attributes.  One
that cannot be read, for its name or for its value, stands as none. -/
def Setting.ofBind (options : Options) (path : String) (bind : Xml.Element) :
    List (Option Setting) :=
  let message := bind.attributeIn? javarosaUri "constraintMsg"
  (bind.tag.attributes.filter (!·.isBindFrame)).map fun attr =>
    (bind.tag.attributeName? attr).bind (Setting.ofNamed? options path message · attr.value)

/-- The settings before the first one that cannot be read. -/
def Setting.beforeBreak : List (Option Setting) → List Setting
  | some setting :: rest => setting :: beforeBreak rest
  | _ => []

/-- How applying a bind ends. -/
inductive BindOutcome where
  | applied
  | dropped
  | brokenOff
deriving DecidableEq, Repr

/-- The definitions of a form in the making. -/
structure Definitions extends Findings where
  basePath : Option String := none
  fields : FieldMap := []

namespace Definitions

/-- The path that a bind means.  Before there is a base path, a relative one goes
below the word that stands for none. -/
def resolveNodeset (definitions : Definitions) (nodeset : String) : String :=
  if nodeset.toList.head? = some '/' then nodeset
  else definitions.basePath.getD "None" ++ "/" ++ nodeset

/-- Reports findings, with warnings if the options ask for them. -/
def report (options : Options) (definitions : Definitions) (found : List Diagnostic) :
    Definitions :=
  { definitions with
    toFindings := definitions.toFindings.reportAll options.warnOnDiagnostics found }

/-- Makes settings at a path. -/
def set (definitions : Definitions) (path : String) (settings : List Setting) :
    Definitions :=
  { definitions with
    fields := definitions.fields.modify path fun field =>
      settings.foldl Setting.apply field }

/-- Applies a bind to the field that it names, if there is one.  It breaks off at an
attribute that cannot be read, and the settings before that one stay. -/
def applyBind (options : Options) (definitions : Definitions) (bind : Xml.Element) :
    Definitions × BindOutcome :=
  match bind.attribute? "nodeset" with
  | none => (definitions.report options [.bindWithoutNodeset], .dropped)
  | some nodeset =>
      let path := definitions.resolveNodeset nodeset
      if definitions.fields.contains path then
        let found := Setting.ofBind options path bind
        let settings := Setting.beforeBreak found
        ((definitions.set path settings).report options
          (settings.flatMap (Setting.diagnostics path)),
          if found.all Option.isSome then .applied else .brokenOff)
      else (definitions.report options [.bindToNoField nodeset path], .dropped)

/-- Applies binds one after the other up to one that breaks off, and says whether all
of them came to their end. -/
def applyBinds (options : Options) (definitions : Definitions) :
    List Xml.Element → Definitions × Bool
  | [] => (definitions, true)
  | bind :: rest =>
      match definitions.applyBind options bind with
      | (definitions, .brokenOff) => (definitions, false)
      | (definitions, _) => applyBinds options definitions rest

end Definitions

end SurveyForm
