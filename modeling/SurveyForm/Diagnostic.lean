import SurveyForm.Text.Quoted
/-!
What is found wrong with a form without stopping it from loading, and what does
stop it.  Each finding is a cause; its wording is in one place.
-/

namespace SurveyForm

inductive DiagnosticKind where
  | bindMismatch
  | translationEntry
  | unrecognizedExpression
  | repeatOutsideGroup
deriving DecidableEq, Repr

def DiagnosticKind.label : DiagnosticKind → String
  | .bindMismatch => "bind_mismatch"
  | .translationEntry => "translation_entry"
  | .unrecognizedExpression => "unrecognized_expression"
  | .repeatOutsideGroup => "repeat_outside_group"

def DiagnosticKind.ofLabel? : String → Option DiagnosticKind
  | "bind_mismatch" => some .bindMismatch
  | "translation_entry" => some .translationEntry
  | "unrecognized_expression" => some .unrecognizedExpression
  | "repeat_outside_group" => some .repeatOutsideGroup
  | _ => none

/-- A finding that does not stop a form from loading. -/
structure Diagnostic where
  kind : DiagnosticKind
  message : String
  /-- The path, nodeset or id that the finding is about. -/
  source : Option String := none
deriving DecidableEq, Repr

namespace Diagnostic

/-- A text between quotes, or the word that stands for none. -/
def quotedOrNone : Option String → String
  | some text => Text.quoted text
  | none => "None"

def bindWithoutNodeset : Diagnostic :=
  { kind := .bindMismatch, message := "Bind without nodeset ignored" }

def bindToNoField (nodeset path : String) : Diagnostic :=
  { kind := .bindMismatch
    message := "Bind nodeset " ++ Text.quoted nodeset ++ " matches no instance field"
    source := some path }

def translationWithoutLanguage : Diagnostic :=
  { kind := .translationEntry
    message := "Translation block without a lang attribute skipped" }

def malformedEntry (id : Option String) (language : String) : Diagnostic :=
  { kind := .translationEntry
    message := "Malformed text entry " ++ quotedOrNone id ++ " in translation " ++
      Text.quoted language ++ " skipped"
    source := id }

def unrecognized (text path : String) : Diagnostic :=
  { kind := .unrecognizedExpression
    message := "Unrecognized expression " ++ Text.quoted text
    source := some path }

def repeatOutsideGroup (nodeset : Option String) : Diagnostic :=
  { kind := .repeatOutsideGroup
    message := "Repeat " ++ quotedOrNone nodeset ++ " has no enclosing group to mark repeatable"
    source := nodeset }

end Diagnostic

/-- What has been found so far, and the warnings that have been given about it. -/
structure Findings where
  diagnostics : List Diagnostic := []
  warnings : List String := []

namespace Findings

/-- Reports a finding.  It is kept, and if warnings are asked for, there is one about it. -/
def report (warn : Bool) (findings : Findings) (found : Diagnostic) : Findings :=
  { diagnostics := findings.diagnostics ++ [found]
    warnings := if warn then findings.warnings ++ [found.message] else findings.warnings }

/-- Reports findings one after the other. -/
def reportAll (warn : Bool) (findings : Findings) (found : List Diagnostic) : Findings :=
  found.foldl (report warn) findings

end Findings

/-- The parts of a form whose nesting is limited. -/
inductive FormPart where
  | instanceData
  | body
deriving DecidableEq, Repr

def FormPart.label : FormPart → String
  | .instanceData => "instance"
  | .body => "body"

/-- What is wrong with a document's frame. -/
inductive FrameError where
  | notWellFormed
  | encoding
  | version
  | rootName (name : String)
  | rootNamespace
  | missingNamespace (prefixName : String)
  | partCount (name : String) (count : Nat)
deriving DecidableEq, Repr

def FrameError.message : FrameError → String
  | .notWellFormed => "Error parsing XML"
  | .encoding => "XML Encoding must be UTF-8"
  | .version => "XML Version must be 1.0"
  | .rootName name => "Invalid root element - " ++ name
  | .rootNamespace => "Document is not valid XHTML"
  | .missingNamespace prefixName =>
      "Invalid or Missing Namespace declaration: \"xmlns" ++
        (if prefixName = "" then "" else ":" ++ prefixName) ++ "\""
  | .partCount name count =>
      "Invalid XForm - expected exactly one " ++ name ++ ", found " ++ toString count

/-- What stops a form from loading.  It breaks off, and is not blamed for that, where a
character reference in an expression has too many digits, or a name that has to be asked
for holds a colon. -/
inductive LoadError where
  | frame (cause : FrameError)
  | noInstance
  | emptyInstance
  | tooDeep (part : FormPart) (limit : Nat)
  | brokenOff
deriving DecidableEq, Repr

namespace LoadError

def message : LoadError → String
  | .frame cause => cause.message
  | .noInstance => "Invalid XForm - no instance defined"
  | .emptyInstance => "No instance data defined"
  | .tooDeep part limit =>
      part.label ++ " nesting exceeds maximum depth of " ++ toString limit
  | .brokenOff => "A name or a character reference cannot be read"

/-- What stops a walk where it is: that it is too deep there, or else that a name cannot
be asked for. -/
def ofVisit? (part : FormPart) (limit depth : Nat) (isReadable : Bool) : Option LoadError :=
  if limit ≤ depth then some (.tooDeep part limit)
  else if isReadable then none
  else some .brokenOff

end LoadError

end SurveyForm
