import SurveyForm.Example
import SurveyForm.Form.Encoding
import SurveyForm.Report.Printed
import SurveyForm.Yaml.Document
import SurveyForm.Yaml.Printer
/-!
The command line: prints the report on a form and writes the form as YAML.
-/

namespace SurveyForm

/-- What to report on: the file of the form, or else the example, with the file of
the options and the file to write to. -/
structure Request where
  form : Option String := none
  options : Option String := none
  output : String := Report.standardOutput

namespace Request

/-- The request that arguments make, if they make sense. -/
def ofArguments? : List String → Request → Option Request
  | [], request => some request
  | "--options" :: file :: rest, request =>
      ofArguments? rest { request with options := some file }
  | "--output" :: file :: rest, request => ofArguments? rest { request with output := file }
  | "--verbose" :: rest, request => ofArguments? rest request
  | "-v" :: rest, request => ofArguments? rest request
  | argument :: rest, request =>
      if argument.startsWith "-" || request.form.isSome then none
      else ofArguments? rest { request with form := some argument }

def usage : String :=
  "usage: [-v] [--options OPTIONS] [--output OUTPUT] [form]"

/-- What went wrong with a file of options, in words. -/
def optionsMessage : Options.FileProblem → String
  | .unreadable _ => "The options file is no YAML document"
  | .wrong problem => problem.message

def readOptions : Option String → IO (Except String Options)
  | none => return .ok {}
  | some file => return (Options.ofText file (← IO.FS.readFile file)).mapError optionsMessage

def readForm (options : Options) : Option String → IO (Except String Form)
  | none => return (Example.form options).mapError LoadError.message
  | some file =>
      return (Form.ofBytes options (← IO.FS.readBinFile file)).mapError LoadError.message

/-- Prints the report and writes the form. -/
def answer (request : Request) : IO UInt32 := do
  match ← readOptions request.options with
  | .error message =>
      IO.eprintln message
      return 1
  | .ok options =>
      match ← readForm options request.form with
      | .error message =>
          IO.eprintln message
          return 1
      | .ok form =>
          IO.print (Report.print form (Report.ofForm form Report.standardDepthLimit))
          IO.FS.writeFile request.output (Yaml.render form.encode)
          IO.print (Report.exportLine request.output)
          return 0

end Request

end SurveyForm

/-- Answers the request that the arguments make. -/
def main (args : List String) : IO UInt32 := do
  match SurveyForm.Request.ofArguments? args {} with
  | some request => request.answer
  | none =>
      IO.eprintln SurveyForm.Request.usage
      return 2
