import SurveyForm.Expr.Encoding
import SurveyForm.Expr.Parser
import SurveyForm.Form.Encoding
import SurveyForm.Main
import SurveyForm.Proofs.Token.Phrase
import SurveyForm.Report.Printed
import SurveyForm.Yaml.Document
import SurveyForm.Yaml.Printer
import SurveyForm.Proofs.Expr.Quotes
import SurveyForm.Proofs.Expr.Rules
import SurveyForm.Proofs.Expr.Written
import SurveyForm.Proofs.Expr.Joining
import SurveyForm.Proofs.Expr.RoundTrip
import SurveyForm.Proofs.Token.Layout
import SurveyForm.Proofs.Expr.Slices
import SurveyForm.Proofs.Expr.SingleTerm
import SurveyForm.Proofs.Expr.Literal
import SurveyForm.Proofs.Body.Reach
import SurveyForm.Proofs.Body.Arrangement
import SurveyForm.Proofs.Instance.Paths
import SurveyForm.Proofs.Instance.Fields
import SurveyForm.Proofs.Bind.Steps
import SurveyForm.Proofs.Form.Loading
import SurveyForm.Proofs.Bind.Findings
import SurveyForm.Proofs.Form.Layout
import SurveyForm.Proofs.Body.LooseRepeats
import SurveyForm.Proofs.Form.Findings
import SurveyForm.Proofs.Xml.Remarks
import SurveyForm.Proofs.Body.Remarks
import SurveyForm.Proofs.Head.Remarks
import SurveyForm.Proofs.Form.Remarks
import SurveyForm.Proofs.Expr.Pruning
import SurveyForm.Proofs.Entries
import SurveyForm.Proofs.Translation.Meaning
import SurveyForm.Proofs.Translation.Lookup
import SurveyForm.Proofs.Bind.BreakingOff
import SurveyForm.Proofs.Xml.Levels
import SurveyForm.Proofs.Form.DepthLimit
import SurveyForm.Proofs.Expr.Decoding
import SurveyForm.Proofs.Expr.Acceptance
import SurveyForm.Proofs.Bind.Independence
import SurveyForm.Proofs.Path.Absolute
import SurveyForm.Proofs.Body.References
import SurveyForm.Proofs.Bind.References
import SurveyForm.Proofs.Form.References
import SurveyForm.Proofs.Instance.Kinds
import SurveyForm.Proofs.Translation.DefaultForm
import SurveyForm.Proofs.Form.DefaultForm
import SurveyForm.Proofs.Expr.Mentions
import SurveyForm.Proofs.Report.Dependencies
import SurveyForm.Proofs.Bind.Replacement
import SurveyForm.Proofs.Report.Unparsed
import SurveyForm.Proofs.Form.BoundData
import SurveyForm.Proofs.Expr.Classification
import SurveyForm.Proofs.Expr.Shape
import SurveyForm.Proofs.Expr.Chains
import SurveyForm.Proofs.Bind.Logic
import SurveyForm.Proofs.Report.Depth
import SurveyForm.Proofs.Bind.Repetition
import SurveyForm.Proofs.Bind.Attributes
import SurveyForm.Proofs.Text.Cuts
import SurveyForm.Proofs.Translation.References
import SurveyForm.Proofs.Translation.Tabulation
import SurveyForm.Proofs.Control.Traversal
import SurveyForm.Proofs.Body.Repeats
import SurveyForm.Proofs.Report.Complexity
import SurveyForm.Proofs.Report.Coverage
import SurveyForm.Proofs.Report.Warnings
import SurveyForm.Proofs.Form.ElementNames
import SurveyForm.Proofs.Options
import SurveyForm.Proofs.Path.Siblings
import SurveyForm.Proofs.Expr.Operands
import SurveyForm.Proofs.Form.Siblings
import SurveyForm.Proofs.Token.Places
import SurveyForm.Proofs.Token.Cutting
import SurveyForm.Proofs.Token.Matching
