import SurveyForm.Diagnostic
/-!
What reporting leaves.  Findings are kept in the order in which they are reported, and each
of them comes with its warning, if warnings are asked for.
-/

namespace SurveyForm.Findings

variable {warn : Bool} {findings : Findings}

theorem diagnostics_report (warn : Bool) (findings : Findings) (found : Diagnostic) :
    (findings.report warn found).diagnostics = findings.diagnostics ++ [found] :=
  rfl

@[simp]
theorem diagnostics_reportAll (warn : Bool) (findings : Findings) (found : List Diagnostic) :
    (findings.reportAll warn found).diagnostics = findings.diagnostics ++ found := by
  induction found generalizing findings with
  | nil => exact (List.append_nil _).symm
  | cons first rest ih =>
      have hrest := ih (findings.report warn first)
      rw [diagnostics_report, List.append_assoc, List.singleton_append] at hrest
      exact hrest

/-- Whether the warnings that have been given are those about the findings, in their order,
if warnings are asked for, and none otherwise. -/
def Announced (warn : Bool) (findings : Findings) : Prop :=
  findings.warnings = if warn then findings.diagnostics.map Diagnostic.message else []

theorem announced_empty (warn : Bool) : Announced warn {} := by
  cases warn <;> rfl

theorem Announced.report (hannounced : findings.Announced warn) (found : Diagnostic) :
    (findings.report warn found).Announced warn := by
  cases warn with
  | false => exact hannounced
  | true =>
      have hbefore : findings.warnings = findings.diagnostics.map Diagnostic.message := hannounced
      change findings.warnings ++ [found.message] =
        (findings.diagnostics ++ [found]).map Diagnostic.message
      rw [hbefore, List.map_append, List.map_singleton]

theorem Announced.reportAll (hannounced : findings.Announced warn) (found : List Diagnostic) :
    (findings.reportAll warn found).Announced warn := by
  induction found generalizing findings with
  | nil => exact hannounced
  | cons first rest ih => exact ih (hannounced.report first)

end SurveyForm.Findings
