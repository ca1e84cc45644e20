import DiagramCheck.Check

/-!
# Reports

What is handed to a renderer: one report for each diagnostic, with the source that its labels point
into, or one report for a failure that is about a file. How a report is rendered is up to the
renderer, which may fail.
-/

namespace DiagramCheck

/-- A label as the renderer takes it: a message at an offset, for a number of bytes. -/
structure ReportLabel where
  /-- The message. -/
  message : String
  /-- The offset of the first byte. -/
  offset : Nat
  /-- The number of bytes. -/
  length : Nat
  /-- Whether the label marks the fault itself. -/
  isPrimary : Bool
  deriving DecidableEq

/-- The renderer's form of a label. -/
def Label.report (l : Label) : ReportLabel :=
  ⟨l.message, l.span.start, l.span.length, l.isPrimary⟩

/-- Something to be rendered. -/
inductive Report
  /-- A diagnostic, with the source that it is about. -/
  | finding (diagnostic : Diagnostic) (source : String)
  /-- A failure that is about a file. -/
  | failure (failure : FileFailure)
  deriving DecidableEq

namespace Report

/-- A renderer: the text that shows a report, or the error that it ends with. -/
abbrev Renderer := Report → Except String String

/-- The message of a report. -/
def text : Report → String
  | .finding d _ => d.message
  | .failure f => f.message

/-- Whether a report is only a warning. -/
def isWarning : Report → Bool
  | .finding d _ => d.isWarning
  | .failure _ => false

/-- The code of a report. -/
def code : Report → Option String
  | .finding d _ => d.code.map Code.display
  | .failure _ => some "corner::io"

/-- The severity of a report. -/
def severity : Report → Option Severity
  | .finding d _ => some d.severity
  | .failure _ => none

/-- The help of a report. -/
def help : Report → Option String
  | .finding d _ => d.help
  | .failure _ => none

/-- The labels of a report, if there are any. -/
def labels : Report → Option (List ReportLabel)
  | .finding d _ => if d.labels.isEmpty then none else some (d.labels.map Label.report)
  | .failure _ => none

/-- The source that the labels of a report point into. -/
def source? : Report → Option String
  | .finding _ source => some source
  | .failure _ => none

/-- What lies behind a report, if its message names something else. -/
def cause : Report → Option String
  | .finding .. => none
  | .failure f => some f.cause

/-- The reports of diagnostics about one source. -/
def ofDiagnostics (diagnostics : List Diagnostic) (source : String) : List Report :=
  diagnostics.map fun d => .finding d source

end Report

/-- The reports of a failure: one for each diagnostic, or one for a file. -/
def Failure.reports : Failure → List Report
  | .file failure => [.failure failure]
  | .malformed error source => Report.ofDiagnostics [error.diagnostic] source
  | .blocked failure source => Report.ofDiagnostics failure.diagnostics source

end DiagramCheck
