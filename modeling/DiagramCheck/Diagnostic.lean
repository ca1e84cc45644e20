import DiagramCheck.Source.Span

/-!
# Diagnostics

A diagnostic is one error or warning in the form in which it is shown: a severity, a message, and
optionally a code, labelled spans of the source, and a text of help. Diagnostics are built up from
a severity and a message by `withCode`, `withLabel`, `withSecondaryLabel` and `withHelp`; a later
code or help replaces an earlier one, and labels add up.
-/

namespace DiagramCheck

/-- How grave a diagnostic is. -/
inductive Severity
  /-- The source or the diagram cannot be used. -/
  | error
  /-- Advice that can be ignored. -/
  | warning
  deriving DecidableEq

/-- The word for a severity. -/
def Severity.display : Severity → String
  | .error => "error"
  | .warning => "warning"

/-- What a diagnostic is about. Codes below 200 are faults of the source, the others faults of the
diagram that it describes. -/
inductive Code
  /-- A token stands where the grammar has no place for it. -/
  | unexpectedToken
  /-- A name is missing. -/
  | expectedIdentifier
  /-- An edge names a source other than the node that it is declared in. -/
  | edgeSourceMismatch
  /-- A node is nested deeper than the limit. -/
  | nestingTooDeep
  /-- Two nodes share an id. -/
  | duplicateNodeId
  /-- An edge points at an id that no node has. -/
  | danglingEdge
  /-- There is no node at all. -/
  | emptyDiagram
  /-- No edge points at a node. -/
  | unreachableNode
  deriving DecidableEq

namespace Code

/-- A code as it is written. -/
def display : Code → String
  | .unexpectedToken => "E100"
  | .expectedIdentifier => "E101"
  | .edgeSourceMismatch => "E102"
  | .nestingTooDeep => "E103"
  | .duplicateNodeId => "E200"
  | .danglingEdge => "E201"
  | .emptyDiagram => "E202"
  | .unreachableNode => "E203"

/-- What a code means, in a few words. -/
def description : Code → String
  | .unexpectedToken => "unexpected token"
  | .expectedIdentifier => "expected identifier"
  | .edgeSourceMismatch => "edge source mismatch"
  | .nestingTooDeep => "nesting too deep"
  | .duplicateNodeId => "duplicate node id"
  | .danglingEdge => "dangling edge"
  | .emptyDiagram => "empty diagram"
  | .unreachableNode => "unreachable node"

end Code

/-- Whether a label marks the fault itself or something related to it. -/
inductive LabelStyle
  /-- The fault itself. -/
  | primary
  /-- Something that helps to understand the fault. -/
  | secondary
  deriving DecidableEq

/-- A message attached to a span of the source. -/
structure Label where
  /-- What the label marks. -/
  style : LabelStyle
  /-- The bytes that it is attached to. -/
  span : Span
  /-- The message. -/
  message : String
  deriving DecidableEq

/-- Whether a label marks the fault itself. -/
def Label.isPrimary (l : Label) : Bool :=
  l.style == .primary

/-- An error or a warning, ready to be shown. -/
structure Diagnostic where
  /-- How grave it is. -/
  severity : Severity
  /-- What it is about, if it has a code. -/
  code : Option Code
  /-- The message. -/
  message : String
  /-- The marked spans of the source. -/
  labels : List Label
  /-- A hint for mending the fault, if there is one. -/
  help : Option String
  deriving DecidableEq

namespace Diagnostic

/-- A diagnostic that has only a message so far. -/
def ofMessage (severity : Severity) (message : String) : Diagnostic :=
  ⟨severity, none, message, [], none⟩

/-- An error that has only a message so far. -/
def error (message : String) : Diagnostic :=
  ofMessage .error message

/-- A warning that has only a message so far. -/
def warning (message : String) : Diagnostic :=
  ofMessage .warning message

/-- Sets the code. -/
def withCode (d : Diagnostic) (code : Code) : Diagnostic :=
  { d with code := some code }

/-- Marks a span as the fault itself. -/
def withLabel (d : Diagnostic) (span : Span) (message : String) : Diagnostic :=
  { d with labels := d.labels ++ [⟨.primary, span, message⟩] }

/-- Marks a span as related to the fault. -/
def withSecondaryLabel (d : Diagnostic) (span : Span) (message : String) : Diagnostic :=
  { d with labels := d.labels ++ [⟨.secondary, span, message⟩] }

/-- Sets the help. -/
def withHelp (d : Diagnostic) (help : String) : Diagnostic :=
  { d with help := some help }

/-- The same diagnostic as an error. -/
def asError (d : Diagnostic) : Diagnostic :=
  { d with severity := .error }

/-- Whether a diagnostic is an error. -/
def isError (d : Diagnostic) : Bool :=
  d.severity == .error

/-- Whether a diagnostic is a warning. -/
def isWarning (d : Diagnostic) : Bool :=
  d.severity == .warning

/-- The first label that marks the fault itself. -/
def primaryLabel? (d : Diagnostic) : Option Label :=
  d.labels.find? Label.isPrimary

/-- A diagnostic on one line: severity, code in brackets if it has one, and message. -/
def display (d : Diagnostic) : String :=
  match d.code with
  | some code => s!"{d.severity.display}[{code.display}]: {d.message}"
  | none => s!"{d.severity.display}: {d.message}"

end Diagnostic

end DiagramCheck
