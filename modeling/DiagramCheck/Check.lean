import DiagramCheck.Diagram.Parser
import DiagramCheck.Files
import DiagramCheck.Log
import DiagramCheck.Settings

/-!
# Checking a source

`check` reads a diagram from a source, analyses it and decides whether the findings block it, as
the settings ask for. Every way in which a check, or the run around it, can fail is a `Failure`,
which keeps the source that it is about.
-/

namespace DiagramCheck

/-! ## Failures -/

/-- A failure that is about a file and not about a source. -/
inductive FileFailure
  /-- The settings file that was asked for does not exist. -/
  | missingSettings (path : String)
  /-- A settings file does not decode, for the reason that the decoder gives. -/
  | malformedSettings (path message : String)
  /-- A file could not be read. -/
  | unreadable (error : ReadError)
  deriving DecidableEq

namespace FileFailure

/-- What went wrong with the file. -/
def cause : FileFailure → String
  | .missingSettings path => s!"Missing configuration file: {path}"
  | .malformedSettings path message => s!"Failed to parse TOML configuration {path}: {message}"
  | .unreadable error => error.message

/-- A file failure on one line. -/
def message (f : FileFailure) : String :=
  s!"I/O error: {f.cause}"

end FileFailure

/-- Why a check failed. -/
inductive Failure
  /-- A file was at fault. -/
  | file (failure : FileFailure)
  /-- The source has a syntax error. -/
  | malformed (error : SyntaxError) (source : String)
  /-- The findings of the analysis block the diagram. -/
  | blocked (failure : CheckFailure) (source : String)
  deriving DecidableEq

namespace Failure

/-- A failure on one line. -/
def message : Failure → String
  | .file failure => failure.message
  | .malformed error _ => error.message
  | .blocked failure _ => failure.message

/-- The diagnostics of a failure. A file failure has none. -/
def diagnostics : Failure → List Diagnostic
  | .file _ => []
  | .malformed error _ => [error.diagnostic]
  | .blocked failure _ => failure.diagnostics

/-- The source that a failure is about, if it is about one. -/
def source? : Failure → Option String
  | .file _ => none
  | .malformed _ source => some source
  | .blocked _ source => some source

end Failure

/-! ## The steps of a check -/

/-- The events of reading a diagram: the accepted tokens, if they are traced, and the size of the
diagram, if there is one. -/
def Parse.log (p : Parse) (traced : Bool) : List LogEvent :=
  (if traced then p.accepted.map fun x => .tokenAccepted x.token x.position else []) ++
    match p.result with
    | .ok d => [.diagramParsed d.nodeCount d.edgeCount]
    | .error _ => []

/-- Reads a diagram, with the events on the way. -/
def TokenStream.parseLogged (tokens : TokenStream) (traced : Bool) :
    Logged (Except SyntaxError Diagram) :=
  ⟨tokens.parse.result, tokens.parse.log traced⟩

/-- The event of an analysis. -/
def Diagram.analysisEvent (d : Diagram) (findings : Findings) : LogEvent :=
  if d.isEmpty then .emptyAnalyzed findings.errors.length
  else .diagramAnalyzed d.declarations.declared.length findings.errors.length
    findings.warnings.length

/-- Analyses a diagram and decides whether the findings block it. -/
def Diagram.check (d : Diagram) (settings : Settings) (source : String) :
    Logged (Except Failure Findings) :=
  let findings := d.analyze settings.policy
  let events := [d.analysisEvent findings,
    .diagramChecked d.nodeCount d.edgeCount findings.errors.length findings.warnings.length]
  match findings.check settings.warningsAsErrors with
  | .ok _ => ⟨.ok findings, events⟩
  | .error failure => ⟨.error (.blocked failure source), events⟩

/-- Checks a source: reads a diagram, analyses it, and fails when the findings block it. -/
def check (settings : Settings) (source : String) : Logged (Except Failure Findings) :=
  let parsed := (TokenStream.ofString source).parseLogged settings.traceTokens
  Logged.after (.parseStarted (Text.byteLength source.toList) :: parsed.log) <|
    match parsed.value with
    | .error error => ⟨.error (.malformed error source), []⟩
    | .ok d =>
      Logged.after [.parsePassed d.nodeCount d.edgeCount, .diagramShown] (d.check settings source)

end DiagramCheck
