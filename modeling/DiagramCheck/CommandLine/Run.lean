import DiagramCheck.CommandLine.Arguments
import DiagramCheck.Report
import DiagramCheck.Settings.Discovery

/-!
# A run of the program

`run` finds the settings, reads the source and checks it. `Program.execute` is the program around
it: it reads the command line, reports what the run found, and chooses the exit status, which is 0
if the run passes or only an answer was asked for, 1 if the run fails, and 2 if the command line
cannot be followed.

The program leaves three things to others (`Tools`): how a command line is read, how the text of a
settings file is decoded, and how a report is rendered. Nothing here depends on how they do it.
-/

namespace DiagramCheck

/-! ## Checking a file -/

/-- A run that passed: the source, and the findings that do not block it. -/
structure Checked where
  /-- The source. -/
  source : String
  /-- The diagnostics of the findings. -/
  warnings : List Diagnostic
  deriving DecidableEq

/-- The settings of a run: those that were found, where the command line can turn on tracing and the
denial of warnings, and turns neither off. -/
def Arguments.override (arguments : Arguments) (settings : Settings) : Settings :=
  { settings with
    traceTokens := settings.traceTokens || arguments.traceTokens
    warningsAsErrors := settings.warningsAsErrors || arguments.denyWarnings }

/-- Checks the text of a file. -/
def checkText (settings : Settings) (input source : String) : Logged (Except Failure Checked) :=
  (check settings source).andThen fun result =>
    match result with
    | .error failure => ⟨.error failure, []⟩
    | .ok findings =>
      let warnings := findings.diagnostics
      ⟨.ok ⟨source, warnings⟩, [.runPassed input warnings.length]⟩

/-- Reads and checks the file at a path. -/
def checkFile (files : FileSystem) (settings : Settings) (input : String) :
    Logged (Except Failure Checked) :=
  match (files input).text with
  | .error error => ⟨.error (.file (.unreadable error)), []⟩
  | .ok source => checkText settings input source

/-- Finds the settings, then reads the source and checks it. -/
def run (decode : Settings.Decoder) (files : FileSystem) (systemDirectory : Option String)
    (arguments : Arguments) : Logged (Except Failure Checked) :=
  Logged.after [.runStarted arguments.input] <|
    (Settings.load decode files arguments.config systemDirectory).andThen fun result =>
      match result with
      | .error failure => ⟨.error (.file failure), []⟩
      | .ok settings => checkFile files (arguments.override settings) arguments.input

/-- The reports of a run: its warnings, or those of its failure. -/
def runReports : Except Failure Checked → List Report
  | .ok checked => Report.ofDiagnostics checked.warnings checked.source
  | .error failure => failure.reports

/-! ## The program -/

/-- What the program leaves to others. -/
structure Tools where
  /-- Reads a command line, without the name of the program. -/
  readArguments : List String → Except Refusal Arguments
  /-- Decodes the text of a settings file. -/
  decode : Settings.Decoder
  /-- Renders a report. -/
  render : Report.Renderer

/-- What the program does with a command line. -/
inductive Program
  /-- It answers without a run. -/
  | refused (refusal : Refusal)
  /-- It runs, with the word for the verbosity, the result and the whole log. -/
  | ran (logLevel : String) (result : Except Failure Checked) (log : List LogEvent)

namespace Program

/-- The event of a report: its rendering, or that it could not be rendered. -/
def reportEvent (render : Report.Renderer) (r : Report) : LogEvent :=
  match render r with
  | .ok text => .reported r.isWarning text
  | .error error => .unrendered error r.text

/-- The paths of all files that a command line can lead to. -/
def paths (tools : Tools) (systemDirectory : Option String) (words : List String) : List String :=
  match tools.readArguments words with
  | .error _ => []
  | .ok arguments =>
    arguments.input :: Settings.candidates arguments.config systemDirectory

/-- Runs as the arguments ask for, and reports what was found. -/
def perform (tools : Tools) (files : FileSystem) (systemDirectory : Option String)
    (arguments : Arguments) : Program :=
  let outcome := run tools.decode files systemDirectory arguments
  let reported := (runReports outcome.value).map (reportEvent tools.render)
  let ending := match outcome.value with
    | .ok _ => [LogEvent.completed]
    | .error _ => []
  .ran arguments.logLevel outcome.value
    ([.starting, .argumentsParsed] ++ outcome.log ++ reported ++ ending)

/-- Reads the command line and runs. -/
def execute (tools : Tools) (files : FileSystem) (systemDirectory : Option String)
    (words : List String) : Program :=
  match tools.readArguments words with
  | .error refusal => .refused refusal
  | .ok arguments => perform tools files systemDirectory arguments

/-- The exit status. -/
def exitStatus : Program → Nat
  | .refused refusal => if refusal.isFault then 2 else 0
  | .ran _ (.ok _) _ => 0
  | .ran _ (.error _) _ => 1

/-- The events that are shown. -/
def shownLog : Program → List LogEvent
  | .refused _ => []
  | .ran logLevel _ log => (Verbosity.ofWord logLevel).select log

/-- The line about a word for the verbosity that is none. -/
def levelNotice : Program → Option String
  | .refused _ => none
  | .ran logLevel _ _ =>
    match Verbosity.ofWord? logLevel with
    | some _ => none
    | none => some s!"Invalid log level: {logLevel}. Using 'warn' instead."

/-- The text that the command line is answered with where there is no run. -/
def answer : Program → Option String
  | .refused refusal => some refusal.answer
  | .ran .. => none

/-- Whether an answer goes to the standard output. -/
def printsAnswer : Program → Bool
  | .refused refusal => !refusal.isFault
  | .ran .. => false

end Program

end DiagramCheck
