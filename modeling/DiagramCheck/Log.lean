import DiagramCheck.Token

/-!
# The log

What happens during a check is recorded as data: a `LogEvent` for each step worth knowing. An event
has a level, the name of the component that it belongs to, a message and named values. Computations
return their events along with their results as `Logged` values, and `Verbosity.select` picks those
that are shown.
-/

namespace DiagramCheck

/-- How important an event is, the most important level first. -/
inductive Level
  /-- Something failed. -/
  | error
  /-- Something is doubtful. -/
  | warn
  /-- A step of the work. -/
  | info
  /-- Details of a step. -/
  | debug
  /-- The smallest details. -/
  | trace
  deriving DecidableEq

namespace Level

/-- The rank of a level: one for the most important. -/
def rank : Level → Nat
  | .error => 1
  | .warn => 2
  | .info => 3
  | .debug => 4
  | .trace => 5

/-- The word for a level. -/
def display : Level → String
  | .error => "ERROR"
  | .warn => "WARN"
  | .info => "INFO"
  | .debug => "DEBUG"
  | .trace => "TRACE"

end Level

/-- How much of the log is shown. -/
inductive Verbosity
  /-- Nothing. -/
  | off
  /-- All events up to a level. -/
  | upTo (level : Level)
  deriving DecidableEq

namespace Verbosity

/-- Whether events of a level are shown. -/
def admits : Verbosity → Level → Bool
  | .off, _ => false
  | .upTo most, level => level.rank ≤ most.rank

/-- The verbosity that a word stands for, in upper or lower case. -/
def ofWord? (word : String) : Option Verbosity :=
  match String.ofList (word.toList.map Char.toLower) with
  | "off" => some .off
  | "error" => some (.upTo .error)
  | "warn" => some (.upTo .warn)
  | "info" => some (.upTo .info)
  | "debug" => some (.upTo .debug)
  | "trace" => some (.upTo .trace)
  | _ => none

/-- The verbosity that a word stands for; a word that is no level stands for warnings. -/
def ofWord (word : String) : Verbosity :=
  (ofWord? word).getD (.upTo .warn)

end Verbosity

/-- The parts of the program that log. -/
inductive Component
  /-- The program and the checker. -/
  | checker
  /-- The run over a file. -/
  | run
  /-- The search for settings. -/
  | settings
  /-- The reader of diagrams. -/
  | parser
  /-- The analysis. -/
  | analyzer
  deriving DecidableEq

/-- The name of a component in the log. -/
def Component.name : Component → String
  | .checker => "corner"
  | .run => "corner_cli"
  | .settings => "corner_cli::config"
  | .parser => "corner_parser::parser"
  | .analyzer => "corner_parser::analyzer"

/-- Where settings come from. -/
inductive Origin
  /-- A file named on the command line. -/
  | explicitPath
  /-- The file of the working directory. -/
  | localPath
  /-- The file of the user's configuration directory. -/
  | systemPath
  deriving DecidableEq

/-- The word for an origin. -/
def Origin.display : Origin → String
  | .explicitPath => "explicit"
  | .localPath => "local"
  | .systemPath => "system"

/-- The events of the log. -/
inductive LogEvent
  /-- The program starts. -/
  | starting
  /-- The command line has been read. -/
  | argumentsParsed
  /-- A report has been rendered. -/
  | reported (isWarning : Bool) (text : String)
  /-- A report could not be rendered. -/
  | unrendered (error text : String)
  /-- The program ends without failure. -/
  | completed
  /-- The run over a file starts. -/
  | runStarted (input : String)
  /-- The run over a file has passed. -/
  | runPassed (input : String) (warnings : Nat)
  /-- A settings file has been chosen. -/
  | settingsChosen (origin : Origin)
  /-- The user's configuration directory holds no settings. -/
  | systemSettingsAbsent
  /-- The user has no configuration directory. -/
  | systemDirectoryUnknown
  /-- There is no settings file, the defaults apply. -/
  | settingsDefaulted
  /-- A settings file has been read. -/
  | settingsLoaded
  /-- The reading of a source starts. -/
  | parseStarted (bytes : Nat)
  /-- A source has been read. -/
  | parsePassed (nodes edges : Nat)
  /-- The diagram is shown in full. -/
  | diagramShown
  /-- A diagram has been checked. -/
  | diagramChecked (nodes edges errors warnings : Nat)
  /-- The grammar accepted a token. -/
  | tokenAccepted (token : Token) (position : Position)
  /-- The grammar accepted a source. -/
  | diagramParsed (nodes edges : Nat)
  /-- The analysis met a diagram without nodes. -/
  | emptyAnalyzed (errors : Nat)
  /-- The analysis is complete. -/
  | diagramAnalyzed (declared errors warnings : Nat)
  deriving DecidableEq

namespace LogEvent

/-- The level of an event. -/
def level : LogEvent → Level
  | .starting => .info
  | .argumentsParsed => .debug
  | .reported isWarning _ => if isWarning then .warn else .error
  | .unrendered .. => .error
  | .completed => .info
  | .runStarted _ => .info
  | .runPassed .. => .info
  | .settingsChosen _ => .info
  | .systemSettingsAbsent => .debug
  | .systemDirectoryUnknown => .debug
  | .settingsDefaulted => .debug
  | .settingsLoaded => .debug
  | .parseStarted _ => .info
  | .parsePassed .. => .debug
  | .diagramShown => .trace
  | .diagramChecked .. => .info
  | .tokenAccepted .. => .trace
  | .diagramParsed .. => .debug
  | .emptyAnalyzed _ => .debug
  | .diagramAnalyzed .. => .debug

/-- The component that an event belongs to. -/
def component : LogEvent → Component
  | .starting => .checker
  | .argumentsParsed => .checker
  | .reported .. => .checker
  | .unrendered .. => .checker
  | .completed => .checker
  | .runStarted _ => .run
  | .runPassed .. => .run
  | .settingsChosen _ => .settings
  | .systemSettingsAbsent => .settings
  | .systemDirectoryUnknown => .settings
  | .settingsDefaulted => .settings
  | .settingsLoaded => .settings
  | .parseStarted _ => .checker
  | .parsePassed .. => .checker
  | .diagramShown => .checker
  | .diagramChecked .. => .checker
  | .tokenAccepted .. => .parser
  | .diagramParsed .. => .parser
  | .emptyAnalyzed _ => .analyzer
  | .diagramAnalyzed .. => .analyzer

/-- The message of an event. -/
def message : LogEvent → String
  | .starting => "Starting Corner"
  | .argumentsParsed => "Parsed arguments"
  | .reported _ text => text
  | .unrendered _ text => s!"Failed to render report: {text}"
  | .completed => "Completed successfully"
  | .runStarted _ => "Checking diagram"
  | .runPassed .. => "Diagram checked successfully"
  | .settingsChosen origin => s!"Loading configuration from {origin.display} path"
  | .systemSettingsAbsent => "System configuration file not found"
  | .systemDirectoryUnknown => "Could not determine platform-specific config directory"
  | .settingsDefaulted => "No configuration file found, using default configuration"
  | .settingsLoaded => "Loaded configuration"
  | .parseStarted _ => "Parsing diagram"
  | .parsePassed .. => "Diagram parsed successfully"
  | .diagramShown => "Parsed diagram"
  | .diagramChecked .. => "Diagram checked"
  | .tokenAccepted .. => "Accepted token"
  | .diagramParsed .. => "Parsed diagram"
  | .emptyAnalyzed _ => "Analyzed empty diagram"
  | .diagramAnalyzed .. => "Analyzed diagram"

/-- The named values of an event, as text. -/
def fields : LogEvent → List (String × String)
  | .unrendered error _ => [("render_err", error)]
  | .runStarted input => [("input_path", input)]
  | .runPassed input warnings => [("input_path", input), ("warnings", toString warnings)]
  | .parseStarted bytes => [("bytes", toString bytes)]
  | .parsePassed nodes edges => [("nodes", toString nodes), ("edges", toString edges)]
  | .diagramChecked nodes edges errors warnings =>
    [("nodes", toString nodes), ("edges", toString edges), ("errors", toString errors),
      ("warnings", toString warnings)]
  | .tokenAccepted token position => [("token", token.text), ("position", position.display)]
  | .diagramParsed nodes edges => [("nodes", toString nodes), ("edges", toString edges)]
  | .emptyAnalyzed errors => [("errors", toString errors)]
  | .diagramAnalyzed declared errors warnings =>
    [("declared", toString declared), ("errors", toString errors),
      ("warnings", toString warnings)]
  | _ => []

end LogEvent

/-- The events that are shown at a verbosity, in order. -/
def Verbosity.select (v : Verbosity) (events : List LogEvent) : List LogEvent :=
  events.filter fun e => v.admits e.level

/-- A result together with the events on the way to it. -/
structure Logged (α : Type) where
  /-- The result. -/
  value : α
  /-- The events, in the order in which they happened. -/
  log : List LogEvent

namespace Logged

variable {α β : Type}

/-- Goes on from a result, with the events of both steps. -/
def andThen (l : Logged α) (next : α → Logged β) : Logged β :=
  let following := next l.value
  ⟨following.value, l.log ++ following.log⟩

/-- Puts events in front of those of a computation. -/
def after (events : List LogEvent) (l : Logged α) : Logged α :=
  ⟨l.value, events ++ l.log⟩

end Logged

end DiagramCheck
