/-!
# What a command line asks for

The arguments that a run is given, and the answer where a command line leads to no run.
-/

namespace DiagramCheck

/-- What the command line asks for. -/
structure Arguments where
  /-- The path of the source. -/
  input : String
  /-- The path of the settings file, if one is named. -/
  config : Option String
  /-- The word for the verbosity of the log. -/
  logLevel : String
  /-- Whether accepted tokens are logged, whatever the settings say. -/
  traceTokens : Bool
  /-- Whether warnings count as errors, whatever the settings say. -/
  denyWarnings : Bool
  deriving DecidableEq

/-- The answer to a command line that leads to no run. -/
structure Refusal where
  /-- Whether the command line is at fault, or has only asked for the answer. -/
  isFault : Bool
  /-- The text of the answer. -/
  answer : String
  deriving DecidableEq

end DiagramCheck
