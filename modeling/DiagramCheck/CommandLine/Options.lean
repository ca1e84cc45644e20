import DiagramCheck.CommandLine.Arguments

/-!
# The options of the command line

`Arguments.parse` reads the arguments of the program one after the other. An option that takes a
value can have it attached or in the next argument, unless that one starts with a dash. Such an
option stays pending until something else comes, and only then is it found out that its value is
missing or that it was given before. An argument that is wrong in itself is found out at once, even
while an option is pending.
-/

namespace DiagramCheck

namespace CommandLine

/-- Why a command line leads to no run. -/
inductive Objection
  /-- The source is not named. -/
  | missingInput
  /-- There is no such option, or no place for one more argument. -/
  | unknownArgument
  /-- An option lacks its value. -/
  | missingValue
  /-- A switch was given a value. -/
  | surplusValue
  /-- An option or a switch was given twice. -/
  | repeated
  /-- Help was asked for. -/
  | help
  /-- The version was asked for. -/
  | version
  deriving DecidableEq

/-- How the program is used. -/
def usage : String :=
  String.intercalate "\n"
    ["Check a Corner diagram and report problems",
      "",
      "Usage: corner [OPTIONS] <INPUT>",
      "",
      "Arguments:",
      "  <INPUT>  Path to the input file",
      "",
      "Options:",
      "  -c, --config <CONFIG>        Path to configuration file (TOML)",
      "      --log-level <LOG_LEVEL>  Log level (off, error, warn, info, debug, trace)",
      "      --trace-tokens           Log every token the parser accepts",
      "      --deny-warnings          Fail when the analysis reports warnings",
      "  -h, --help                   Print help",
      "  -V, --version                Print version"]

/-- The answer to a command line that leads to no run. -/
def Objection.refusal : Objection → Refusal
  | .missingInput => ⟨true, "error: the path to the input file is missing"⟩
  | .unknownArgument => ⟨true, "error: there is an argument that is not known"⟩
  | .missingValue => ⟨true, "error: an option lacks its value"⟩
  | .surplusValue => ⟨true, "error: a switch takes no value"⟩
  | .repeated => ⟨true, "error: an option is given more than once"⟩
  | .help => ⟨false, usage⟩
  | .version => ⟨false, "corner 0.1.0"⟩

/-- The options that take a value. -/
inductive ValueOption
  /-- The settings file. -/
  | config
  /-- The verbosity of the log. -/
  | logLevel
  deriving DecidableEq

/-- The options that take no value. -/
inductive Switch
  /-- Log the accepted tokens. -/
  | traceTokens
  /-- Count warnings as errors. -/
  | denyWarnings
  /-- Ask for help. -/
  | help
  /-- Ask for the version. -/
  | version
  deriving DecidableEq

/-- An option, with or without a value. -/
inductive CommandOption
  /-- An option that takes a value. -/
  | value (o : ValueOption)
  /-- An option that takes no value. -/
  | switch (s : Switch)
  deriving DecidableEq

/-- The option with a long name. -/
def longOption? (name : String) : Option CommandOption :=
  match name with
  | "config" => some (.value .config)
  | "log-level" => some (.value .logLevel)
  | "trace-tokens" => some (.switch .traceTokens)
  | "deny-warnings" => some (.switch .denyWarnings)
  | "help" => some (.switch .help)
  | "version" => some (.switch .version)
  | _ => none

/-- The option with a name of one letter. -/
def shortOption? (name : Char) : Option CommandOption :=
  match name with
  | 'c' => some (.value .config)
  | 'h' => some (.switch .help)
  | 'V' => some (.switch .version)
  | _ => none

/-- What has been read of a command line. -/
structure Reading where
  /-- The source. -/
  input : Option String
  /-- The settings file. -/
  config : Option String
  /-- The verbosity of the log. -/
  logLevel : Option String
  /-- Whether the switch for tracing was given. -/
  traceTokens : Bool
  /-- Whether the switch for denying warnings was given. -/
  denyWarnings : Bool
  /-- The option that waits for a value or has just got it from an argument of its own. -/
  pending : Option (ValueOption × Option String)
  /-- Whether the arguments are no longer options. -/
  trailing : Bool
  deriving DecidableEq

namespace Reading

/-- Before the first argument. -/
def start : Reading :=
  ⟨none, none, none, false, false, none, false⟩

/-- The value of an option. -/
def valueOf (r : Reading) : ValueOption → Option String
  | .config => r.config
  | .logLevel => r.logLevel

/-- Gives an option its value, once. -/
def assign (r : Reading) (o : ValueOption) (value : String) : Except Objection Reading :=
  if (r.valueOf o).isSome then .error .repeated
  else
    match o with
    | .config => .ok { r with config := some value }
    | .logLevel => .ok { r with logLevel := some value }

/-- Settles the pending option: it must have a value, and be given for the first time. -/
def settle (r : Reading) : Except Objection Reading :=
  match r.pending with
  | none => .ok r
  | some (_, none) => .error .missingValue
  | some (o, some value) => assign { r with pending := none } o value

/-- Takes a switch. -/
def turnOn (r : Reading) : Switch → Except Objection Reading
  | .traceTokens =>
    if r.traceTokens then .error .repeated else .ok { r with traceTokens := true }
  | .denyWarnings =>
    if r.denyWarnings then .error .repeated else .ok { r with denyWarnings := true }
  | .help => .error .help
  | .version => .error .version

/-- Takes an argument that is no option: the source, of which there is one. -/
def takeInput (r : Reading) (argument : String) : Except Objection Reading :=
  if r.input.isSome then .error .unknownArgument
  else r.settle.map fun r => { r with input := some argument }

/-- Takes an option with its value attached, or one that stays pending. -/
def takeOption (r : Reading) (o : CommandOption) (attached : Option String) :
    Except Objection Reading :=
  match o, attached with
  | .value o, none => r.settle.map fun r => { r with pending := some (o, none) }
  | .value o, some value => r.settle.bind fun r => r.assign o value
  | .switch s, none => r.settle.bind fun r => r.turnOn s
  | .switch _, some _ => .error .surplusValue

/-- Takes what follows two dashes: a name, and behind an equals sign the attached value. -/
def takeLong (r : Reading) (text : List Char) : Except Objection Reading :=
  match longOption? (String.ofList (text.takeWhile (· != '='))) with
  | none => .error .unknownArgument
  | some o => r.takeOption o ((text.dropWhile (· != '=')).tail?.map String.ofList)

/-- Takes what follows one dash: letters of switches, up to an option whose value is all the rest.
An equals sign in front of the value is left out. -/
def takeShort (r : Reading) : List Char → Except Objection Reading
  | [] => .ok r
  | c :: cs =>
    match shortOption? c with
    | none => .error .unknownArgument
    | some (.switch s) => (r.takeOption (.switch s) none).bind fun r => r.takeShort cs
    | some (.value o) =>
      match cs with
      | [] => r.takeOption (.value o) none
      | '=' :: value => r.takeOption (.value o) (some (String.ofList value))
      | value => r.takeOption (.value o) (some (String.ofList value))

/-- Takes an argument that does not start with a dash, or is nothing but one: the value of an option
that waits for it, or the source. -/
def takePlain (r : Reading) (argument : String) : Except Objection Reading :=
  match r.pending with
  | some (o, none) => .ok { r with pending := some (o, some argument) }
  | _ => r.takeInput argument

/-- Takes one argument. -/
def step (r : Reading) (argument : String) : Except Objection Reading :=
  if r.trailing then r.takeInput argument
  else
    match argument.toList with
    | ['-', '-'] => .ok { r with trailing := true }
    | '-' :: '-' :: text => r.takeLong text
    | ['-'] => r.takePlain argument
    | '-' :: text => r.takeShort text
    | _ => r.takePlain argument

/-- What the whole command line asks for. -/
def finish (r : Reading) : Except Objection Arguments :=
  r.settle.bind fun r =>
    match r.input with
    | none => .error .missingInput
    | some input =>
      .ok ⟨input, r.config, r.logLevel.getD "info", r.traceTokens, r.denyWarnings⟩

end Reading

end CommandLine

/-- Reads a command line, without the name of the program. -/
def Arguments.parse (arguments : List String) : Except CommandLine.Objection Arguments :=
  (arguments.foldlM CommandLine.Reading.step .start).bind CommandLine.Reading.finish

end DiagramCheck
