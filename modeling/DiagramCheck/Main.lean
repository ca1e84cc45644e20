import DiagramCheck.CommandLine.Tools

/-!
# The command line program

The only module that touches the world. It looks at the files that the command line can lead to,
hands what it found to `Program.execute`, and prints what comes back: the log and faults on the
standard error, answers on the standard output.
-/

namespace DiagramCheck

/-- Whether a number stands for one of the system's errors. It can come with a minus sign, which an
unsigned number wraps around. -/
def isErrorCode (code error : UInt32) : Bool :=
  code == error || code == 0 - error

/-- Why the system refuses to read a file. -/
def readError (error : IO.Error) : ReadError :=
  match error with
  | .noFileOrDirectory .. => .notFound
  | .permissionDenied .. => .permissionDenied
  | .inappropriateType _ code _ =>
    if isErrorCode code 20 then .notADirectory
    else if isErrorCode code 21 then .isADirectory
    else .other (toString error)
  | .invalidArgument _ code _ =>
    if isErrorCode code 36 then .nameTooLong
    else if isErrorCode code 40 then .tooManyLinks
    else .other (toString error)
  | _ => .other (toString error)

/-- Whether a path can be followed to something that is there. -/
def isPresent (path : String) : IO Bool := do
  try
    discard (IO.FS.realPath path)
    return true
  catch _ => return false

/-- Looks at a path: whether anything is there, and what the file there holds. -/
def probe (path : String) : IO Lookup := do
  let present ← isPresent path
  try
    return ⟨present, .ok (← IO.FS.readBinFile path)⟩
  catch error => return ⟨present, .error (readError error)⟩

/-- The directory of the user's settings: the one that the environment names, or the usual one in
the home directory. -/
def userDirectory : IO (Option String) := do
  let named ← IO.getEnv "XDG_CONFIG_HOME"
  let home ← IO.getEnv "HOME"
  match named.filter fun directory => directory.startsWith "/" with
  | some directory => return some (directory ++ "/corner")
  | none => return home.map fun directory => directory ++ "/.config/corner"

/-- A line of the log. -/
def logLine (e : LogEvent) : String :=
  let fields := e.fields.map fun f => s!" {f.1}={f.2}"
  s!"[{e.level.display} {e.component.name}] {e.message}{String.join fields}"

/-- Prints what the program has to say and returns its exit status. -/
def present (program : Program) : IO UInt32 := do
  for notice in program.levelNotice do
    IO.eprintln notice
  for event in program.shownLog do
    IO.eprintln (logLine event)
  for text in program.answer do
    if program.printsAnswer then IO.println text else IO.eprintln text
  return program.exitStatus.toUInt32

/-- Runs the program on a command line. -/
def runProgram (arguments : List String) : IO UInt32 := do
  let systemDirectory ← userDirectory
  let found ← (Program.paths .plain systemDirectory arguments).mapM fun path => do
    return (path, ← probe path)
  let files : FileSystem := fun path => (found.lookup path).getD (.nothing .notFound)
  present (Program.execute .plain files systemDirectory arguments)

end DiagramCheck

/-- Checks the diagram that the command line names. -/
def main (arguments : List String) : IO UInt32 :=
  DiagramCheck.runProgram arguments
