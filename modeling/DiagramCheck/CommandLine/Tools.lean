import DiagramCheck.CommandLine.Options
import DiagramCheck.CommandLine.Run
import DiagramCheck.Settings.Decode

/-!
# The tools of the program

The tools that the program is run with: the reader of its options, the decoder of configuration
files, and a renderer in plain text, which never fails.
-/

namespace DiagramCheck

/-- A report in plain text: the message with severity and code, the labels with the bytes that they
mark, and the help. -/
def Report.plainText (r : Report) : String :=
  let word := match r.severity with
    | some severity => severity.display
    | none => Severity.error.display
  let head := match r.code with
    | some code => s!"{word}[{code}]: {r.text}"
    | none => s!"{word}: {r.text}"
  let marks := (r.labels.getD []).map fun l =>
    s!"  at {l.offset}..{l.offset + l.length}: {l.message}"
  let hints := r.help.toList.map fun help => s!"  help: {help}"
  String.intercalate "\n" (head :: (marks ++ hints))

/-- The tools that the program is run with. -/
def Tools.plain : Tools where
  readArguments words := (Arguments.parse words).mapError CommandLine.Objection.refusal
  decode := Settings.ofToml
  render r := .ok r.plainText

end DiagramCheck
