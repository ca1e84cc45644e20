import DiagramCheck.Settings
import DiagramCheck.Toml.Document

/-!
# Settings in a configuration file

The table `parser` of a configuration file holds `trace_tokens`, and the table `analysis` holds
`exempt_entry_point`, `report_unreachable` and `warnings_as_errors`. All of them are truth values,
and each may be missing, as may the tables; what is missing has its standard value. Everything else
in the file is ignored, except that the whole numbers in the table `analysis` are short ones.
-/

namespace DiagramCheck

open Toml

/-- The truth value under a key, or the given one if the key is missing. Other values are
refused. -/
def Settings.flag? (entries : Entries) (key : String) (standard : Bool) : Option Bool :=
  match entries.lookup key with
  | none => some standard
  | some (.boolean b) => some b
  | some _ => none

/-- Whether accepted tokens are logged. In place of the table, an array can give its one entry. -/
def Settings.traceTokens? : Option Value → Option Bool
  | none => some Settings.standard.traceTokens
  | some (.table _ entries) => flag? entries "trace_tokens" Settings.standard.traceTokens
  | some (.array []) => some Settings.standard.traceTokens
  | some (.array (.boolean b :: _)) => some b
  | some _ => none

/-- What the analysis reports, and whether warnings count as errors. A table that holds a whole
number of more than 64 bits is refused. -/
def Settings.analysis? : Option Value → Option (Policy × Bool)
  | none => some (Policy.standard, Settings.standard.warningsAsErrors)
  | some (.table _ entries) => do
    guard ((Entries.integers entries).all isShortInteger)
    let exempt ← flag? entries "exempt_entry_point" Policy.standard.exemptEntryPoint
    let report ← flag? entries "report_unreachable" Policy.standard.reportUnreachable
    let deny ← flag? entries "warnings_as_errors" Settings.standard.warningsAsErrors
    some (⟨exempt, report⟩, deny)
  | some _ => none

/-- The settings that the tables of a configuration file make. -/
def Settings.ofEntries? (entries : Entries) : Option Settings := do
  let trace ← traceTokens? (entries.lookup "parser")
  let (policy, deny) ← analysis? (entries.lookup "analysis")
  some ⟨trace, policy, deny⟩

/-- Decodes a configuration file. -/
def Settings.ofToml (text : String) : Except String Settings :=
  match Toml.parse text with
  | none => .error "the file is not well formed"
  | some entries =>
    match ofEntries? entries with
    | none => .error "a setting has a value of the wrong kind"
    | some settings => .ok settings

end DiagramCheck
