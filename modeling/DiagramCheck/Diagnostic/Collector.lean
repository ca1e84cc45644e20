import DiagramCheck.Diagnostic

/-!
# Collecting diagnostics

A check goes on after its first finding. The `Collector` gathers the diagnostics in the order in
which they are emitted and remembers whether one of them is an error. At the end it either passes,
with nothing but warnings, or fails with a `CheckFailure` that holds all of them.
-/

namespace DiagramCheck

/-- The diagnostics of a check that failed, in the order in which they were emitted. -/
structure CheckFailure where
  /-- The diagnostics. -/
  diagnostics : List Diagnostic
  deriving DecidableEq

namespace CheckFailure

/-- The number of errors among the diagnostics. -/
def errorCount (f : CheckFailure) : Nat :=
  (f.diagnostics.filter Diagnostic.isError).length

/-- The diagnostic that stands for all: the first error, or the first one if there is no error. -/
def leading? (f : CheckFailure) : Option Diagnostic :=
  f.diagnostics.find? Diagnostic.isError <|> f.diagnostics.head?

/-- A failed check on one line: the leading diagnostic, and how many more there are. -/
def message (f : CheckFailure) : String :=
  match f.leading? with
  | none => ""
  | some d =>
    if f.diagnostics.length > 1 then s!"{d.display} (+{f.diagnostics.length - 1} more)"
    else d.display

end CheckFailure

/-- The diagnostics gathered so far. -/
structure Collector where
  /-- The diagnostics, in the order in which they were emitted. -/
  diagnostics : List Diagnostic
  /-- Whether one of them is an error. -/
  hasErrors : Bool
  deriving DecidableEq

namespace Collector

/-- A collector that has gathered nothing. -/
def empty : Collector :=
  ⟨[], false⟩

/-- Adds a diagnostic. -/
def emit (c : Collector) (d : Diagnostic) : Collector :=
  ⟨c.diagnostics ++ [d], c.hasErrors || d.isError⟩

/-- Adds diagnostics one by one. -/
def emitAll (c : Collector) (ds : List Diagnostic) : Collector :=
  ds.foldl emit c

/-- The number of diagnostics. -/
def size (c : Collector) : Nat :=
  c.diagnostics.length

/-- Whether nothing has been gathered. -/
def isEmpty (c : Collector) : Bool :=
  c.diagnostics.isEmpty

/-- Ends the check: it fails when an error was emitted, and passes with the warnings otherwise. -/
def finish (c : Collector) : Except CheckFailure (List Diagnostic) :=
  if c.hasErrors then .error ⟨c.diagnostics⟩ else .ok c.diagnostics

end Collector

end DiagramCheck
