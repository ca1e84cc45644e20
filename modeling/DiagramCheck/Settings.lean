import DiagramCheck.Analysis

/-!
# Settings

What a user can choose: whether every accepted token is logged, what the analysis reports, and
whether warnings block a diagram.
-/

namespace DiagramCheck

/-- The settings of a check. -/
structure Settings where
  /-- Whether every token that the grammar accepts is logged. -/
  traceTokens : Bool
  /-- What the analysis reports. -/
  policy : Policy
  /-- Whether warnings count as errors. -/
  warningsAsErrors : Bool
  deriving DecidableEq

namespace Settings

/-- The settings where nothing was chosen. -/
def standard : Settings :=
  ⟨false, Policy.standard, false⟩

/-- Sets whether accepted tokens are logged. -/
def withTraceTokens (s : Settings) (enabled : Bool) : Settings :=
  { s with traceTokens := enabled }

/-- Sets whether warnings count as errors. -/
def withWarningsAsErrors (s : Settings) (enabled : Bool) : Settings :=
  { s with warningsAsErrors := enabled }

end Settings

end DiagramCheck
