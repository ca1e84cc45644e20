import DiagramCheck.Check
import DiagramCheck.Proofs.Acceptance
import DiagramCheck.Proofs.Collecting
import DiagramCheck.Proofs.Findings
import Mathlib

/-!
# The verdict of a check

A check of a source ends in one of three ways. It fails with the syntax error of the source, if
there is one. Otherwise the findings of the analysis decide: `Findings.Verdict` says what the check
answers for given findings, in terms of the findings alone, and `check_spec` that this is what it
answers. Nothing else enters: the collector's flag is a fact about the diagnostics
(`Findings.any_isError_reported`), and a trace of the tokens only adds to the log
(`value_check`).
-/

namespace DiagramCheck

/-! ## The verdict on findings -/

/-- A defect is shown as an error. -/
theorem Defect.isError_diagnostic (e : Defect) : e.diagnostic.isError = true := by
  cases e <;> rfl

/-- A warning is not shown as an error. -/
theorem Warning.isError_diagnostic (w : Warning) : w.diagnostic.isError = false := by
  cases w
  rfl

namespace Findings

/-- The findings as a check reports them: all errors and then all warnings, and if warnings are
denied, all of them as errors. -/
def reported (f : Findings) (denyWarnings : Bool) : List Diagnostic :=
  f.diagnostics.map fun d => { d with severity := if denyWarnings then .error else d.severity }

/-- Findings block a diagram when there are errors, or when there are warnings and these are
denied. -/
def Blocks (f : Findings) (denyWarnings : Bool) : Prop :=
  f.errors ≠ [] ∨ denyWarnings = true ∧ f.warnings ≠ []

/-- Where warnings are not denied, the findings are reported as they are. -/
theorem reported_false (f : Findings) : f.reported false = f.diagnostics :=
  List.map_id _

/-- The number of errors among the reported findings. -/
theorem errorCount_reported (f : Findings) (denyWarnings : Bool) :
    (CheckFailure.mk (f.reported denyWarnings)).errorCount =
      if denyWarnings then f.errors.length + f.warnings.length else f.errors.length := by
  cases denyWarnings with
  | false =>
    have herrors : (f.errors.map Defect.diagnostic).filter Diagnostic.isError =
        f.errors.map Defect.diagnostic := by
      rw [List.filter_eq_self, List.forall_mem_map]
      exact fun e _ => e.isError_diagnostic
    have hwarnings : (f.warnings.map Warning.diagnostic).filter Diagnostic.isError = [] := by
      rw [List.filter_eq_nil_iff, List.forall_mem_map]
      exact fun w _ => Bool.eq_false_iff.1 w.isError_diagnostic
    rw [CheckFailure.errorCount, reported_false, diagnostics, List.filter_append, herrors,
      hwarnings, List.append_nil, List.length_map]
    rfl
  | true =>
    have hall : (f.reported true).filter Diagnostic.isError = f.reported true := by
      rw [List.filter_eq_self, reported, List.forall_mem_map]
      exact fun d _ => rfl
    rw [CheckFailure.errorCount, hall, reported, List.length_map, diagnostics, List.length_append,
      List.length_map, List.length_map]
    rfl

/-- One of the reported findings is an error exactly when the findings block. -/
theorem any_isError_reported {f : Findings} {denyWarnings : Bool} :
    (f.reported denyWarnings).any Diagnostic.isError = true ↔ f.Blocks denyWarnings := by
  -- There is an error exactly when their number is not zero.
  have hcount := f.errorCount_reported denyWarnings
  rw [CheckFailure.errorCount, ← List.countP_eq_length_filter] at hcount
  rw [List.any_eq_true, ← List.countP_pos_iff, hcount, Blocks, ← List.length_pos_iff,
    ← List.length_pos_iff]
  cases denyWarnings with
  | false => simp only [Bool.false_eq_true, if_false, false_and, or_false]
  | true =>
    simp only [if_true, true_and]
    omega

/-- What the collector makes of findings. -/
theorem check_eq (f : Findings) (denyWarnings : Bool) :
    f.check denyWarnings =
      if (f.reported denyWarnings).any Diagnostic.isError then .error ⟨f.reported denyWarnings⟩
      else .ok (f.reported denyWarnings) := by
  have hemitted : (if denyWarnings then f.diagnostics.map Diagnostic.asError
      else f.diagnostics) = f.reported denyWarnings := by
    cases denyWarnings with
    | false => exact f.reported_false.symm
    | true => rfl
  rw [check, hemitted, Collector.finish_emitAll]

/-- Findings do not block exactly when there are no errors, and no warnings that are denied. -/
theorem not_blocks_iff {f : Findings} {denyWarnings : Bool} :
    ¬f.Blocks denyWarnings ↔ f.errors = [] ∧ (denyWarnings = true → f.warnings = []) := by
  rw [Blocks, not_or, not_not, not_and, not_ne_iff]

/-- What a check answers for a source whose diagram has the findings `f`. -/
structure Verdict (f : Findings) (denyWarnings : Bool) (source : String)
    (answer : Except Failure Findings) : Prop where
  /-- The check passes exactly when nothing blocks, and its result are the findings. -/
  passes_iff : ∀ f', answer = .ok f' ↔
    f' = f ∧ f.errors = [] ∧ (denyWarnings = true → f.warnings = [])
  /-- In all other cases the check fails with the source and with all findings: the errors and then
  the warnings, as errors if warnings are denied and unchanged otherwise. -/
  fails : (¬∃ f', answer = .ok f') → ∃ failure, answer = .error (.blocked failure source) ∧
    failure.diagnostics = (f.errors.map Defect.diagnostic ++ f.warnings.map Warning.diagnostic).map
      (fun d => { d with severity := if denyWarnings then .error else d.severity }) ∧
    failure.errorCount =
      if denyWarnings then f.errors.length + f.warnings.length else f.errors.length

end Findings

/-- The answer for a diagram, with what the collector makes of its findings. -/
theorem Diagram.value_check (d : Diagram) (settings : Settings) (source : String) :
    (d.check settings source).value =
      let f := d.analyze settings.policy
      if (f.reported settings.warningsAsErrors).any Diagnostic.isError then
        .error (.blocked ⟨f.reported settings.warningsAsErrors⟩ source)
      else .ok f := by
  rw [check]
  simp only [Findings.check_eq]
  split
  · next ws hws =>
    split at hws
    · cases hws
    · next hany => rw [if_neg hany]
  · next failure hfailure =>
    split at hfailure
    · next hany =>
      cases hfailure
      rw [if_pos hany]
    · cases hfailure

/-- The findings of a diagram decide on the answer. -/
theorem Diagram.verdict_check (d : Diagram) (settings : Settings) (source : String) :
    (d.analyze settings.policy).Verdict settings.warningsAsErrors source
      (d.check settings source).value := by
  have hvalue := d.value_check settings source
  -- From here on the findings are any, and so is the policy that they were made under.
  generalize d.analyze settings.policy = f at hvalue ⊢
  generalize settings.warningsAsErrors = denyWarnings at hvalue ⊢
  by_cases hblocks : f.Blocks denyWarnings
  · rw [if_pos (Findings.any_isError_reported.2 hblocks)] at hvalue
    rw [hvalue]
    refine ⟨fun f' => ⟨nofun, fun ⟨_, hpasses⟩ => ?_⟩, fun _ => ⟨_, rfl, rfl, ?_⟩⟩
    · exact absurd hblocks (Findings.not_blocks_iff.2 hpasses)
    · exact f.errorCount_reported denyWarnings
  · rw [if_neg fun hany => hblocks (Findings.any_isError_reported.1 hany)] at hvalue
    rw [hvalue]
    refine ⟨fun f' => ⟨fun h => ?_, fun ⟨h, _⟩ => by rw [h]⟩, fun h => absurd ⟨f, rfl⟩ h⟩
    cases h
    exact ⟨rfl, Findings.not_blocks_iff.1 hblocks⟩

/-! ## The verdict on a source -/

/-- The answer for a source, without the log. -/
theorem value_check (settings : Settings) (source : String) :
    (check settings source).value =
      match Diagram.parse source with
      | .error e => .error (.malformed e source)
      | .ok d => (d.check settings source).value := by
  have hparsed : ((TokenStream.ofString source).parseLogged settings.traceTokens).value =
      Diagram.parse source := rfl
  simp only [check, Logged.after, hparsed]
  cases Diagram.parse source <;> rfl

/-- A source with a syntax error fails with that. -/
theorem value_check_of_error {settings : Settings} {source : String} {e : SyntaxError}
    (h : Diagram.parse source = .error e) :
    (check settings source).value = .error (.malformed e source) := by
  rw [value_check, h]

/-- A source that is a diagram is answered as the diagram is. -/
theorem value_check_of_ok {settings : Settings} {source : String} {d : Diagram}
    (h : Diagram.parse source = .ok d) :
    (check settings source).value = (d.check settings source).value := by
  rw [value_check, h]

/-- A check where nothing was chosen passes exactly for the texts of well-formed diagrams that are
nested not too deep. -/
theorem exists_value_check_standard_iff {source : String} :
    (∃ f, (check .standard source).value = .ok f) ↔
      ∃ d, Grammar.Derives (TokenStream.ofString source).tokens d ∧ d.nesting ≤ maxNesting ∧
        d.WellFormed := by
  -- Nothing but errors blocks, and these are ruled out by the form of the diagram.
  have hpasses : ∀ d, Diagram.parse source = .ok d →
      ((∃ f, (check .standard source).value = .ok f) ↔ d.WellFormed) := by
    intro d hd
    have hiff := (d.verdict_check .standard source).passes_iff
    rw [value_check_of_ok hd, ← Diagram.errors_analyze_eq_nil_iff]
    constructor
    · rintro ⟨f, hf⟩
      exact ((hiff f).1 hf).2.1
    · intro herrors
      exact ⟨_, (hiff _).2 ⟨rfl, herrors, nofun⟩⟩
  constructor
  · intro h
    cases hparse : Diagram.parse source with
    | error e =>
      obtain ⟨f, hf⟩ := h
      rw [value_check_of_error hparse] at hf
      cases hf
    | ok d =>
      obtain ⟨hderives, hdepth⟩ := Diagram.derives_of_parse hparse
      exact ⟨d, hderives, hdepth, (hpasses d hparse).1 h⟩
  · -- The reader builds a diagram that agrees with the derived one, which is enough.
    rintro ⟨d, hderives, hdepth, hd⟩
    obtain ⟨d', hparse, hagrees⟩ := Diagram.exists_parse_of_derives hderives hdepth
    exact (hpasses d' hparse).2 (hd.of_agrees hagrees)

/-- A check fails with a syntax error exactly when the source has that syntax error, and the failure
keeps the source. If the source is a diagram, its findings decide, and all of them are reported when
they block. So a check where nothing was chosen passes exactly for the texts of diagrams, nested not
too deep, that have a node, no id twice and no edge to an id that no node has. A trace of the tokens
never changes the answer. -/
theorem check_spec (settings : Settings) (source : String) :
    (∀ e src, (check settings source).value = .error (.malformed e src) ↔
      Diagram.parse source = .error e ∧ src = source) ∧
    (∀ d, Diagram.parse source = .ok d →
      (d.analyze settings.policy).Verdict settings.warningsAsErrors source
        (check settings source).value) ∧
    ((∃ f, (check .standard source).value = .ok f) ↔
      ∃ d, Grammar.Derives (TokenStream.ofString source).tokens d ∧ d.nesting ≤ maxNesting ∧
        d.WellFormed) ∧
    ∀ enabled, (check (settings.withTraceTokens enabled) source).value =
      (check settings source).value := by
  refine ⟨fun e src => ?_, fun d hd => ?_, ?_, fun enabled => ?_⟩
  · cases hparse : Diagram.parse source with
    | error e' =>
      rw [value_check_of_error hparse]
      constructor
      · intro h
        cases h
        exact ⟨rfl, rfl⟩
      · rintro ⟨h, rfl⟩
        cases h
        rfl
    | ok d =>
      rw [value_check_of_ok hparse]
      refine ⟨fun h => ?_, fun ⟨h, _⟩ => nomatch h⟩
      simp only [Diagram.value_check] at h
      split at h
      · cases h
      · cases h
  · rw [value_check_of_ok hd]
    exact d.verdict_check settings source
  · exact exists_value_check_standard_iff
  · rw [value_check, value_check]
    rfl

/-- In `node a { } node b { }` no edge points at `b`. The check passes with that warning, and fails
with one error when warnings are denied. -/
theorem check_spec_unreachable :
    let source := "node a \x7b \x7d node b \x7b \x7d"
    let b : Spanned := ⟨"b", Span.ofBounds 16 17⟩
    (check .standard source).value = .ok ⟨[], [.unreachableNode b]⟩ ∧
      ∃ failure, (check (Settings.standard.withWarningsAsErrors true) source).value =
        .error (.blocked failure source) ∧ failure.errorCount = 1 := by
  intro source b
  have hparse : Diagram.parse source =
      .ok ⟨[.ofId ⟨"a", Span.ofBounds 5 6⟩, .ofId b]⟩ := by cbv
  have hfindings : Diagram.analyze ⟨[.ofId ⟨"a", Span.ofBounds 5 6⟩, .ofId b]⟩ .standard =
      ⟨[], [.unreachableNode b]⟩ := by decide +kernel
  constructor
  · have hverdict := (check_spec .standard source).2.1 _ hparse
    refine (hverdict.passes_iff _).2 ⟨hfindings.symm, by rw [Settings.standard, hfindings], ?_⟩
    exact fun hdeny => absurd hdeny Bool.false_ne_true
  · have hverdict := (check_spec (Settings.standard.withWarningsAsErrors true) source).2.1 _ hparse
    rw [Settings.standard, Settings.withWarningsAsErrors, hfindings] at hverdict
    have hblocked : ¬∃ f', (check (Settings.standard.withWarningsAsErrors true) source).value =
        .ok f' := by
      rintro ⟨f', hf'⟩
      exact List.cons_ne_nil _ _ (((hverdict.passes_iff f').1 hf').2.2 rfl)
    obtain ⟨failure, hfailure, -, hcount⟩ := hverdict.fails hblocked
    exact ⟨failure, hfailure, hcount⟩

end DiagramCheck
