import DiagramCheck.Diagnostic.Collector

/-!
# What a collector holds

`Collector.Holds` is the invariant of a collector: it holds the diagnostics given to it so far, in
order, and its flag says whether one of them is an error. Every diagnostic that is emitted keeps it,
so the end of a check depends on nothing but the diagnostics (`Collector.finish_emitAll`).

A collector may be given diagnostics one at a time and in batches. After any row of such calls it
holds what the calls have brought, in order (`Collector.holds_callAll`), and all its answers are
about these diagnostics (`Collector.callAll_spec`): their number, whether one is an error, and a
failure that speaks for its first error (`CheckFailure.exists_message_eq`).
-/

namespace DiagramCheck

namespace Collector

/-- `c.Holds ds` says that `c` has gathered the diagnostics `ds`. -/
structure Holds (c : Collector) (ds : List Diagnostic) : Prop where
  /-- The diagnostics are all there, in order. -/
  diagnostics_eq : c.diagnostics = ds
  /-- The flag is set exactly when one of them is an error. -/
  hasErrors_eq : c.hasErrors = ds.any Diagnostic.isError

/-- A new collector holds nothing. -/
theorem holds_empty : empty.Holds [] :=
  ⟨rfl, rfl⟩

/-- One more diagnostic comes behind the others. -/
theorem Holds.emit {c : Collector} {ds : List Diagnostic} (h : c.Holds ds) (d : Diagnostic) :
    (c.emit d).Holds (ds ++ [d]) := by
  constructor
  · rw [Collector.emit, h.diagnostics_eq]
  · rw [Collector.emit, h.hasErrors_eq, List.any_append, List.any_cons, List.any_nil,
      Bool.or_false]

/-- More diagnostics come behind the others in their order. -/
theorem Holds.emitAll {c : Collector} {ds : List Diagnostic} (h : c.Holds ds)
    (ds' : List Diagnostic) : (c.emitAll ds').Holds (ds ++ ds') := by
  induction ds' generalizing c ds with
  | nil => rwa [List.append_nil]
  | cons d ds' ih =>
    rw [List.append_cons]
    exact ih (h.emit d)

/-- The end of a check, given what the collector holds. -/
theorem Holds.finish_eq {c : Collector} {ds : List Diagnostic} (h : c.Holds ds) :
    c.finish = if ds.any Diagnostic.isError then .error ⟨ds⟩ else .ok ds := by
  rw [finish, h.hasErrors_eq, h.diagnostics_eq]

/-- A check that emits some diagnostics fails with all of them when one is an error, and passes with
all of them otherwise. -/
theorem finish_emitAll (ds : List Diagnostic) :
    (empty.emitAll ds).finish = if ds.any Diagnostic.isError then .error ⟨ds⟩ else .ok ds :=
  (holds_empty.emitAll ds).finish_eq

/-! ## Rows of calls -/

/-- A call that gives diagnostics to a collector. -/
inductive Call
  /-- One diagnostic. -/
  | emit (d : Diagnostic)
  /-- A batch of diagnostics. -/
  | emitAll (ds : List Diagnostic)

/-- The diagnostics that a call brings. -/
def Call.given : Call → List Diagnostic
  | .emit d => [d]
  | .emitAll ds => ds

/-- Answers a call. -/
def call (c : Collector) : Call → Collector
  | .emit d => c.emit d
  | .emitAll ds => c.emitAll ds

/-- Answers calls one after the other. -/
def callAll (c : Collector) (calls : List Call) : Collector :=
  calls.foldl call c

/-- What a call brings comes behind what the collector holds. -/
theorem Holds.call {c : Collector} {ds : List Diagnostic} (h : c.Holds ds) (x : Call) :
    (c.call x).Holds (ds ++ x.given) := by
  cases x with
  | emit d => exact h.emit d
  | emitAll ds' => exact h.emitAll ds'

/-- After a row of calls a collector holds what they have brought, behind what it held before. -/
theorem Holds.callAll {c : Collector} {ds : List Diagnostic} (h : c.Holds ds) (calls : List Call) :
    (c.callAll calls).Holds (ds ++ calls.flatMap Call.given) := by
  induction calls generalizing c ds with
  | nil => rwa [List.flatMap_nil, List.append_nil]
  | cons x calls ih =>
    rw [List.flatMap_cons, ← List.append_assoc]
    exact ih (h.call x)

/-- A new collector holds what a row of calls has brought. -/
theorem holds_callAll (calls : List Call) :
    (empty.callAll calls).Holds (calls.flatMap Call.given) :=
  holds_empty.callAll calls

/-- A batch is the same as its diagnostics one by one. -/
theorem call_emitAll (c : Collector) (ds : List Diagnostic) :
    c.call (.emitAll ds) = c.callAll (ds.map .emit) := by
  rw [callAll, List.foldl_map]
  rfl

end Collector

/-! ## What a failed check says -/

/-- A diagnostic is an error when its severity says so. -/
theorem Diagnostic.isError_iff {d : Diagnostic} : d.isError = true ↔ d.severity = .error :=
  beq_iff_eq

/-- One of some diagnostics is an error when the severity of one says so. -/
theorem Diagnostic.any_isError_iff {ds : List Diagnostic} :
    ds.any isError = true ↔ ∃ d ∈ ds, d.severity = .error := by
  simp only [List.any_eq_true, isError_iff]

namespace CheckFailure

/-- A failure with an error among its diagnostics counts at least one. -/
theorem errorCount_pos {f : CheckFailure} (h : ∃ d ∈ f.diagnostics, d.severity = .error) :
    1 ≤ f.errorCount := by
  obtain ⟨d, hmem, hd⟩ := h
  exact List.length_pos_of_mem (List.mem_filter.2 ⟨hmem, Diagnostic.isError_iff.2 hd⟩)

/-- A failure with an error among its diagnostics shows the first one, whatever stands in front of
it, and how many other diagnostics there are, if there are any. -/
theorem exists_message_eq {f : CheckFailure} (h : ∃ d ∈ f.diagnostics, d.severity = .error) :
    ∃ before d after, f.diagnostics = before ++ d :: after ∧
      (∀ e ∈ before, e.severity ≠ .error) ∧ d.severity = .error ∧
      f.message = d.display ++
        if 1 < f.diagnostics.length then s!" (+{f.diagnostics.length - 1} more)" else "" := by
  cases hfind : f.diagnostics.find? Diagnostic.isError with
  | none =>
    obtain ⟨d, hmem, hd⟩ := h
    exact absurd (Diagnostic.isError_iff.2 hd) (List.find?_eq_none.1 hfind d hmem)
  | some d =>
    obtain ⟨hd, before, after, hdiagnostics, hbefore⟩ := List.find?_eq_some_iff_append.1 hfind
    refine ⟨before, d, after, hdiagnostics, fun e he herror => ?_, Diagnostic.isError_iff.1 hd, ?_⟩
    · have hnot := hbefore e he
      rw [Diagnostic.isError_iff.2 herror] at hnot
      cases hnot
    · have hleading : f.leading? = some d := by
        rw [leading?, hfind]
        rfl
      simp only [message, hleading]
      by_cases hmore : 1 < f.diagnostics.length
      · rw [if_pos hmore, if_pos hmore]
        simp only [String.append_assoc]
        rfl
      · rw [if_neg hmore, if_neg hmore, String.append_empty]

end CheckFailure

namespace Collector

/-- A check fails exactly when one of the diagnostics is an error, and the failure has all of
them. -/
theorem Holds.finish_eq_error_iff {c : Collector} {ds : List Diagnostic} (h : c.Holds ds)
    {failure : CheckFailure} : c.finish = .error failure ↔
      failure.diagnostics = ds ∧ ∃ d ∈ ds, d.severity = .error := by
  rw [h.finish_eq, ← Diagnostic.any_isError_iff]
  split
  · next hany =>
    rw [Except.error.injEq]
    constructor
    · rintro rfl
      exact ⟨rfl, hany⟩
    · rintro ⟨rfl, -⟩
      rfl
  · next hany => exact ⟨nofun, fun ⟨_, hany'⟩ => absurd hany' hany⟩

/-- A check passes exactly when none of the diagnostics is an error, with all of them. -/
theorem Holds.finish_eq_ok_iff {c : Collector} {ds : List Diagnostic} (h : c.Holds ds)
    {passed : List Diagnostic} : c.finish = .ok passed ↔
      passed = ds ∧ ∀ d ∈ ds, d.severity ≠ .error := by
  have hnone : (∀ d ∈ ds, d.severity ≠ .error) ↔ ¬ds.any Diagnostic.isError = true := by
    rw [Diagnostic.any_isError_iff, not_exists]
    exact forall_congr' fun d => not_and.symm
  rw [h.finish_eq, hnone]
  split
  · next hany => exact ⟨nofun, fun ⟨_, hnot⟩ => absurd hany hnot⟩
  · next hany =>
    rw [Except.ok.injEq]
    exact ⟨fun hpassed => ⟨hpassed.symm, hany⟩, fun ⟨hpassed, _⟩ => hpassed.symm⟩

/-- What a collector answers that was given the diagnostics `ds`. -/
structure Answers (c : Collector) (ds : List Diagnostic) : Prop where
  /-- It counts all of them. -/
  size_eq : c.size = ds.length
  /-- It is empty when there are none. -/
  isEmpty_iff : c.isEmpty = true ↔ ds = []
  /-- It knows whether one of them is an error. -/
  hasErrors_iff : c.hasErrors = true ↔ ∃ d ∈ ds, d.severity = .error
  /-- The check passes exactly when none of them is an error, and returns them in order. -/
  passes_iff : ∀ passed, c.finish = .ok passed ↔ passed = ds ∧ ∀ d ∈ ds, d.severity ≠ .error
  /-- Otherwise it fails, and the failure has them in order. -/
  fails_iff : ∀ failure, c.finish = .error failure ↔
    failure.diagnostics = ds ∧ ∃ d ∈ ds, d.severity = .error
  /-- The failure counts at least one error. -/
  errorCount_pos : ∀ failure, c.finish = .error failure → 1 ≤ failure.errorCount
  /-- The failure shows the first error and the number of all other diagnostics, if there are
  any. -/
  message_eq : ∀ failure, c.finish = .error failure → ∃ before d after,
    ds = before ++ d :: after ∧ (∀ e ∈ before, e.severity ≠ .error) ∧ d.severity = .error ∧
      failure.message =
        d.display ++ if 1 < ds.length then s!" (+{ds.length - 1} more)" else ""

/-- What a collector holds decides on all of its answers. -/
theorem Holds.answers {c : Collector} {ds : List Diagnostic} (h : c.Holds ds) : c.Answers ds where
  size_eq := congrArg List.length h.diagnostics_eq
  isEmpty_iff := by rw [isEmpty, h.diagnostics_eq, List.isEmpty_iff]
  hasErrors_iff := by rw [h.hasErrors_eq, Diagnostic.any_isError_iff]
  passes_iff _ := h.finish_eq_ok_iff
  fails_iff _ := h.finish_eq_error_iff
  errorCount_pos failure hfailure := by
    obtain ⟨rfl, herror⟩ := h.finish_eq_error_iff.1 hfailure
    exact CheckFailure.errorCount_pos herror
  message_eq failure hfailure := by
    obtain ⟨rfl, herror⟩ := h.finish_eq_error_iff.1 hfailure
    exact CheckFailure.exists_message_eq herror

/-- After any row of calls, a new collector answers for the diagnostics that these have brought. A
batch is the same as its diagnostics one by one. -/
theorem callAll_spec (calls : List Call) :
    (empty.callAll calls).Answers (calls.flatMap Call.given) ∧
      ∀ (c : Collector) ds, c.call (.emitAll ds) = c.callAll (ds.map .emit) :=
  ⟨(holds_callAll calls).answers, call_emitAll⟩

/-- A warning, and then an error and a warning in a batch: the check fails with all three, and the
error speaks for them. -/
theorem callAll_spec_mixed :
    let unreachable : Diagnostic := .warning "node `b` is unreachable"
    let dangling : Diagnostic := .error "edge from `a` targets undeclared node `x`"
    let collector := empty.callAll [.emit unreachable, .emitAll [dangling, unreachable]]
    let failure : CheckFailure := ⟨[unreachable, dangling, unreachable]⟩
    collector.hasErrors = true ∧ collector.finish = .error failure ∧
      failure.message = "error: edge from `a` targets undeclared node `x` (+2 more)" := by
  intro unreachable dangling collector failure
  have hanswers := (callAll_spec [.emit unreachable, .emitAll [dangling, unreachable]]).1
  have herror : ∃ d ∈ failure.diagnostics, d.severity = .error :=
    ⟨dangling, List.mem_cons_of_mem _ List.mem_cons_self, rfl⟩
  exact ⟨hanswers.hasErrors_iff.2 herror, (hanswers.fails_iff failure).2 ⟨rfl, herror⟩,
    by decide +kernel⟩

end Collector

end DiagramCheck
