import DiagramCheck.Proofs.Alike
import DiagramCheck.Proofs.Verdict

/-!
# The trace of accepted tokens

A reading may log every token that the grammar accepts. `parseLogged_spec` says what the log of a
reading shows: with a trace, a record for each token of the source from the first one on, up to
where the reading stops; without one, none of these records; and behind them the size of the
diagram, if there is one. The trace only adds these records. What is read, and whatever else a check
answers and logs, is the same without it.

The reading stops in front of the token that decides on the error, or of the end of the input
(`TokenStream.AcceptedUpTo`). The accepted tokens are counted by the reader
(`ParseState.accepted_run_prefix`), and the number of the deciding token is theirs
(`Diagram.decidedAt_iff_of_parse`).
-/

namespace DiagramCheck

/-- An event as the log shows it: its level, its component, its message and its named values. -/
def LogEvent.record (e : LogEvent) : Level × String × String × List (String × String) :=
  (e.level, e.component.name, e.message, e.fields)

/-- The record of an accepted token: its text, and its line and column. -/
def Lexeme.acceptedRecord (x : Lexeme) : Level × String × String × List (String × String) :=
  (.trace, "corner_parser::parser", "Accepted token",
    [("token", x.token.text), ("position", s!"{x.position.line}:{x.position.column}")])

/-- The record of the size of a diagram that has been read. -/
def Diagram.parsedRecord (d : Diagram) : Level × String × String × List (String × String) :=
  (.debug, "corner_parser::parser", "Parsed diagram",
    [("nodes", toString d.nodeCount), ("edges", toString d.edgeCount)])

/-- `ts.AcceptedUpTo result m` says that a reading of the stream `ts` with this result comes past
`m` of its tokens: all but the end of the input if it passes, and those in front of the one that
decides on the error if it fails. That one is the token that the error shows, or the arrow behind
the name that it shows. -/
inductive TokenStream.AcceptedUpTo (ts : TokenStream) : Except SyntaxError Diagram → Nat → Prop
  /-- All words of the stream. -/
  | passed (d : Diagram) : AcceptedUpTo ts (.ok d) ts.words.length
  /-- What is in front of the deciding token. -/
  | failed {e : SyntaxError} {m : Nat} (h : e.DecidedAt ts.toList m) :
    AcceptedUpTo ts (.error e) m

namespace ParseState

/-- The accepted tokens are the first ones. -/
theorem accepted_run_prefix (s : ParseState) (stop : Lexeme) (xs : List Lexeme) :
    (s.run stop xs).accepted <+: xs := by
  induction xs generalizing s with
  | nil => exact List.nil_prefix
  | cons x xs ih =>
    rw [run]
    cases s.step x with
    | ok s' => exact List.prefix_cons_inj x |>.2 (ih s')
    | error e => exact List.nil_prefix

/-- A reading that passes accepts all tokens. -/
theorem accepted_run_eq_of_ok {s : ParseState} {stop : Lexeme} {xs : List Lexeme} {d : Diagram}
    (h : (s.run stop xs).result = .ok d) : (s.run stop xs).accepted = xs := by
  have hrun := (run_eq_ok_iff.1 h).run_eq stop []
  rw [List.append_nil] at hrun
  rw [hrun]
  exact List.append_nil xs

end ParseState

/-- The accepted tokens of a source are the ones at the front of its stream, as many as there
are. -/
theorem TokenStream.accepted_eq_take (ts : TokenStream) :
    ts.parse.accepted = ts.toList.take ts.parse.accepted.length := by
  have hwords := ParseState.start.accepted_run_prefix ts.stop ts.words
  exact List.prefix_iff_eq_take.1 (hwords.trans (List.prefix_append ts.words [ts.stop]))

/-- A reading of a source comes past its accepted tokens, and past no other number of tokens. -/
theorem TokenStream.acceptedUpTo_iff {source : String} {m : Nat} :
    (ofString source).AcceptedUpTo (Diagram.parse source) m ↔
      m = (ofString source).parse.accepted.length := by
  cases hparse : Diagram.parse source with
  | ok d =>
    have haccepted : (ofString source).parse.accepted = (ofString source).words :=
      ParseState.accepted_run_eq_of_ok hparse
    rw [haccepted]
    constructor
    · rintro ⟨⟩
      rfl
    · rintro rfl
      exact .passed d
  | error e =>
    rw [← Diagram.decidedAt_iff_of_parse hparse]
    constructor
    · rintro ⟨⟩
      assumption
    · exact .failed

/-- What the log of a reading shows. -/
theorem Parse.map_record_log (p : Parse) (traced : Bool) :
    (p.log traced).map LogEvent.record =
      (if traced then p.accepted.map Lexeme.acceptedRecord else []) ++
        match p.result with
        | .ok d => [d.parsedRecord]
        | .error _ => [] := by
  rw [log, List.map_append]
  congr 1
  · cases traced with
    | false => rfl
    | true => exact List.map_map
  · cases p.result <;> rfl

/-- Without the records of accepted tokens, the log of a reading does not show whether it was
traced. -/
theorem Parse.filter_log (p : Parse) (traced : Bool) :
    (p.log traced).filter (fun e => e.message != "Accepted token") = p.log false := by
  have haccepted : (p.accepted.map fun x => LogEvent.tokenAccepted x.token x.position).filter
      (fun e => e.message != "Accepted token") = [] := by
    rw [List.filter_eq_nil_iff, List.forall_mem_map]
    exact fun x _ => Bool.false_ne_true
  rw [log, log, List.filter_append]
  cases traced with
  | false => cases p.result <;> rfl
  | true =>
    rw [if_pos rfl, haccepted]
    cases p.result <;> rfl

/-! ## The log of a check -/

/-- What a check logs about a diagram that has been read: the size of it, and the numbers of its
findings. -/
def Diagram.checkedEvents (d : Diagram) (settings : Settings) : List LogEvent :=
  let findings := d.analyze settings.policy
  [.parsePassed d.nodeCount d.edgeCount, .diagramShown, d.analysisEvent findings,
    .diagramChecked d.nodeCount d.edgeCount findings.errors.length findings.warnings.length]

/-- The log of a check: that of the reading, and then what there is to say of the diagram. -/
theorem log_check (settings : Settings) (source : String) :
    (check settings source).log = .parseStarted (Text.byteLength source.toList) ::
      ((TokenStream.ofString source).parse.log settings.traceTokens ++
        match Diagram.parse source with
        | .ok d => d.checkedEvents settings
        | .error _ => []) := by
  have hparsed : (TokenStream.ofString source).parseLogged settings.traceTokens =
      ⟨Diagram.parse source, (TokenStream.ofString source).parse.log settings.traceTokens⟩ := rfl
  have hchecked : ∀ d : Diagram, (d.check settings source).log =
      [d.analysisEvent (d.analyze settings.policy), .diagramChecked d.nodeCount d.edgeCount
        (d.analyze settings.policy).errors.length (d.analyze settings.policy).warnings.length] := by
    intro d
    rw [Diagram.check]
    split <;> rfl
  rw [check, hparsed]
  cases Diagram.parse source with
  | error e => rfl
  | ok d => simp [Logged.after, hchecked, Diagram.checkedEvents]

/-- A trace adds the records of accepted tokens to the log of a check, and nothing else. -/
theorem filter_log_check (settings : Settings) (source : String) (traced : Bool) :
    (check (settings.withTraceTokens traced) source).log.filter
        (fun e => e.message != "Accepted token") =
      (check (settings.withTraceTokens false) source).log := by
  -- No event behind the reading is one of these.
  have hrest : ∀ d : Diagram, (d.checkedEvents settings).filter
      (fun e => e.message != "Accepted token") = d.checkedEvents settings := by
    intro d
    rw [Diagram.checkedEvents, Diagram.analysisEvent]
    split <;> rfl
  rw [log_check, log_check, List.filter_cons_of_pos rfl, List.filter_append, Parse.filter_log]
  cases Diagram.parse source with
  | error e => rfl
  | ok d => exact congrArg (fun events => _ :: (_ ++ events)) (hrest d)

/-! ## The specification of the trace -/

/-- What a reading answers does not depend on whether it is traced. With a trace, its log shows a
record for each of the first tokens of the source: for all of them if it passes, and for those in
front of the deciding one if it fails, where the end of the input is never among them. Without a
trace there are none of these records. In both cases the size of the diagram follows exactly if
there is one. A check answers the same with a trace, and logs the same but for these records. -/
theorem parseLogged_spec (source : String) :
    let tokens := TokenStream.ofString source
    (∀ traced, (tokens.parseLogged traced).value = Diagram.parse source) ∧
    (∃ m, (∀ j, tokens.AcceptedUpTo (Diagram.parse source) j ↔ j = m) ∧
      .endOfInput ∉ (tokens.toList.take m).map Lexeme.token ∧
      ∀ traced, (tokens.parseLogged traced).log.map LogEvent.record =
        (if traced then (tokens.toList.take m).map Lexeme.acceptedRecord else []) ++
          match Diagram.parse source with
          | .ok d => [d.parsedRecord]
          | .error _ => []) ∧
    ∀ (settings : Settings) (traced : Bool),
      (check (settings.withTraceTokens traced) source).value =
          (check (settings.withTraceTokens false) source).value ∧
        (check (settings.withTraceTokens traced) source).log.filter
            (fun e => e.message != "Accepted token") =
          (check (settings.withTraceTokens false) source).log := by
  intro tokens
  refine ⟨fun _ => rfl, ⟨_, fun _ => TokenStream.acceptedUpTo_iff, ?_, fun traced => ?_⟩,
    fun settings traced => ⟨?_, filter_log_check settings source traced⟩⟩
  · -- The accepted tokens are words, and the end of the input is none.
    have hwords : tokens.parse.accepted <+: tokens.words :=
      ParseState.start.accepted_run_prefix tokens.stop tokens.words
    rw [← tokens.accepted_eq_take, List.mem_map]
    rintro ⟨x, hx, htoken⟩
    exact (Cursor.ofString source).stream_ended.words_token x (hwords.subset hx) htoken
  · have hlog := tokens.parse.map_record_log traced
    rw [tokens.accepted_eq_take] at hlog
    exact hlog
  · rw [value_check, value_check]
    rfl

/-- In `node A { calls B -> C` the arrow decides that `B` is no source: the trace shows the five
tokens in front of it, up to `B`, and no size of a diagram. -/
theorem parseLogged_spec_arrow :
    let tokens := TokenStream.ofString "node A \x7b calls B -> C"
    (tokens.parseLogged true).log.map LogEvent.record =
        (tokens.toList.take 5).map Lexeme.acceptedRecord ∧
      (tokens.toList.take 5).map Lexeme.token =
        [.node, .identifier "A", .lbrace, .edge, .identifier "B"] ∧
      (tokens.parseLogged false).log.map LogEvent.record = [] := by
  intro tokens
  obtain ⟨-, ⟨m, hm, -, hrecords⟩, -⟩ := parseLogged_spec "node A \x7b calls B -> C"
  have hparse : Diagram.parse "node A \x7b calls B -> C" =
      .error (.edgeSourceMismatch ⟨"A", .ofBounds 5 6⟩ ⟨"B", .ofBounds 15 16⟩
        (.ofCounts 1 16)) := by cbv
  have hname : tokens.toList[4]? =
      some ⟨.identifier "B", .ofCounts 1 16, .ofBounds 15 16⟩ := by decide +kernel
  have harrow : tokens.toList[5]? = some ⟨.arrow, .ofCounts 1 18, .ofBounds 17 19⟩ := by
    decide +kernel
  rw [hparse] at hm hrecords
  obtain rfl : 5 = m := (hm 5).1 (.failed (.edgeSourceMismatch hname harrow rfl))
  refine ⟨?_, by decide +kernel, hrecords false⟩
  exact (hrecords true).trans (List.append_nil _)

end DiagramCheck
