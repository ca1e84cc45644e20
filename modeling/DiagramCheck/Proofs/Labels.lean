import DiagramCheck.Proofs.Accounting
import DiagramCheck.Proofs.Enclosure
import DiagramCheck.Proofs.FirstFault
import DiagramCheck.Proofs.Verdict
import DiagramCheck.Proofs.Warnings

/-!
# Where the labels of diagnostics point

Whatever a check of a source has to show, it shows at the right place of that source
(`check_pointsInto`). `Code.Pinpoints` says for each code which spans these are: the token or the
name that is at fault, and the earlier or enclosing declaration that goes with it.

The spans come from the lexer, so they lie between characters (`Lexeme.StandsIn.isInside`), and each
is carried along with the text that stands there: by the reader into its error
(`SyntaxError.pinpoints`), or into the diagram and from there by the two traversals into the
findings (`Diagram.pinpoints_of_mem_errors`, `Diagram.pinpoints_of_mem_warnings`).
-/

namespace DiagramCheck

open Text

/-! ## Places in a source -/

/-- A span lies inside a source when it does not end behind it and both ends are between
characters. -/
structure Span.IsInside (span : Span) (source : String) : Prop where
  /-- The span does not end before it starts. -/
  start_le : span.start ≤ span.stop
  /-- The span does not end behind the source. -/
  stop_le : span.stop ≤ source.utf8ByteSize
  /-- The span starts between characters. -/
  isValid_start : (⟨span.start⟩ : String.Pos.Raw).IsValid source
  /-- The span stops between characters. -/
  isValid_stop : (⟨span.stop⟩ : String.Pos.Raw).IsValid source

/-- A span that cuts a source lies inside of it. -/
theorem Span.Splits.isInside {span : Span} {source : String} {before text after : List Char}
    (h : span.Splits source.toList before text after) : span.IsInside source := by
  obtain ⟨hstart, hstop⟩ := h.isValid
  refine ⟨span.start_le_stop, ?_, hstart, hstop⟩
  have hsize := byteLength_toList source
  rw [h.source_eq, byteLength_append, h.stop_eq] at hsize
  omega

/-- A span where a text stands lies inside of the source. -/
theorem Span.Marks.isInside {span : Span} {source text : String} (h : span.Marks source text) :
    span.IsInside source := by
  obtain ⟨before, after, hsplits⟩ := h
  exact hsplits.isInside

/-- `x.StandsIn source` says that the lexeme `x` is one of the source, and that its span is where
its token stands. -/
structure Lexeme.StandsIn (x : Lexeme) (source : String) : Prop where
  /-- It is one of the tokens of the source, or the end of the input. -/
  mem : x ∈ (TokenStream.ofString source).toList
  /-- The text at its span spells it, unless it is the end of the input. -/
  spelled : x.token ≠ .endOfInput → ∃ before text after,
    x.span.Splits source.toList before text after ∧ x.token.SpelledBy text after
  /-- Its span is the empty one behind the last byte exactly when it is the end of the input. -/
  span_eq_iff : x.span = Span.emptyAt source.utf8ByteSize ↔ x.token = .endOfInput

/-- Each token that is read from a source stands in it. -/
theorem TokenStream.standsIn_of_mem {source : String} {x : Lexeme}
    (h : x ∈ (ofString source).toList) : x.StandsIn source := by
  have hended := (Cursor.ofString source).stream_ended
  refine ⟨h, fun hne => ?_, ?_⟩ <;> rcases List.mem_append.1 h with hword | hstop
  · obtain ⟨before, text, after, hsplits, hspelled, -⟩ :=
      (cutsUp source).spelled x.placed (List.mem_map_of_mem hword)
    exact ⟨before, text, after, hsplits, hspelled⟩
  · rw [List.mem_singleton.1 hstop] at hne
    exact absurd hended.stop_token hne
  · -- A word has bytes, so its span is not empty.
    have hlt := ((Cursor.ofString source).stream_spans.1 x hword).2
    refine iff_of_false (fun hspan => ?_) (hended.words_token x hword)
    rw [hspan, Span.emptyAt] at hlt
    exact absurd hlt (Nat.lt_irrefl _)
  · obtain ⟨htoken, hspan⟩ := Prod.mk.inj (placed_stop source)
    rw [List.mem_singleton.1 hstop]
    exact iff_of_true hspan htoken

/-- What stands in a source lies inside of it. -/
theorem Lexeme.StandsIn.isInside {x : Lexeme} {source : String} (h : x.StandsIn source) :
    x.span.IsInside source := by
  by_cases htoken : x.token = .endOfInput
  · have hvalid := String.Pos.Raw.isValid_rawEndPos (s := source)
    rw [h.span_eq_iff.2 htoken]
    exact ⟨Nat.le_refl _, Nat.le_refl _, hvalid, hvalid⟩
  · obtain ⟨before, text, after, hsplits, -⟩ := h.spelled htoken
    exact hsplits.isInside

/-! ## Diagnostics and their places -/

namespace Diagnostic

/-- The spans of the labels that mark the fault itself. -/
def primarySpans (d : Diagnostic) : List Span :=
  (d.labels.filter Label.isPrimary).map Label.span

/-- The spans of the other labels. -/
def secondarySpans (d : Diagnostic) : List Span :=
  (d.labels.filter fun l => !l.isPrimary).map Label.span

/-- The span of each label is among the primary or the secondary ones. -/
theorem span_mem {d : Diagnostic} {l : Label} (h : l ∈ d.labels) :
    l.span ∈ d.primarySpans ++ d.secondarySpans := by
  rw [List.mem_append]
  cases hprimary : l.isPrimary with
  | true => exact .inl (List.mem_map_of_mem (List.mem_filter.2 ⟨h, hprimary⟩))
  | false => exact .inr (List.mem_map_of_mem (List.mem_filter.2 ⟨h, by rw [hprimary]; rfl⟩))

end Diagnostic

/-- The token that an error shows, unless it shows a name. -/
def SyntaxError.found? : SyntaxError → Option Lexeme
  | .unexpectedToken _ found => some found
  | .expectedIdentifier found => some found
  | .edgeSourceMismatch .. => none
  | .nestingTooDeep found => some found

/-- `Code.Pinpoints source code primary secondary` says that `primary` and `secondary` are the spans
that a diagnostic with the code has to mark in the source: what is at fault, and what goes with
it. -/
inductive Code.Pinpoints (source : String) : Code → List Span → List Span → Prop
  /-- The token at fault. -/
  | token {e : SyntaxError} {found : Lexeme} (herror : Diagram.parse source = .error e)
    (hfound : e.found? = some found) (hstands : found.StandsIn source) :
    Pinpoints source e.code [found.span] []
  /-- The name that is written in front of an arrow and is not that of the enclosing node, and the
  name of that node: the one whose body was opened last and not closed so far. -/
  | edgeSourceMismatch {node found : Spanned} {position : Position} {xs rest : List Lexeme}
    {edge arrow : Lexeme} {outer : List Spanned}
    (herror : Diagram.parse source = .error (.edgeSourceMismatch node found position))
    (hwords : (TokenStream.ofString source).words =
      xs ++ [edge, ⟨.identifier found.text, position, found.span⟩, arrow] ++ rest)
    (hedge : edge.token = .edge) (harrow : arrow.token = .arrow)
    (hopen : OpenBodies xs (node :: outer)) (hne : found.text ≠ node.text)
    (hfound : found.span.Marks source found.text) (hnode : node.span.Marks source node.text) :
    Pinpoints source .edgeSourceMismatch [found.span] [node.span]
  /-- A repeated id, and an earlier one with the same text. -/
  | duplicateNodeId {d : Diagram} {before after : List Spanned} {id first : Spanned}
    (hd : Diagram.parse source = .ok d) (hids : d.ids = before ++ id :: after)
    (hfirst : first ∈ before) (htext : first.text = id.text)
    (hprecedes : first.span.Precedes id.span) (hid : id.span.Marks source id.text)
    (hmarks : first.span.Marks source id.text) :
    Pinpoints source .duplicateNodeId [id.span] [first.span]
  /-- The target of an edge that is the id of no node, and the name of the node that the edge is
  declared in. -/
  | danglingEdge {d : Diagram} {n : Node} {e : Edge} (hd : Diagram.parse source = .ok d)
    (hn : n ∈ d.nodes) (he : e ∈ n.edges) (htarget : e.target.text ∉ d.idTexts)
    (hmarks : e.target.span.Marks source e.target.text) (hid : n.id.span.Marks source n.id.text) :
    Pinpoints source .danglingEdge [e.target.span] [n.id.span]
  /-- Nothing, where there is no node. -/
  | emptyDiagram {d : Diagram} (hd : Diagram.parse source = .ok d) (hempty : d.topLevel = []) :
    Pinpoints source .emptyDiagram [] []
  /-- The id of a node that no edge points at. -/
  | unreachableNode {d : Diagram} {id : Spanned} (hd : Diagram.parse source = .ok d)
    (hid : id ∈ d.ids) (htarget : id.text ∉ d.targetTexts) (hmarks : id.span.Marks source id.text) :
    Pinpoints source .unreachableNode [id.span] []

/-- What is pinpointed lies inside of the source. -/
theorem Code.Pinpoints.isInside {source : String} {code : Code} {primary secondary : List Span}
    (h : code.Pinpoints source primary secondary) :
    ∀ span ∈ primary ++ secondary, span.IsInside source := by
  cases h with
  | token _ _ hstands => simpa using hstands.isInside
  | edgeSourceMismatch _ _ _ _ _ _ hfound hnode => simpa using ⟨hfound.isInside, hnode.isInside⟩
  | duplicateNodeId _ _ _ _ _ hid hmarks => simpa using ⟨hid.isInside, hmarks.isInside⟩
  | danglingEdge _ _ _ _ hmarks hid => simpa using ⟨hmarks.isInside, hid.isInside⟩
  | emptyDiagram => nofun
  | unreachableNode _ _ _ hmarks => simpa using hmarks.isInside

/-- A diagnostic points into a source when all its labels lie inside of the source, and mark what
its code says that they mark. -/
structure Diagnostic.PointsInto (d : Diagnostic) (source : String) : Prop where
  /-- All labels lie inside of the source. -/
  inside : ∀ l ∈ d.labels, l.span.IsInside source
  /-- The labels mark what is at fault and what goes with it. -/
  pinpoints : ∃ code, d.code = some code ∧ code.Pinpoints source d.primarySpans d.secondarySpans

/-- A diagnostic points into a source if its labels are at the right places. -/
theorem Code.Pinpoints.pointsInto {source : String} {code : Code} {d : Diagnostic}
    (h : code.Pinpoints source d.primarySpans d.secondarySpans) (hcode : d.code = some code) :
    d.PointsInto source :=
  ⟨fun _ hl => h.isInside _ (d.span_mem hl), code, hcode, h⟩

/-! ## Syntax errors -/

namespace SyntaxError

/-- An error that shows a token marks that token, and nothing else. -/
theorem spans_diagnostic {e : SyntaxError} {found : Lexeme} (h : e.found? = some found) :
    e.diagnostic.primarySpans = [found.span] ∧ e.diagnostic.secondarySpans = [] := by
  cases e with
  | unexpectedToken expected found' =>
    -- The hint about open braces changes no label.
    cases h
    rw [diagnostic]
    split <;> exact ⟨rfl, rfl⟩
  | edgeSourceMismatch => cases h
  | expectedIdentifier | nestingTooDeep =>
    cases h
    exact ⟨rfl, rfl⟩

/-- The code of an error is that of its diagnostic. -/
theorem code_diagnostic (e : SyntaxError) : e.diagnostic.code = some e.code := by
  cases e with
  | unexpectedToken =>
    rw [diagnostic]
    split <;> rfl
  | _ => rfl

end SyntaxError

/-- An error for what the grammar does not ask for shows the token that was found. -/
theorem Wanted.found?_refuse (w : Wanted) (x : Lexeme) : (w.refuse x).found? = some x := by
  cases w <;> rfl

/-- Behind a name that is not that of the node at hand, the arrow is refused. -/
theorem ParseState.ne_of_step_eq_error {finished enclosing : List Node} {node : Node}
    {name : Spanned} {position : Position} {x : Lexeme} {e : SyntaxError}
    (h : step (.inside finished enclosing (.edgeArrow node name position)) x = .error e)
    (hx : x.token = .arrow) : name.text ≠ node.id.text := by
  intro htext
  have hstep := step_eq_ok_iff.2
    (.arrow finished enclosing node name position hx (Spanned.agrees_iff.2 htext))
  rw [h] at hstep
  cases hstep

/-- Where the arrow behind a name is refused, that name and the one of the enclosing node are at
fault. -/
theorem SyntaxError.pinpoints_edgeSourceMismatch {source : String} {finished enclosing : List Node}
    {node : Node} {name : Spanned} {position : Position} {xs : List Lexeme} {x : Lexeme}
    (herror : Diagram.parse source = .error (.edgeSourceMismatch node.id name position))
    (hfront : xs ++ [x] <+: (TokenStream.ofString source).words)
    (hxs : ParseState.start.Reaches xs
      (.inside finished enclosing (.edgeArrow node name position)))
    (hx : x.token = .arrow) (hne : name.text ≠ node.id.text) :
    Code.Pinpoints source .edgeSourceMismatch [name.span] [node.id.span] := by
  obtain ⟨ys, keyword, rfl, hkeyword, hopen⟩ := hxs.exists_of_edgeArrow
  -- Both names have been read, so they stand where they say.
  have hread := (List.prefix_append _ [x]).trans hfront
  have hmarks : ∀ v ∈ names (ys ++ [keyword, ⟨.identifier name.text, position, name.span⟩]),
      v.span.Marks source v.text :=
    fun v hv => (TokenStream.marks_of_mem_names ((hread.sublist.filterMap _).subset hv)).1
  rw [names_append] at hmarks
  have hname := hmarks name (List.mem_append_right _ (List.mem_filterMap.2
    ⟨⟨.identifier name.text, position, name.span⟩, by simp, rfl⟩))
  have hnode := hmarks node.id (List.mem_append_left _ (hopen.mem_names _ List.mem_cons_self))
  obtain ⟨rest, hwords⟩ := hfront
  rw [List.append_assoc ys] at hwords
  exact .edgeSourceMismatch herror hwords.symm hkeyword hx hopen hne hname hnode

/-- A syntax error points at what is at fault in its source. -/
theorem SyntaxError.pinpoints {source : String} {e : SyntaxError}
    (h : Diagram.parse source = .error e) :
    e.code.Pinpoints source e.diagnostic.primarySpans e.diagnostic.secondarySpans := by
  obtain ⟨xs, x, s, hfront, hxs, hstep, -⟩ := Diagram.parse_eq_error_iff.1 h
  have hstands : x.StandsIn source := TokenStream.standsIn_of_mem (hfront.subset (by simp))
  have htoken : e.found? = some x →
      e.code.Pinpoints source e.diagnostic.primarySpans e.diagnostic.secondarySpans := by
    intro hfound
    obtain ⟨hprimary, hsecondary⟩ := spans_diagnostic hfound
    rw [hprimary, hsecondary]
    exact .token h hfound hstands
  rcases ParseState.step_eq_error hstep with rfl | ⟨_, _, node, name, position, rfl, harrow, rfl⟩ |
    ⟨_, _, _, -, -, rfl⟩
  · exact htoken (Wanted.found?_refuse _ x)
  · have hended := (Cursor.ofString source).stream_ended
    exact pinpoints_edgeSourceMismatch h (hended.prefix_words hfront (by simp [harrow])) hxs harrow
      (ParseState.ne_of_step_eq_error hstep harrow)
  · exact htoken rfl

/-! ## Findings -/

namespace Diagram

variable {source : String} {d : Diagram}

/-- Every text of a diagram that is read from a source stands where the diagram says. -/
theorem marks_of_parse (h : Diagram.parse source = .ok d) {v : Spanned} (hv : v ∈ d.texts) :
    v.span.Marks source v.text := by
  obtain ⟨id, hitems⟩ := placed_of_parse h
  obtain ⟨written, hledger⟩ := hitems.exists_ledger
  exact (TokenStream.marks_of_mem_names
    (mem_names_of_mem_texts hledger hitems.source_eq.2 hv)).1

/-- The id of a node stands where the diagram says. -/
theorem marks_id_of_parse (h : Diagram.parse source = .ok d) {id : Spanned} (hid : id ∈ d.ids) :
    id.span.Marks source id.text :=
  marks_of_parse h (List.mem_append_left _ (List.mem_append_left _ hid))

/-- The target of an edge stands where the diagram says. -/
theorem marks_target_of_parse (h : Diagram.parse source = .ok d) {e : Edge} (he : e ∈ d.edges) :
    e.target.span.Marks source e.target.text :=
  marks_of_parse h (List.mem_append_right _ (List.mem_flatMap.2 ⟨e, he, by simp⟩))

/-- A repeated id and the earlier one are pinpointed. -/
theorem pinpoints_of_mem_repeatedIds (h : Diagram.parse source = .ok d) {e : Defect}
    (he : e ∈ d.repeatedIds) :
    e.code.Pinpoints source e.diagnostic.primarySpans e.diagnostic.secondarySpans := by
  obtain ⟨before, id, after, first, hids, hfirst, htext, rfl⟩ := Spanned.exists_of_mem_repeats he
  -- The ids are in the order of the source.
  obtain ⟨place, hitems⟩ := placed_of_parse h
  have hincreasing : Increasing d.ids :=
    (TokenStream.increasing_names source).sublist hitems.sublist_ids
  rw [hids] at hincreasing
  have hprecedes := (List.pairwise_append.1 hincreasing).2.2 first hfirst id List.mem_cons_self
  have hid : id.span.Marks source id.text := marks_id_of_parse h (by rw [hids]; simp)
  have hmarks : first.span.Marks source first.text :=
    marks_id_of_parse h (hids ▸ List.mem_append_left _ hfirst)
  exact .duplicateNodeId h hids hfirst htext hprecedes hid (htext ▸ hmarks)

/-- The target of an edge that dangles and the node of the edge are pinpointed. -/
theorem pinpoints_of_mem_danglingEdges (h : Diagram.parse source = .ok d) {e : Defect}
    (he : e ∈ d.danglingEdges) :
    e.code.Pinpoints source e.diagnostic.primarySpans e.diagnostic.secondarySpans := by
  obtain ⟨edge, hmem, rfl⟩ := List.mem_map.1 he
  obtain ⟨hedge, hdangling⟩ := List.mem_filter.1 hmem
  obtain ⟨n, hn, hdeclared⟩ := List.mem_flatMap.1 hedge
  rw [Bool.not_eq_true', ← Bool.not_eq_true, List.contains_iff_mem] at hdangling
  -- The edge starts at the name of its node.
  obtain ⟨place, hitems⟩ := placed_of_parse h
  have hsource : edge.source = n.id := hitems.source_eq.2 n hn edge hdeclared
  rw [hsource]
  exact .danglingEdge h hn hdeclared hdangling (marks_target_of_parse h hedge)
    (marks_id_of_parse h (List.mem_map_of_mem hn))

/-- The errors of a diagram point at what is at fault in its source. -/
theorem pinpoints_of_mem_errors (h : Diagram.parse source = .ok d) {policy : Policy} {e : Defect}
    (he : e ∈ (d.analyze policy).errors) :
    e.code.Pinpoints source e.diagnostic.primarySpans e.diagnostic.secondarySpans := by
  rw [errors_analyze] at he
  split at he
  · next hempty =>
    cases List.mem_singleton.1 he
    exact .emptyDiagram h (List.isEmpty_iff.1 hempty)
  · rcases List.mem_append.1 he with he | he
    · exact pinpoints_of_mem_repeatedIds h he
    · exact pinpoints_of_mem_danglingEdges h he

/-- The warnings of a diagram point at what they are about in its source. -/
theorem pinpoints_of_mem_warnings (h : Diagram.parse source = .ok d) {policy : Policy}
    {w : Warning} (hw : w ∈ (d.analyze policy).warnings) :
    w.code.Pinpoints source w.diagnostic.primarySpans w.diagnostic.secondarySpans := by
  obtain ⟨hid, htarget⟩ := mem_and_notMem_of_mem_untargeted (id_mem_untargeted hw)
  cases w with
  | unreachableNode id => exact .unreachableNode h hid htarget (marks_id_of_parse h hid)

/-- The findings of a diagram point into its source. -/
theorem pointsInto_of_mem_diagnostics (h : Diagram.parse source = .ok d) {policy : Policy}
    {x : Diagnostic} (hx : x ∈ (d.analyze policy).diagnostics) : x.PointsInto source := by
  rcases List.mem_append.1 hx with hx | hx
  · obtain ⟨e, he, rfl⟩ := List.mem_map.1 hx
    exact (pinpoints_of_mem_errors h he).pointsInto (by cases e <;> rfl)
  · obtain ⟨w, hw, rfl⟩ := List.mem_map.1 hx
    exact (pinpoints_of_mem_warnings h hw).pointsInto (by cases w; rfl)

end Diagram

/-! ## All diagnostics of a check -/

/-- What an answer to a check has to show, whether the check passed or failed. -/
def answerDiagnostics : Except Failure Findings → List Diagnostic
  | .ok findings => findings.diagnostics
  | .error failure => failure.diagnostics

/-- A check of a diagram shows all findings, in either case. -/
theorem Diagram.answerDiagnostics_check (d : Diagram) (settings : Settings) (source : String) :
    answerDiagnostics (d.check settings source).value =
      (d.analyze settings.policy).reported settings.warningsAsErrors := by
  rw [value_check]
  generalize d.analyze settings.policy = f
  generalize settings.warningsAsErrors = denyWarnings
  by_cases hblocks : f.Blocks denyWarnings
  · rw [if_pos (Findings.any_isError_reported.2 hblocks)]
    rfl
  · -- Findings that do not block are shown as they are.
    have hshown : f.reported denyWarnings = f.diagnostics := by
      cases denyWarnings with
      | false => exact f.reported_false
      | true =>
        obtain ⟨herrors, hwarnings⟩ := Findings.not_blocks_iff.1 hblocks
        rw [Findings.reported, Findings.diagnostics, herrors, hwarnings rfl]
        rfl
    rw [if_neg (mt Findings.any_isError_reported.1 hblocks), hshown]
    rfl

/-- Another severity leaves all labels where they are. -/
theorem Diagnostic.PointsInto.withSeverity {d : Diagnostic} {source : String}
    (h : d.PointsInto source) (severity : Severity) :
    Diagnostic.PointsInto { d with severity := severity } source :=
  ⟨h.inside, h.pinpoints⟩

/-- Every diagnostic of a check of a source points into that source, at the text that it is about:
all its labels lie between characters of the source; it has one primary label, or none where there
is no node at all; and its labels mark the token, the name or the id at fault, and with it the
enclosing node or the earlier declaration. -/
theorem check_pointsInto (settings : Settings) (source : String) :
    ∀ x ∈ answerDiagnostics (check settings source).value, x.PointsInto source := by
  intro x hx
  cases hparse : Diagram.parse source with
  | error e =>
    rw [value_check_of_error hparse] at hx
    cases List.mem_singleton.1 hx
    exact (SyntaxError.pinpoints hparse).pointsInto e.code_diagnostic
  | ok d =>
    rw [value_check_of_ok hparse, Diagram.answerDiagnostics_check] at hx
    obtain ⟨y, hy, rfl⟩ := List.mem_map.1 hx
    exact (Diagram.pointsInto_of_mem_diagnostics hparse hy).withSeverity _

/-- In `node é { calls ß ->` the fault is at `ß`, which takes the bytes 16 and 17, and the enclosing
node is declared at the bytes 5 and 6. -/
theorem check_pointsInto_edgeSource :
    let source := "node é \x7b calls ß ->"
    let e : SyntaxError := .edgeSourceMismatch ⟨"é", Span.ofBounds 5 7⟩
      ⟨"ß", Span.ofBounds 16 18⟩ (Position.ofCounts 1 16)
    e.diagnostic ∈ answerDiagnostics (check .standard source).value ∧
      e.diagnostic.PointsInto source := by
  intro source e
  have htokens : TokenStream.ofString source =
      ⟨[⟨.node, .ofCounts 1 1, .ofBounds 0 4⟩, ⟨.identifier "é", .ofCounts 1 6, .ofBounds 5 7⟩,
        ⟨.lbrace, .ofCounts 1 8, .ofBounds 8 9⟩, ⟨.edge, .ofCounts 1 10, .ofBounds 10 15⟩,
        ⟨.identifier "ß", .ofCounts 1 16, .ofBounds 16 18⟩,
        ⟨.arrow, .ofCounts 1 18, .ofBounds 19 21⟩],
        ⟨.endOfInput, .ofCounts 1 20, .ofBounds 21 21⟩⟩ := by
    decide +kernel
  have hparse : Diagram.parse source = .error e := by
    rw [Diagram.parse, htokens]
    rfl
  have hmem : e.diagnostic ∈ answerDiagnostics (check .standard source).value := by
    rw [value_check_of_error hparse]
    exact List.mem_singleton_self _
  exact ⟨hmem, check_pointsInto .standard source _ hmem⟩

end DiagramCheck
