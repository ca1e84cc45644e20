import DiagramCheck.Proofs.Alike
import DiagramCheck.Proofs.Concatenation
import DiagramCheck.Proofs.Tokenization

/-!
# Lines and columns of a source

A cursor keeps account of bytes and of lines and columns side by side. `Position.IsAt` says how the
two go together: the position at a byte offset counts the line feeds in front of that offset, and
the characters behind the last of them. The tokens of a source, and its syntax error if it has one,
stand at the positions where their spans start (`positions_spec`).

A token stands behind the blanks that the cursor skips (`Cursor.exists_next`), so its position and
its span are those of one and the same piece of the source (`Cursor.exists_before`). Positions come
in the order of their offsets (`Position.IsAt.precedes`), and spans in the order of the tokens. The
position of an error is that of one of the tokens: of the one that decides on it, or of the name in
front of that (`SyntaxError.DecidedAt.exists_mem`).
-/

namespace DiagramCheck

open Text

/-! ## The position at a byte of a source -/

namespace Position

/-- `p.IsBehind text` says that `p` is the position right behind a text that a source begins
with. -/
structure IsBehind (p : Position) (text : List Char) : Prop where
  /-- The line counts the line feeds of the text. -/
  line_eq : p.line = 1 + text.count '\n'
  /-- The column counts the characters behind the last line feed. -/
  column_eq : p.column = 1 + (lastLine text).length

/-- `p.IsAt source offset` says that `p` is the line and the column of the character that begins at
a byte offset of a source, or of the end of the source. -/
def IsAt (p : Position) (source : String) (offset : Nat) : Prop :=
  ∃ before after, source.toList = before ++ after ∧ byteLength before = offset ∧ p.IsBehind before

/-- One position comes before another when it is on an earlier line, or on the same line in an
earlier column. -/
def Precedes (p q : Position) : Prop :=
  p.line < q.line ∨ p.line = q.line ∧ p.column < q.column

/-- The position behind a text is the one that a cursor keeps. -/
theorem isBehind_iff {p : Position} {text : List Char} :
    p.IsBehind text ↔ p = origin.advanceOver text := by
  have hbehind : (origin.advanceOver text).IsBehind text := by
    rw [← origin_behind]
    exact ⟨rfl, rfl⟩
  constructor
  · intro h
    obtain ⟨line, column, hline, hcolumn⟩ := p
    rw [mk.injEq]
    exact ⟨h.line_eq.trans hbehind.line_eq.symm, h.column_eq.trans hbehind.column_eq.symm⟩
  · rintro rfl
    exact hbehind

/-- The order of positions is transitive. -/
theorem Precedes.trans {p q r : Position} (h : p.Precedes q) (h' : q.Precedes r) :
    p.Precedes r := by
  unfold Precedes at *
  omega

/-- Every character leads to a later position. -/
theorem precedes_advance (p : Position) (c : Char) : p.Precedes (p.advance c) := by
  rw [advance, Precedes]
  split
  · exact .inl (Nat.lt_succ_self p.line)
  · exact .inr ⟨rfl, Nat.lt_succ_self p.column⟩

/-- Every text that is not empty leads to a later position. -/
theorem precedes_advanceOver (p : Position) {text : List Char} (h : text ≠ []) :
    p.Precedes (p.advanceOver text) := by
  induction text generalizing p with
  | nil => exact absurd rfl h
  | cons c cs ih =>
    show p.Precedes ((p.advance c).advanceOver cs)
    by_cases hcs : cs = []
    · rw [hcs]
      exact p.precedes_advance c
    · exact (p.precedes_advance c).trans (ih (p.advance c) hcs)

/-- Positions come in the order of their offsets. -/
theorem IsAt.precedes {p q : Position} {source : String} {i j : Nat} (hp : p.IsAt source i)
    (hq : q.IsAt source j) (h : i < j) : p.Precedes q := by
  obtain ⟨before, after, hsource, rfl, hp⟩ := hp
  obtain ⟨before', after', hsource', rfl, hq⟩ := hq
  -- What lies between the two offsets is passed on the way from one position to the other.
  obtain ⟨between, rfl, -⟩ :=
    exists_of_byteLength_le (hsource.symm.trans hsource') (Nat.le_of_lt h)
  have hbetween : between ≠ [] := by
    rintro rfl
    rw [List.append_nil] at h
    exact absurd h (Nat.lt_irrefl _)
  rw [isBehind_iff.1 hp, isBehind_iff.1 hq, advanceOver_append]
  exact precedes_advanceOver _ hbetween

end Position

/-! ## Tokens -/

namespace Cursor

/-- Reading a token passes over blanks, in front of which the cursor stands and behind which the
token does, and over the text of the token. -/
theorem exists_next (c : Cursor) : ∃ blank text, c.rest = blank ++ text ++ c.next.2.rest ∧
    c.next.2 = c.pass (blank ++ text) c.next.2.rest ∧
    c.next.1.position = c.position.advanceOver blank ∧
    c.next.1.span.start = c.offset + byteLength blank := by
  rcases c.rest_cases with hall | ⟨blank, y, ys, hblank, hy, hrest⟩
  · rw [next_eq_endOfInput hall]
    refine ⟨c.rest, [], ?_, ?_, rfl, rfl⟩ <;> rw [List.append_nil]
    · exact (List.append_nil c.rest).symm
    · rfl
  · rw [next_eq hblank hy hrest]
    refine ⟨blank, (Piece.read y ys).text, ?_, rfl, rfl, rfl⟩
    show c.rest = blank ++ (Piece.read y ys).text ++ (Piece.read y ys).rest
    rw [hrest, List.append_assoc, Piece.text_append_rest]

/-- In front of each token of a stream there is a piece of the text, and the token stands where one
comes to behind it. -/
theorem exists_before {c : Cursor} {x : Lexeme} (hx : x ∈ c.stream.toList) :
    ∃ before after, c.rest = before ++ after ∧ x.position = c.position.advanceOver before ∧
      x.span.start = c.offset + byteLength before := by
  induction c using Cursor.stream.induct with
  | case1 c h =>
    rw [stream, dif_pos h] at hx
    obtain rfl : x = c.next.1 := List.mem_singleton.1 hx
    obtain ⟨blank, text, hrest, -, hposition, hstart⟩ := c.exists_next
    exact ⟨blank, text ++ c.next.2.rest, by rw [hrest, List.append_assoc], hposition, hstart⟩
  | case2 c h ih =>
    obtain ⟨blank, text, hrest, hnext, hposition, hstart⟩ := c.exists_next
    rw [stream, dif_neg h] at hx
    rcases List.mem_cons.1 hx with rfl | hx
    · exact ⟨blank, text ++ c.next.2.rest, by rw [hrest, List.append_assoc], hposition, hstart⟩
    · -- The token is read behind the first one, so that one is passed as well.
      obtain ⟨before, after, hrest', hposition', hstart'⟩ := ih hx
      refine ⟨blank ++ text ++ before, after, ?_, ?_, ?_⟩
      · rw [hrest, hrest', List.append_assoc (blank ++ text)]
      · rw [hposition', hnext, pass, Position.advanceOver_append _ (blank ++ text)]
      · rw [hstart', hnext, pass, byteLength_append (blank ++ text), Nat.add_assoc]

end Cursor

namespace TokenStream

/-- Each token of a source stands at the line and the column where its span starts. -/
theorem isAt_of_mem {source : String} {x : Lexeme} (hx : x ∈ (ofString source).toList) :
    x.position.IsAt source x.span.start := by
  obtain ⟨before, after, hrest, hposition, hstart⟩ := Cursor.exists_before hx
  refine ⟨before, after, hrest, ?_, Position.isBehind_iff.2 hposition⟩
  rw [hstart]
  exact (Nat.zero_add _).symm

/-- Each token of a source starts behind those in front of it. -/
theorem pairwise_start_lt (source : String) :
    (ofString source).toList.Pairwise fun x y => x.span.start < y.span.start := by
  obtain ⟨hwords, hpairs⟩ := (Cursor.ofString source).stream_spans
  rw [toList, List.pairwise_append]
  refine ⟨hpairs.imp_of_mem fun {x y} hx hy hxy => ?_, List.pairwise_singleton _ _, ?_⟩
  · exact Nat.lt_of_lt_of_le (hwords x hx).2 hxy
  · -- The end of the input stands behind the last byte.
    intro x hx y hy
    obtain rfl := List.mem_singleton.1 hy
    have hstop : x.span.stop ≤ source.utf8ByteSize :=
      (cutsUp source).stop_le x.placed (List.mem_map_of_mem hx)
    have hend : (ofString source).stop.span = Span.emptyAt source.utf8ByteSize :=
      (Prod.mk.inj (placed_stop source)).2
    rw [hend]
    exact Nat.lt_of_lt_of_le (hwords x hx).2 hstop

end TokenStream

/-! ## Syntax errors -/

/-- An error that is decided on by one of several tokens has the place of one of them. -/
theorem SyntaxError.DecidedAt.exists_mem {e : SyntaxError} {xs : List Lexeme} {k : Nat}
    (h : e.DecidedAt xs k) : ∃ x ∈ xs, x.position = e.position ∧ x.span = e.span := by
  cases h with
  | unexpectedToken h | expectedIdentifier h | nestingTooDeep h =>
    exact ⟨_, List.mem_of_getElem? h, rfl, rfl⟩
  | edgeSourceMismatch hname _ _ => exact ⟨_, List.mem_of_getElem? hname, rfl, rfl⟩

/-- The position of a syntax error is the line and the column where its span starts. -/
theorem SyntaxError.isAt_of_parse {source : String} {e : SyntaxError}
    (h : Diagram.parse source = .error e) : e.position.IsAt source e.span.start := by
  have hdecided := (Diagram.decidedAt_iff_of_parse h _).2 rfl
  obtain ⟨x, hx, hposition, hspan⟩ := hdecided.exists_mem
  rw [← hposition, ← hspan]
  exact TokenStream.isAt_of_mem hx

/-- Positions agree with spans: each token of a source, the end of the input included, stands at the
line and the column where its span starts, and each stands behind the one in front of it. The
position of a syntax error, whatever its kind, is that of the start of its span. -/
theorem positions_spec (source : String) :
    (∀ x ∈ (TokenStream.ofString source).toList, x.position.IsAt source x.span.start) ∧
      (TokenStream.ofString source).toList.Pairwise (fun x y => x.position.Precedes y.position) ∧
      ∀ e, Diagram.parse source = .error e → e.position.IsAt source e.span.start := by
  refine ⟨fun x hx => TokenStream.isAt_of_mem hx, ?_, fun e he => SyntaxError.isAt_of_parse he⟩
  refine (TokenStream.pairwise_start_lt source).imp_of_mem fun hx hy hlt => ?_
  exact (TokenStream.isAt_of_mem hx).precedes (TokenStream.isAt_of_mem hy) hlt

/-- Behind a blank that takes two bytes, a wrong source of an edge is the eighth character of the
second line, at the byte 17. -/
theorem positions_spec_edgeSource :
    let source := "node a \x7b\n\u00a0calls b -> c"
    Diagram.parse source = .error (.edgeSourceMismatch ⟨"a", .ofBounds 5 6⟩
        ⟨"b", .ofBounds 17 18⟩ (.ofCounts 2 8)) ∧
      (Position.ofCounts 2 8).IsAt source 17 := by
  intro source
  have hparse : Diagram.parse source = .error (.edgeSourceMismatch ⟨"a", .ofBounds 5 6⟩
      ⟨"b", .ofBounds 17 18⟩ (.ofCounts 2 8)) := by cbv
  obtain ⟨-, -, herror⟩ := positions_spec source
  exact ⟨hparse, herror _ hparse⟩

end DiagramCheck
