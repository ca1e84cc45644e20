import DiagramCheck.Proofs.Lexing
import DiagramCheck.Proofs.Reading
import DiagramCheck.Proofs.Relocation
import Mathlib

/-!
# Sources one behind the other

A source that is accepted may be put in front of any other: its nodes come first, and all places of
the other source move behind it (`Diagram.parse_append`). `Relocation.behind` says how they move:
bytes by the length of the text in front, lines by its line feeds, and columns only on the first
line, which goes on where the last line of that text ends.

Three facts lead there. Reading tokens commutes with moving the text (`Cursor.stream_behind`). No
token reaches across the seam: an accepted source ends in a closing brace, which nothing continues
(`TokenStream.ofString_append`). And between top-level nodes the reader keeps nothing in mind but
the nodes that are complete (`ParseState.run_relocate`).
-/

namespace DiagramCheck

open Text

/-! ## Moving places behind a text -/

/-- The last line of a text: what stands behind its last line feed. -/
def lastLine (text : List Char) : List Char :=
  text.rtakeWhile fun c => c != '\n'

/-- A line feed at the end of a text leaves nothing on its last line. -/
theorem lastLine_concat_newline (text : List Char) : lastLine (text ++ ['\n']) = [] :=
  List.rtakeWhile_concat_neg _ _ _ (by decide)

/-- Any other character at the end of a text belongs to its last line. -/
theorem lastLine_concat {c : Char} (hc : c ≠ '\n') (text : List Char) :
    lastLine (text ++ [c]) = lastLine text ++ [c] :=
  List.rtakeWhile_concat_pos _ _ _ (by simpa using hc)

/-- A span of a text that moves behind another one. -/
def Span.behind (text : List Char) (s : Span) : Span :=
  ⟨s.start + byteLength text, s.stop + byteLength text, Nat.add_le_add_right s.start_le_stop _⟩

/-- A position in a text that moves behind another one. Its line counts on from those of the other
text, and its column changes if it is on the first line, which goes on behind the last line of the
other text. -/
def Position.behind (text : List Char) (p : Position) : Position where
  line := p.line + text.count '\n'
  column :=
    if p.line = 1 then p.column + (lastLine text).length else p.column
  line_pos := Nat.le_add_right_of_le p.line_pos
  column_pos := by
    have := p.column_pos
    split <;> omega

/-- The places in a text that moves behind another one. -/
def Relocation.behind (text : List Char) : Relocation :=
  ⟨Span.behind text, Position.behind text⟩

/-- Advancing over a character goes on as it does without the text in front. -/
theorem Position.advance_behind (text : List Char) (p : Position) (c : Char) :
    (p.behind text).advance c = (p.advance c).behind text := by
  have := p.line_pos
  unfold advance
  split
  · -- Behind a line feed the line is not the first one any more.
    simp only [behind, Position.mk.injEq]
    refine ⟨by omega, ?_⟩
    rw [if_neg (by omega)]
  · simp only [behind, Position.mk.injEq, true_and]
    split <;> omega

/-- Advancing over a text goes on as it does without the text in front. -/
theorem Position.advanceOver_behind (text : List Char) (p : Position) (cs : List Char) :
    (p.behind text).advanceOver cs = (p.advanceOver cs).behind text := by
  unfold advanceOver
  induction cs generalizing p with
  | nil => rfl
  | cons c cs ih => rw [List.foldl_cons, List.foldl_cons, advance_behind, ih]

/-- The first position moves to the end of the text in front. -/
theorem Position.origin_behind (text : List Char) :
    origin.behind text = origin.advanceOver text := by
  -- The induction takes characters off the end, since that is where the last line grows.
  induction text using List.reverseRecOn with
  | nil => rfl
  | append_singleton text c ih =>
    rw [advanceOver_append, ← ih]
    show origin.behind (text ++ [c]) = (origin.behind text).advance c
    unfold advance
    split
    · next hc =>
      subst hc
      have hline : (text ++ ['\n']).count '\n' = text.count '\n' + 1 := by
        rw [List.count_append, List.count_singleton_self]
      simp only [behind, origin, hline, lastLine_concat_newline, Position.mk.injEq, if_true]
      exact ⟨by omega, rfl⟩
    · next hc =>
      have hline : (text ++ [c]).count '\n' = text.count '\n' := by
        rw [List.count_append, List.count_singleton, if_neg (by simpa using hc), Nat.add_zero]
      simp only [behind, origin, hline, lastLine_concat hc, List.length_append,
        List.length_singleton, Position.mk.injEq, if_true, true_and]
      omega

namespace Cursor

/-- A cursor in a text that moves behind another one. -/
def behind (text : List Char) (c : Cursor) : Cursor :=
  ⟨c.rest, c.offset + byteLength text, c.position.behind text⟩

/-- Passing over a text goes on as it does without the text in front. -/
theorem pass_behind (text : List Char) (c : Cursor) (cs r : List Char) :
    (c.behind text).pass cs r = (c.pass cs r).behind text := by
  simp only [pass, behind, Position.advanceOver_behind, Cursor.mk.injEq, true_and, and_true]
  omega

/-- A token that starts right here is the same token behind a text, moved. -/
theorem read_behind (text : List Char) (c : Cursor) :
    (c.behind text).read = (c.read.1.relocate (.behind text), c.read.2.behind text) := by
  obtain ⟨rest, offset, position⟩ := c
  cases rest with
  | nil => rfl
  | cons x xs =>
    have hpass := pass_behind text ⟨x :: xs, offset, position⟩ (Piece.read x xs).text
      (Piece.read x xs).rest
    have hstop : (offset + byteLength text) + byteLength (Piece.read x xs).text =
        (offset + byteLength (Piece.read x xs).text) + byteLength text := by omega
    have hspan : ((⟨x :: xs, offset, position⟩ : Cursor).behind text).read.1.span =
        Span.behind text (read ⟨x :: xs, offset, position⟩).1.span := by
      simp only [read, behind, pass, Span.behind, Span.mk.injEq, true_and]
      exact hstop
    exact Prod.ext (congrArg (Lexeme.mk _ _) hspan) hpass

/-- A token behind a text is the one that is read without it, moved. -/
theorem next_behind (text : List Char) (c : Cursor) :
    (c.behind text).next = (c.next.1.relocate (.behind text), c.next.2.behind text) := by
  have hskip : (c.behind text).skipBlanks = c.skipBlanks.behind text := pass_behind text c _ _
  calc (c.behind text).next = (c.skipBlanks.behind text).read := by rw [next, hskip]
    _ = _ := read_behind text c.skipBlanks

/-- The tokens behind a text are those that are read without it, moved. -/
theorem stream_behind (text : List Char) (c : Cursor) :
    (c.behind text).stream = ⟨c.stream.words.map (Lexeme.relocate (.behind text)),
      c.stream.stop.relocate (.behind text)⟩ := by
  induction c using Cursor.stream.induct with
  | case1 c h =>
    have hnext := next_behind text c
    rw [stream, stream.eq_def c, dif_pos h, dif_pos (by rw [hnext]; exact h), hnext]
    rfl
  | case2 c h ih =>
    have hnext := next_behind text c
    rw [stream, stream.eq_def c, dif_neg h, dif_neg (by rw [hnext]; exact h), hnext]
    simp only [ih, List.map_cons]

/-- Where the same token is read first, with the same place behind it, all tokens are the same. -/
theorem stream_congr {c c' : Cursor} (h : c.next = c'.next) : c.stream = c'.stream := by
  rw [stream, stream.eq_def c']
  simp only [h]

/-- Blanks in front do not matter for the tokens. -/
theorem stream_pass_blanks {c : Cursor} {blank r : List Char}
    (hblank : ∀ x ∈ blank, isBlank x = true) (hrest : c.rest = blank ++ r) :
    c.stream = (c.pass blank r).stream := by
  apply stream_congr
  have hskip : c.skipBlanks = (c.pass blank r).skipBlanks := by
    unfold skipBlanks
    rw [pass_pass, hrest, List.takeWhile_append_of_pos hblank, List.dropWhile_append_of_pos hblank]
    rfl
  rw [next, next, hskip]

end Cursor

/-! ## The seam -/

/-- The tokens of two sources, one behind the other, are those of the first and then those of the
second, moved behind the first, where the first character of the second does not continue the last
token of the first. -/
theorem TokenStream.ofString_append_of_head {s t : String}
    (h : ∀ y, t.toList.head? = some y → ∀ x ∈ (ofString s).words.getLast?,
      x.token.continuedBy y = false) :
    ofString (s ++ t) =
      ⟨(ofString s).words ++ (ofString t).words.map (Lexeme.relocate (.behind s.toList)),
        (ofString t).stop.relocate (.behind s.toList)⟩ := by
  obtain ⟨c', hrun, hblank⟩ := (Cursor.ofString s).reads_stream
  obtain ⟨text, hrest, -, hreplace⟩ := hrun.replace
  have hs : s.toList = text ++ c'.rest := hrest
  -- If blanks stand between the last token and the second source, they keep the two apart.
  have hhead : ∀ y, (c'.rest ++ t.toList).head? = some y → ∀ x ∈ (ofString s).words.getLast?,
      x.token.continuedBy y = false := by
    intro y hy x hx
    cases hrest' : c'.rest with
    | nil =>
      rw [hrest', List.nil_append] at hy
      exact h y hy x hx
    | cons z zs =>
      rw [hrest', List.cons_append, List.head?_cons, Option.some.injEq] at hy
      exact Token.continuedBy_of_isBlank (hblank y (hrest' ▸ hy ▸ List.mem_cons_self)) x.token
  -- The first source is read as before, up to the blanks at its end.
  have hfront := hreplace (c'.rest ++ t.toList) hhead
  have hstart : (Cursor.ofString s).withRest (text ++ (c'.rest ++ t.toList)) =
      Cursor.ofString (s ++ t) := by
    rw [Cursor.ofString, Cursor.withRest, Cursor.ofString, String.toList_append, hs,
      List.append_assoc]
  -- Behind these blanks stands the second source, moved behind the first.
  have hseam : (((Cursor.ofString s).pass text (c'.rest ++ t.toList)).pass c'.rest t.toList) =
      (Cursor.ofString t).behind s.toList := by
    rw [Cursor.pass_pass, ← hs]
    simp [Cursor.pass, Cursor.ofString, Cursor.behind, Position.origin_behind]
  have hrest' : ((Cursor.ofString s).pass text (c'.rest ++ t.toList)).rest =
      c'.rest ++ t.toList := rfl
  have hback : ((Cursor.ofString s).pass text (c'.rest ++ t.toList)).stream =
      ⟨(ofString t).words.map (Lexeme.relocate (.behind s.toList)),
        (ofString t).stop.relocate (.behind s.toList)⟩ := by
    rw [Cursor.stream_pass_blanks hblank hrest', hseam, Cursor.stream_behind]
    rfl
  calc ofString (s ++ t)
      = ((Cursor.ofString s).withRest (text ++ (c'.rest ++ t.toList))).stream := by
        rw [hstart, ofString]
    _ = ⟨(ofString s).words ++ ((Cursor.ofString s).pass text (c'.rest ++ t.toList)).stream.words,
          ((Cursor.ofString s).pass text (c'.rest ++ t.toList)).stream.stop⟩ := hfront.stream_eq
    _ = _ := by rw [hback]

/-- The tokens of two sources, one behind the other, are those of the first and then those of the
second, moved behind the first, where nothing continues the last token of the first. -/
theorem TokenStream.ofString_append {s t : String}
    (h : ∀ x ∈ (ofString s).words.getLast?, ∀ y, x.token.continuedBy y = false) :
    ofString (s ++ t) =
      ⟨(ofString s).words ++ (ofString t).words.map (Lexeme.relocate (.behind s.toList)),
        (ofString t).stop.relocate (.behind s.toList)⟩ :=
  ofString_append_of_head fun y _ x hx => h x hx y

/-- Only a closing brace leads out of all nodes. -/
theorem ParseState.Takes.token_of_outside {s : ParseState} {x : Lexeme} {finished : List Node}
    (h : s.Takes x (.outside finished)) : x.token = .rbrace := by
  generalize hs' : ParseState.outside finished = s' at h
  cases h with
  | closeNode _ _ _ hx => exact hx
  | _ => cases hs'

/-- The last token of a run that has come out of all nodes is a closing brace. -/
theorem ParseState.Reaches.token_of_outside {xs : List Lexeme} {finished : List Node}
    (h : start.Reaches xs (.outside finished)) : ∀ x ∈ xs.getLast?, x.token = .rbrace := by
  intro x hx
  rcases h.last_step with ⟨rfl, -⟩ | ⟨ys, y, t, rfl, -, hy⟩
  · cases hx
  · rw [List.getLast?_concat, Option.mem_some_iff] at hx
    exact hx ▸ hy.token_of_outside

/-- A source behind one that is accepted is read as it is by itself, with all places moved behind
the first one: its nodes come behind those of the first source, and where it has a syntax error, the
whole has the same one. -/
theorem Diagram.parse_append {s₁ s₂ : String} {d₁ : Diagram} (h : Diagram.parse s₁ = .ok d₁) :
    (∀ d₂, Diagram.parse s₂ = .ok d₂ → Diagram.parse (s₁ ++ s₂) =
      .ok ⟨d₁.topLevel ++ (d₂.relocate (.behind s₁.toList)).topLevel⟩) ∧
    ∀ e, Diagram.parse s₂ = .error e →
      Diagram.parse (s₁ ++ s₂) = .error (e.relocate (.behind s₁.toList)) := by
  rw [Diagram.parse_eq_ok_iff] at h
  have hlast : ∀ x ∈ (TokenStream.ofString s₁).words.getLast?, ∀ y,
      x.token.continuedBy y = false := by
    intro x hx y
    rw [h.token_of_outside x hx]
    rfl
  have hstart : ParseState.outside d₁.topLevel =
      ParseState.start.relocate (.behind s₁.toList) d₁.topLevel := by
    simp [ParseState.start, ParseState.relocate, Node.relocateAll]
  have hparse : Diagram.parse (s₁ ++ s₂) = ((Diagram.parse s₂).map fun d =>
      ⟨d₁.topLevel ++ (d.relocate (.behind s₁.toList)).topLevel⟩).mapError
        (SyntaxError.relocate (.behind s₁.toList)) := by
    calc Diagram.parse (s₁ ++ s₂)
        = (ParseState.start.run ((TokenStream.ofString s₂).stop.relocate (.behind s₁.toList))
            ((TokenStream.ofString s₁).words ++ (TokenStream.ofString s₂).words.map
              (Lexeme.relocate (.behind s₁.toList)))).result := by
          rw [Diagram.parse, TokenStream.parse, TokenStream.ofString_append hlast]
      -- The tokens of the first source lead to its nodes, and out of all of them.
      _ = ((ParseState.outside d₁.topLevel).run
            ((TokenStream.ofString s₂).stop.relocate (.behind s₁.toList))
            ((TokenStream.ofString s₂).words.map
              (Lexeme.relocate (.behind s₁.toList)))).result := by
          rw [h.run_eq]
      _ = _ := by
          rw [hstart]
          exact ParseState.run_relocate _ d₁.topLevel .start _ _
  constructor
  · intro d₂ h₂
    rw [hparse, h₂]
    rfl
  · intro e h₂
    rw [hparse, h₂]
    rfl

/-- Behind a node that ends on the second line, a node follows on that line without a blank, and a
brace in the place of its name is reported there. -/
theorem Diagram.parse_append_brace :
    let first := "node a \x7b\n\x7d"
    Diagram.parse (first ++ "node b \x7b \x7d") =
        .ok ⟨[.ofId ⟨"a", Span.ofBounds 5 6⟩, .ofId ⟨"b", Span.ofBounds 15 16⟩]⟩ ∧
      Diagram.parse (first ++ "node \x7b \x7d") = .error
        (.expectedIdentifier ⟨.lbrace, Position.ofCounts 2 7, Span.ofBounds 15 16⟩) := by
  intro first
  have h : Diagram.parse first = .ok ⟨[.ofId ⟨"a", Span.ofBounds 5 6⟩]⟩ := by cbv
  have hnode : Diagram.parse "node b \x7b \x7d" = .ok ⟨[.ofId ⟨"b", Span.ofBounds 5 6⟩]⟩ := by cbv
  have hbrace : Diagram.parse "node \x7b \x7d" = .error
      (.expectedIdentifier ⟨.lbrace, Position.ofCounts 1 6, Span.ofBounds 5 6⟩) := by cbv
  have hspan : (Span.ofBounds 5 6).behind first.toList = Span.ofBounds 15 16 := by decide +kernel
  have hposition : (Position.ofCounts 1 6).behind first.toList = Position.ofCounts 2 7 := by
    decide +kernel
  constructor
  · rw [(parse_append h).1 _ hnode, ← hspan]
    rfl
  · rw [(parse_append h).2 _ hbrace, ← hspan, ← hposition]
    rfl

end DiagramCheck
