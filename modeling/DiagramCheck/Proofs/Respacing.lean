import DiagramCheck.Proofs.Alike
import DiagramCheck.Proofs.Concatenation
import DiagramCheck.Proofs.Places

/-!
# Layout does not matter, and exactly when

Blanks keep tokens apart and mean nothing else. A `TokenStream.Gap` is a place between two adjacent
tokens of a source, in front of the first or behind the last one, with the blanks that stand there,
if any; there is one for each way to cut the tokens in two (`TokenStream.exists_gap_reads`). Other
blanks in a gap leave all tokens as they are, and so do none at all unless the two tokens fuse
(`TokenStream.Gap.tokens_eq_iff`). Since sources with the same tokens are read alike, this is all
that layout has to do with a diagram (`layout_spec`).

Tokens fuse when the first character of the right one continues the left one
(`TokenStream.fuse_iff`). Then the left one becomes another token (`Piece.token_ne_of_continued`);
otherwise it stays, and the text behind it is read as before (`Cursor.Reads.tokens_eq_iff`).
-/

namespace DiagramCheck

open Text

/-! ## What continues a token -/

/-- Whether a token is a word: a keyword or an identifier. -/
def Token.isWord : Token → Bool
  | .node | .edge | .color | .label | .identifier _ => true
  | .arrow | .colon | .lbrace | .rbrace | .quote | .unknown _ | .endOfInput => false

/-- Words are continued by the characters of words, and a dash by a closing angle. -/
theorem Token.continuedBy_iff {t : Token} {x : Char} : t.continuedBy x = true ↔
    t.isWord = true ∧ isAlphanumeric x = true ∨ t = .unknown "-" ∧ x = '>' := by
  cases t <;> simp [continuedBy, isWord]

/-- A closing angle in front is read as an unknown character, and nothing else is read as that. -/
theorem Piece.token_eq_angle_iff {c : Char} {cs : List Char} :
    (Piece.read c cs).token = .unknown ">" ↔ c = '>' := by
  constructor
  · intro h
    rcases Bool.eq_false_or_eq_true (isAlphabetic c) with hc | hc
    · rw [Piece.read_word hc] at h
      unfold Token.ofWord at h
      split at h <;> cases h
    by_cases harrow : c = '-' ∧ cs.head? = some '>'
    · obtain ⟨rfl, hcs⟩ := harrow
      rw [Piece.read_arrow hcs] at h
      cases h
    · rw [Piece.read_single hc harrow] at h
      unfold Token.ofChar at h
      split at h
      · cases h
      split at h
      · cases h
      split at h
      · cases h
      split at h
      · cases h
      have hchar : String.singleton c = String.singleton '>' := Token.unknown.inj h
      simpa [← String.toList_inj] using hchar
  · rintro rfl
    rw [Piece.read_single (by decide) (by simp)]
    rfl

namespace Cursor

variable {c c' : Cursor} {xs : List Lexeme}

/-- A run ends where its last token does. -/
theorem Reads.offset_eq (h : c.Reads xs c') :
    c'.offset = xs.getLast?.elim c.offset fun x => x.span.stop := by
  rcases xs.eq_nil_or_concat' with rfl | ⟨ys, x, rfl⟩
  · cases h
    rfl
  · obtain ⟨c₀, -, hx⟩ := h.exists_of_append
    rw [List.getLast?_concat, Option.elim_some]
    cases hx with
    | cons hx hrest =>
      cases hrest
      exact (next_span hx).2.2.symm

/-- Behind a run, the tokens are those of the text there. -/
theorem Reads.tokens_stream (h : c.Reads xs c') :
    c.stream.tokens = xs.map Lexeme.token ++ c'.stream.tokens := by
  rw [h.stream_eq, TokenStream.tokens, TokenStream.tokens, List.map_append]

/-- Behind some blanks, the first token is that of the text there. -/
theorem head?_tokens_stream {blank cs : List Char} {y : Char}
    (hblank : ∀ z ∈ blank, isBlank z = true) (hy : isBlank y = false)
    (hrest : c.rest = blank ++ y :: cs) :
    c.stream.tokens.head? = some (Piece.read y cs).token := by
  have hnext := next_eq hblank hy hrest
  have hend : c.next.1.token ≠ .endOfInput := by
    rw [hnext]
    exact Piece.token_ne_endOfInput y cs
  rw [stream, dif_neg hend, hnext]
  rfl

/-- When the text behind a run changes, the tokens of the run stay the same, and then come those of
the new text, exactly when that does not continue the last token of the run. -/
theorem Reads.tokens_eq_iff (h : c.Reads xs c') {text : List Char}
    (htext : c.rest = text ++ c'.rest) {r : List Char} :
    (c.withRest (text ++ r)).stream.tokens =
        xs.map Lexeme.token ++ (c'.withRest r).stream.tokens ↔
      ∀ z, r.head? = some z → ∀ x ∈ xs.getLast?, x.token.continuedBy z = false := by
  constructor
  · intro htokens z hz x hx
    rw [← Bool.not_eq_true]
    intro hcontinued
    obtain ⟨ys, rfl⟩ := List.getLast?_eq_some_iff.1 hx
    obtain ⟨c₀, blank, y, cs, hys, hrest, hblank, hy, htoken, hbehind⟩ := h.exists_of_concat
    obtain ⟨front, hfront, -, hreplace⟩ := hys.replace
    -- The run without its last token goes on with the same first character as before.
    have hwhole : text ++ r = front ++ (blank ++ y :: ((Piece.read y cs).text.tail ++ r)) := by
      have htext' : text = front ++ (blank ++ (Piece.read y cs).text) := by
        refine List.append_cancel_right (htext.symm.trans ?_)
        rw [hfront, hrest, hbehind, List.append_assoc, List.append_assoc, Piece.text_append_rest]
      rw [htext', ← List.cons_append, ← Piece.text_eq_cons]
      simp
    have hhead : ∀ z, (blank ++ y :: ((Piece.read y cs).text.tail ++ r)).head? = some z →
        ∀ x ∈ ys.getLast?, x.token.continuedBy z = false := by
      intro z hz
      refine hys.continuedBy_of_head? ?_
      rw [hrest, ← hz]
      cases blank <;> rfl
    -- So the token that comes next would have to be the same one as before, continued or not.
    rw [hwhole, (hreplace _ hhead).tokens_stream, List.map_append, List.append_assoc,
      List.append_cancel_left_eq] at htokens
    have hnext := congrArg List.head? htokens
    rw [head?_tokens_stream hblank hy rfl, List.map_singleton, List.singleton_append,
      List.head?_cons, Option.some.injEq, htoken] at hnext
    exact Piece.token_ne_of_continued hz (htoken ▸ hcontinued) hnext
  · intro hr
    obtain ⟨text', hrest, -, hreplace⟩ := h.replace
    obtain rfl : text = text' := List.append_cancel_right (htext.symm.trans hrest)
    rw [(hreplace r hr).tokens_stream]
    exact congrArg _ (tokens_stream_congr rfl)

end Cursor

namespace TokenStream

/-! ## Gaps -/

/-- `Gap source xs ys front gap back` says that the source consists of `front` with the tokens `xs`,
of `back` with the tokens `ys`, and of the blanks `gap` between them. -/
structure Gap (source : String) (xs ys : List Lexeme) (front gap back : List Char) : Prop where
  /-- The tokens are cut in two. -/
  words_eq : (ofString source).words = xs ++ ys
  /-- The source is cut in three. -/
  source_eq : source.toList = front ++ gap ++ back
  /-- The front ends with the last of its tokens. -/
  front_eq : byteLength front = xs.getLast?.elim 0 fun x => x.span.stop
  /-- The back starts with the first of its tokens, or is empty. -/
  back_eq : byteLength (front ++ gap) = ys.head?.elim source.utf8ByteSize fun y => y.span.start
  /-- Between them there are only blanks. -/
  blank : ∀ c ∈ gap, isBlank c = true

variable {source : String} {xs ys : List Lexeme} {front gap back : List Char}

/-- There is at most one gap at each place. -/
theorem Gap.unique {front' gap' back' : List Char} (h : Gap source xs ys front gap back)
    (h' : Gap source xs ys front' gap' back') : front = front' ∧ gap = gap' ∧ back = back' := by
  have hsource := h.source_eq.symm.trans h'.source_eq
  obtain ⟨hfront, hback⟩ := append_inj_of_byteLength hsource (h.back_eq.trans h'.back_eq.symm)
  obtain ⟨hfront, hgap⟩ := append_inj_of_byteLength hfront (h.front_eq.trans h'.front_eq.symm)
  exact ⟨hfront, hgap, hback⟩

/-- There is a gap for each way to cut the tokens of a source in two: between the place up to which
the tokens `xs` are read, and the first character of what is behind it. -/
theorem exists_gap_reads (h : (ofString source).words = xs ++ ys) :
    ∃ c front gap back, (Cursor.ofString source).Reads xs c ∧ Gap source xs ys front gap back ∧
      c.rest = gap ++ back ∧
      ys.head?.map Lexeme.token = back.head?.map fun z => (Piece.read z back.tail).token := by
  obtain ⟨c', hrun, -⟩ := (Cursor.ofString source).reads_stream
  rw [← ofString, h] at hrun
  obtain ⟨c, hxs, -⟩ := hrun.exists_of_append
  obtain ⟨front, hrest, hc, -⟩ := hxs.replace
  have hsource : source.toList = front ++ c.rest := hrest
  have hoffset : byteLength front = c.offset := by
    rw [hc]
    exact (Nat.zero_add _).symm
  have hwords : c.stream.words = ys := by
    rw [ofString, hxs.stream_eq] at h
    exact List.append_cancel_left h
  have hfront : byteLength front = xs.getLast?.elim 0 fun x => x.span.stop :=
    hoffset.trans hxs.offset_eq
  rcases c.rest_cases with hall | ⟨blank, z, zs, hblank, hz, hback⟩
  · -- There are no more tokens, so the gap is all that is left.
    rw [Cursor.stream_eq_nil hall] at hwords
    subst hwords
    refine ⟨c, front, c.rest, [], hxs, ⟨h, by rw [hsource, List.append_nil], hfront, ?_, hall⟩,
      (List.append_nil _).symm, rfl⟩
    rw [← hsource, byteLength_toList]
    rfl
  · have hend : c.next.1.token ≠ .endOfInput := by
      rw [Cursor.next_eq hblank hz hback]
      exact Piece.token_ne_endOfInput z zs
    rw [Cursor.stream, dif_neg hend, Cursor.next_eq hblank hz hback] at hwords
    subst hwords
    refine ⟨c, front, blank, z :: zs, hxs, ⟨h, ?_, hfront, ?_, hblank⟩, hback, rfl⟩
    · rw [hsource, hback, List.append_assoc]
    · rw [byteLength_append, hoffset]
      rfl

/-- Two adjacent tokens fuse when nothing stands between them: a word takes in what begins with a
character of a word, and a dash and a closing angle are an arrow. -/
def Fuse (xs ys : List Lexeme) (back : List Char) : Prop :=
  ∃ x ∈ xs.getLast?, ∃ y ∈ ys.head?,
    (x.token.isWord = true ∧ ∃ c, back.head? = some c ∧ isAlphanumeric c = true) ∨
      (x.token = .unknown "-" ∧ y.token = .unknown ">")

/-- Tokens fuse exactly when the first character of the right one continues the left one. -/
theorem fuse_iff {back : List Char}
    (h : ys.head?.map Lexeme.token = back.head?.map fun z => (Piece.read z back.tail).token) :
    Fuse xs ys back ↔
      ∃ x ∈ xs.getLast?, ∃ z, back.head? = some z ∧ x.token.continuedBy z = true := by
  refine exists_congr fun x => and_congr_right fun _ => ?_
  cases back with
  | nil =>
    rw [List.head?_nil, Option.map_none, Option.map_eq_none_iff] at h
    simp [h]
  | cons z zs =>
    obtain ⟨y, hy, htoken⟩ := Option.map_eq_some_iff.1 h
    rw [List.tail_cons] at htoken
    simp [hy, htoken, Piece.token_eq_angle_iff, Token.continuedBy_iff]

/-- Other blanks in a gap, or none, leave the tokens of a source as they are, except for none where
the tokens on both sides fuse; there the tokens change. -/
theorem Gap.tokens_eq_iff (h : Gap source xs ys front gap back) {blank : List Char}
    (hblank : ∀ c ∈ blank, isBlank c = true) :
    (ofString (String.ofList (front ++ blank ++ back))).tokens = (ofString source).tokens ↔
      blank ≠ [] ∨ ¬Fuse xs ys back := by
  -- The tokens in front of the gap have been read at a place `c`.
  obtain ⟨c, front', gap', back', hxs, hgap, hrest, hhead⟩ := exists_gap_reads h.words_eq
  obtain ⟨rfl, rfl, rfl⟩ := h.unique hgap
  have htext : (Cursor.ofString source).rest = front ++ c.rest := by
    rw [hrest, ← List.append_assoc]
    exact h.source_eq
  -- From there on, blanks in front of the back do not matter.
  have hskip : ∀ blank' : List Char, (∀ z ∈ blank', isBlank z = true) →
      (c.withRest (blank' ++ back)).stream.tokens = (c.withRest back).stream.tokens := by
    intro blank' hblank'
    rw [Cursor.stream_pass_blanks hblank' rfl]
    exact Cursor.tokens_stream_congr rfl
  have hsource : (ofString source).tokens =
      xs.map Lexeme.token ++ (c.withRest (blank ++ back)).stream.tokens := by
    rw [ofString, hxs.tokens_stream, hskip blank hblank, ← hskip gap h.blank]
    exact congrArg _ (Cursor.tokens_stream_congr hrest)
  have hstart : Cursor.ofString (String.ofList (front ++ blank ++ back)) =
      (Cursor.ofString source).withRest (front ++ (blank ++ back)) := by
    simp [Cursor.ofString, Cursor.withRest]
  rw [hsource, ofString, hstart, hxs.tokens_eq_iff htext]
  cases blank with
  | nil =>
    rw [List.nil_append, fuse_iff hhead]
    simp only [ne_eq, not_true_eq_false, false_or, not_exists, not_and, Bool.not_eq_true]
    exact ⟨fun hr x hx z hz => hr z hz x hx, fun hr z hz x hx => hr x hx z hz⟩
  | cons b bs =>
    refine iff_of_true (fun z hz x _ => ?_) (.inl (List.cons_ne_nil b bs))
    rw [List.cons_append, List.head?_cons, Option.some.injEq] at hz
    exact Token.continuedBy_of_isBlank (hblank z (hz ▸ List.mem_cons_self)) x.token

end TokenStream

/-! ## Layout -/

/-- Sources with the same tokens are read alike. At the start, at the end and between any two
adjacent tokens of a source there is a gap, and the tokens stay the same when it is filled with any
other blanks, or with none where the tokens on both sides do not fuse. Where they do, the tokens
change. -/
theorem layout_spec (source : String) :
    (∀ source', (TokenStream.ofString source').tokens = (TokenStream.ofString source).tokens →
      Diagram.ReadAlike source source') ∧
    (∀ xs ys, (TokenStream.ofString source).words = xs ++ ys →
      ∃ front gap back, TokenStream.Gap source xs ys front gap back) ∧
    ∀ xs ys front gap back, TokenStream.Gap source xs ys front gap back →
      ∀ blank, (∀ c ∈ blank, isBlank c = true) →
        ((TokenStream.ofString (String.ofList (front ++ blank ++ back))).tokens =
            (TokenStream.ofString source).tokens ↔
          blank ≠ [] ∨ ¬TokenStream.Fuse xs ys back) := by
  refine ⟨fun _ h => Diagram.readAlike_of_tokens_eq h.symm, fun xs ys h => ?_,
    fun _ _ _ _ _ h _ hblank => h.tokens_eq_iff hblank⟩
  obtain ⟨_, front, gap, back, -, hgap, -⟩ := TokenStream.exists_gap_reads h
  exact ⟨front, gap, back, hgap⟩

/-- In `node a` the blank can become a line feed, but it cannot be left out. -/
theorem layout_spec_node :
    let source := "node a"
    let xs : List Lexeme := [⟨.node, .ofCounts 1 1, .ofBounds 0 4⟩]
    let ys : List Lexeme := [⟨.identifier "a", .ofCounts 1 6, .ofBounds 5 6⟩]
    (∃ front gap back, TokenStream.Gap source xs ys front gap back) ∧
      Diagram.ReadAlike source "node\na" ∧
      (TokenStream.ofString "nodea").tokens ≠ (TokenStream.ofString source).tokens := by
  intro source xs ys
  obtain ⟨halike, hexists, hiff⟩ := layout_spec source
  have hwords : (TokenStream.ofString source).words = xs ++ ys := by decide +kernel
  have hgap : TokenStream.Gap source xs ys ['n', 'o', 'd', 'e'] [' '] ['a'] :=
    ⟨hwords, by decide, by decide, by decide, List.forall_mem_singleton.2 (by decide)⟩
  have hfuse : TokenStream.Fuse xs ys ['a'] :=
    ⟨_, rfl, _, rfl, .inl ⟨rfl, 'a', rfl, by decide⟩⟩
  refine ⟨hexists xs ys hwords, halike _ ?_, fun htokens => ?_⟩
  · have hblank : ∀ c ∈ ['\n'], isBlank c = true := List.forall_mem_singleton.2 (by decide)
    exact (hiff _ _ _ _ _ hgap _ hblank).2 (.inl (List.cons_ne_nil _ _))
  · rcases (hiff _ _ _ _ _ hgap [] (List.forall_mem_nil _)).1 htokens with hne | hne
    · exact hne rfl
    · exact hne hfuse

end DiagramCheck
