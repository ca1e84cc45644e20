import DiagramCheck.Proofs.Places
import DiagramCheck.Proofs.Lexing

/-!
# What the tokens of a source are

`Tokenization` says what the tokens of a source are and where they stand, without any reading: their
spans lie in order between characters, blanks and nothing else stand outside of them, and each token
is spelled by the text at its span, where a word is taken as long as it goes
(`Token.SpelledBy`). Every source has exactly one tokenization, and it is the stream that is read
from the source (`tokenization_iff_eq_stream`).

`Tiling` is the same piece by piece: some blanks, a token, and then what is behind the token. It
follows the tokens from the front (`CutsUp.tiling`, `Tiling.cutsUp`), as the stream does
(`Tiling.eq_stream`, `Cursor.tiling_stream`).
-/

namespace DiagramCheck

open Text

/-! ## Tokens and the texts that spell them -/

/-- `t.SpelledBy text after` says that `text` spells the token `t` where `after` follows it. -/
inductive Token.SpelledBy : Token → List Char → List Char → Prop
  /-- A dash and a closing angle are the arrow. -/
  | arrow (after : List Char) : SpelledBy .arrow ['-', '>'] after
  /-- An opening brace. -/
  | lbrace (after : List Char) : SpelledBy .lbrace ['\x7b'] after
  /-- A closing brace. -/
  | rbrace (after : List Char) : SpelledBy .rbrace ['\x7d'] after
  /-- A colon. -/
  | colon (after : List Char) : SpelledBy .colon [':'] after
  /-- A double quote. -/
  | quote (after : List Char) : SpelledBy .quote ['\x22'] after
  /-- An alphabetic character and all alphanumeric ones that follow it are a word. -/
  | word {c : Char} {cs after : List Char} (hc : isAlphabetic c = true)
    (hcs : ∀ x ∈ cs, isAlphanumeric x = true)
    (hafter : ∀ x, after.head? = some x → isAlphanumeric x = false) :
    SpelledBy (.ofWord (String.ofList (c :: cs))) (c :: cs) after
  /-- Any other character stands for itself, a dash only where it does not begin an arrow. -/
  | unknown {c : Char} {after : List Char} (hfixed : c ∉ ['\x7b', '\x7d', ':', '\x22'])
    (hletter : isAlphabetic c = false) (hdash : c = '-' → after.head? ≠ some '>') :
    SpelledBy (.unknown (String.singleton c)) [c] after

/-- A character by itself spells the token that it is. -/
theorem Token.spelledBy_ofChar {c : Char} {after : List Char} (hletter : isAlphabetic c = false)
    (hdash : ¬(c = '-' ∧ after.head? = some '>')) : (ofChar c).SpelledBy [c] after := by
  unfold ofChar
  split
  · next h => exact h ▸ .lbrace after
  split
  · next h => exact h ▸ .rbrace after
  split
  · next h => exact h ▸ .colon after
  split
  · next h => exact h ▸ .quote after
  · exact .unknown (by simp [*]) hletter fun hc hafter => hdash ⟨hc, hafter⟩

/-- The first token of a text is spelled by the characters that it takes. -/
theorem Piece.spelledBy (c : Char) (cs : List Char) :
    (Piece.read c cs).token.SpelledBy (Piece.read c cs).text (Piece.read c cs).rest := by
  rcases Bool.eq_false_or_eq_true (isAlphabetic c) with hc | hc
  · rw [Piece.read_word hc]
    exact .word hc (fun x hx => List.mem_takeWhile_imp hx)
      fun x hx => isAlphanumeric_of_head?_dropWhile hx
  by_cases harrow : c = '-' ∧ cs.head? = some '>'
  · obtain ⟨rfl, hcs⟩ := harrow
    rw [Piece.read_arrow hcs]
    exact .arrow _
  · rw [Piece.read_single hc harrow]
    exact Token.spelledBy_ofChar hc harrow

/-- A text that spells a token is read as that token. -/
theorem Token.SpelledBy.read_eq {t : Token} {text after : List Char} (h : t.SpelledBy text after) :
    ∃ c cs, text = c :: cs ∧ Piece.read c (cs ++ after) = ⟨t, c :: cs, after⟩ := by
  have hsingle : ∀ c, isAlphabetic c = false → c ≠ '-' →
      Piece.read c after = ⟨ofChar c, [c], after⟩ :=
    fun c hletter hdash => Piece.read_single hletter fun h => hdash h.1
  cases h with
  | arrow => exact ⟨'-', ['>'], rfl, Piece.read_arrow rfl⟩
  | lbrace => exact ⟨_, [], rfl, hsingle '\x7b' (by decide) (by decide)⟩
  | rbrace => exact ⟨_, [], rfl, hsingle '\x7d' (by decide) (by decide)⟩
  | colon => exact ⟨_, [], rfl, hsingle ':' (by decide) (by decide)⟩
  | quote => exact ⟨_, [], rfl, hsingle '\x22' (by decide) (by decide)⟩
  | word hc hcs hafter => exact ⟨_, _, rfl, Piece.read_word_append hc hcs hafter⟩
  | @unknown c _ hfixed hletter hdash =>
    refine ⟨c, [], rfl, ?_⟩
    have hread : Piece.read c after = ⟨ofChar c, [c], after⟩ :=
      Piece.read_single hletter fun h => hdash h.1 h.2
    simp only [List.mem_cons, List.not_mem_nil, or_false, not_or] at hfixed
    obtain ⟨hl, hr, hcolon, hquote⟩ := hfixed
    rwa [ofChar, if_neg hl, if_neg hr, if_neg hcolon, if_neg hquote] at hread

/-- A token that starts with no blank has none in it. -/
theorem Piece.isBlank_of_mem_text {c x : Char} {cs : List Char} (hc : isBlank c = false)
    (hx : x ∈ (Piece.read c cs).text) : isBlank x = false := by
  have hword : ∀ y, isAlphanumeric y = true → isBlank y = false := by
    intro y hy
    rw [Bool.eq_false_iff]
    intro hblank
    rw [isAlphanumeric_of_isBlank hblank] at hy
    cases hy
  rcases Bool.eq_false_or_eq_true (isAlphabetic c) with hletter | hletter
  · rw [Piece.read_word hletter, List.mem_cons] at hx
    rcases hx with rfl | hx
    · exact hc
    · exact hword x (List.mem_takeWhile_imp hx)
  by_cases harrow : c = '-' ∧ cs.head? = some '>'
  · obtain ⟨rfl, hcs⟩ := harrow
    rw [Piece.read_arrow hcs] at hx
    simp only [List.mem_cons, List.not_mem_nil, or_false] at hx
    rcases hx with rfl | rfl
    · exact hc
    · decide
  · rw [Piece.read_single hletter harrow, List.mem_singleton] at hx
    exact hx ▸ hc

/-! ## Tokenizations -/

/-- The token of a lexeme and its bytes. -/
def Lexeme.placed (x : Lexeme) : Token × Span :=
  (x.token, x.span)

/-- `Tokenization source ts` says that the source consists of the tokens `ts` at their spans. -/
structure Tokenization (source : String) (ts : List (Token × Span)) : Prop where
  /-- Spans begin and end between characters. -/
  boundaries : ∀ p ∈ ts, (⟨p.2.start⟩ : String.Pos.Raw).IsValid source ∧
    (⟨p.2.stop⟩ : String.Pos.Raw).IsValid source
  /-- Spans are in order, and no two of them share a character. -/
  ordered : ts.Pairwise fun p q => p.2.stop ≤ q.2.start
  /-- Every character outside of all spans is blank. -/
  blank_outside : ∀ i c, StandsAt source.toList i c →
    (∀ p ∈ ts, ¬(p.2.start ≤ i ∧ i < p.2.stop)) → isBlank c = true
  /-- No character inside of a span is blank. -/
  solid_inside : ∀ i c, StandsAt source.toList i c →
    ∀ p ∈ ts, p.2.start ≤ i → i < p.2.stop → isBlank c = false
  /-- Each token is spelled by the text at its span, the end of the input excepted. -/
  spelled : ∀ p ∈ ts, p.1 ≠ .endOfInput → ∃ before text after,
    p.2.Splits source.toList before text after ∧ p.1.SpelledBy text after
  /-- The end of the input is the last token and no other, and stands behind the last byte. -/
  ended : ∃ words, ts = words ++ [(.endOfInput, Span.emptyAt source.utf8ByteSize)] ∧
    ∀ p ∈ words, p.1 ≠ .endOfInput

/-- `CutsUp source done words` says that the part of the source behind `done` consists of the tokens
`words` at their spans, none of them the end of the input. -/
structure CutsUp (source done : List Char) (words : List (Token × Span)) : Prop where
  /-- The tokens stand behind `done`. -/
  starts : ∀ p ∈ words, byteLength done ≤ p.2.start
  /-- Spans are in order, and no two of them share a character. -/
  ordered : words.Pairwise fun p q => p.2.stop ≤ q.2.start
  /-- Every character behind `done` and outside of all spans is blank. -/
  blank_outside : ∀ i c, StandsAt source i c → byteLength done ≤ i →
    (∀ p ∈ words, ¬(p.2.start ≤ i ∧ i < p.2.stop)) → isBlank c = true
  /-- Each token is spelled by the text at its span, in which there is no blank. -/
  spelled : ∀ p ∈ words, ∃ before text after, p.2.Splits source before text after ∧
    p.1.SpelledBy text after ∧ ∀ x ∈ text, isBlank x = false

/-- `Tiling offset rest words` says that the text `rest`, which begins at the byte `offset`, is made
up of blanks and the tokens `words`. -/
inductive Tiling : Nat → List Char → List (Token × Span) → Prop
  /-- Only blanks. -/
  | nil {offset : Nat} {rest : List Char} (h : ∀ x ∈ rest, isBlank x = true) : Tiling offset rest []
  /-- Blanks and a token, then more. -/
  | cons {offset : Nat} {blank text after : List Char} {t : Token} {span : Span}
    {words : List (Token × Span)} (hblank : ∀ x ∈ blank, isBlank x = true)
    (hspelled : t.SpelledBy text after) (hsolid : ∀ x ∈ text, isBlank x = false)
    (hstart : offset + byteLength blank = span.start)
    (hstop : offset + byteLength (blank ++ text) = span.stop)
    (hrest : Tiling (offset + byteLength (blank ++ text)) after words) :
    Tiling offset (blank ++ text ++ after) ((t, span) :: words)

/-! ## Tilings and streams -/

/-- The tokens of a tiling are those that are read from its text. -/
theorem Tiling.eq_stream {offset : Nat} {rest : List Char} {words : List (Token × Span)}
    (h : Tiling offset rest words) {c : Cursor} (hrest : c.rest = rest)
    (hoffset : c.offset = offset) :
    c.stream.words.map Lexeme.placed = words := by
  induction h generalizing c with
  | nil h =>
    rw [Cursor.stream_eq_nil (hrest ▸ h)]
    rfl
  | @cons offset blank text after t span words hblank hspelled hsolid hstart hstop _ ih =>
    obtain ⟨y, ys, rfl, hread⟩ := hspelled.read_eq
    have hy : isBlank y = false := hsolid y List.mem_cons_self
    have hfront : c.rest = blank ++ y :: (ys ++ after) := by
      rw [hrest, List.append_assoc, List.cons_append]
    have hnext := Cursor.next_eq hblank hy hfront
    rw [hread] at hnext
    simp only at hnext
    -- The first token of the stream is the first one of the tiling, and the cursor goes on behind.
    have hrun : c.Reads [c.next.1] c.next.2 := by
      refine .cons ?_ (.refl _)
      have htoken := Piece.token_ne_endOfInput y (ys ++ after)
      rw [hread] at htoken
      rw [hnext]
      exact htoken
    have hplaced : c.next.1.placed = (t, span) := by
      obtain ⟨start, stop, hle⟩ := span
      simp only at hstart hstop
      rw [hnext, Lexeme.placed, Prod.mk.injEq, Span.mk.injEq]
      refine ⟨rfl, by rw [hoffset, hstart], ?_⟩
      rw [hoffset, ← hstop, byteLength_append, Nat.add_assoc]
    have htail : c.next.2.stream.words.map Lexeme.placed = words := by
      refine ih ?_ ?_
      · rw [hnext]
        rfl
      · rw [hnext, Cursor.pass, hoffset]
    rw [hrun.stream_eq, List.singleton_append, List.map_cons, hplaced, htail]

/-- What is read from a place on is a tiling of the text from there on. -/
theorem Cursor.tiling_stream (c : Cursor) :
    Tiling c.offset c.rest (c.stream.words.map Lexeme.placed) := by
  induction c using Cursor.stream.induct with
  | case1 c h =>
    rw [stream, dif_pos h]
    exact .nil (next_token_eq_endOfInput_iff.1 h)
  | case2 c h ih =>
    rcases c.rest_cases with hall | ⟨blank, y, ys, hblank, hy, hrest⟩
    · exact absurd (next_token_eq_endOfInput_iff.2 hall) h
    have hnext := next_eq hblank hy hrest
    have hwhole : c.rest = blank ++ (Piece.read y ys).text ++ (Piece.read y ys).rest := by
      rw [hrest, List.append_assoc, Piece.text_append_rest]
    rw [stream, dif_neg h, hwhole, List.map_cons]
    rw [hnext] at ih ⊢
    have hsolid : ∀ x ∈ (Piece.read y ys).text, isBlank x = false :=
      fun x hx => Piece.isBlank_of_mem_text hy hx
    refine .cons hblank (Piece.spelledBy y ys) hsolid rfl ?_ ih
    show c.offset + byteLength (blank ++ (Piece.read y ys).text) =
      c.offset + byteLength blank + byteLength (Piece.read y ys).text
    rw [byteLength_append, Nat.add_assoc]

/-! ## Tilings and tokenizations -/

/-- The tokens that a part of a source consists of tile it. -/
theorem CutsUp.tiling {source done rest : List Char} {words : List (Token × Span)}
    (hsource : source = done ++ rest) (h : CutsUp source done words) :
    Tiling (byteLength done) rest words := by
  -- The induction is on the tokens: behind each of them, the part of the source that is done grows.
  induction words generalizing done rest with
  | nil =>
    refine .nil fun x hx => ?_
    obtain ⟨j, hj⟩ := exists_standsAt hx
    have hstands : StandsAt source (byteLength done + j) x := by
      rw [hsource, standsAt_append, Nat.add_sub_cancel_left]
      exact .inr ⟨Nat.le_add_right _ j, hj⟩
    exact h.blank_outside _ x hstands (Nat.le_add_right _ j) nofun
  | cons p words ih =>
    obtain ⟨t, span⟩ := p
    obtain ⟨hstart, -⟩ := List.forall_mem_cons.1 h.starts
    obtain ⟨hfollow, hordered⟩ := List.pairwise_cons.1 h.ordered
    obtain ⟨⟨before, text, after, hsplits, hspelled, hsolid⟩, hspelleds⟩ :=
      List.forall_mem_cons.1 h.spelled
    simp only at hstart hfollow hsplits hspelled
    have hle := span.start_le_stop
    -- The token stands behind a gap.
    have hcut : done ++ rest = before ++ (text ++ after) := by
      rw [← hsource, hsplits.source_eq, List.append_assoc]
    obtain ⟨gap, hbefore, hrest⟩ := exists_of_byteLength_le hcut (hsplits.start_eq ▸ hstart)
    have hgap_length : byteLength done + byteLength gap = span.start := by
      rw [← byteLength_append, ← hbefore, hsplits.start_eq]
    have hstop : byteLength done + byteLength (gap ++ text) = span.stop := by
      rw [← byteLength_append, ← List.append_assoc, ← hbefore, hsplits.stop_eq]
    -- No span reaches into the gap, so there are only blanks in it.
    have hgap : ∀ x ∈ gap, isBlank x = true := by
      intro x hx
      obtain ⟨j, hj⟩ := exists_standsAt hx
      have hj_lt := hj.lt_byteLength
      have hstands : StandsAt source (byteLength done + j) x := by
        rw [hsource, hrest, standsAt_append, Nat.add_sub_cancel_left, standsAt_append]
        exact .inr ⟨Nat.le_add_right _ j, .inl hj⟩
      refine h.blank_outside _ x hstands (Nat.le_add_right _ j) (List.forall_mem_cons.2 ⟨?_, ?_⟩)
      · simp only
        omega
      · intro q hq
        have := hfollow q hq
        omega
    have htail : CutsUp source (done ++ (gap ++ text)) words := by
      refine ⟨fun q hq => ?_, hordered, fun i c hc hi hout => ?_, hspelleds⟩
      · rw [byteLength_append, hstop]
        exact hfollow q hq
      · rw [byteLength_append, hstop] at hi
        refine h.blank_outside i c hc (by omega) (List.forall_mem_cons.2 ⟨?_, hout⟩)
        simp only
        omega
    have hsource_tail : source = done ++ (gap ++ text) ++ after := by
      rw [hsource, hrest]
      simp
    have hnext := ih hsource_tail htail
    rw [byteLength_append] at hnext
    rw [hrest, ← List.append_assoc]
    exact .cons hgap hspelled hsolid hgap_length hstop hnext

/-- A part of a source that is tiled consists of these tokens. -/
theorem Tiling.cutsUp {offset : Nat} {rest : List Char} {words : List (Token × Span)}
    (h : Tiling offset rest words) {source done : List Char} (hsource : source = done ++ rest)
    (hoffset : byteLength done = offset) : CutsUp source done words := by
  induction h generalizing done with
  | nil h =>
    refine ⟨nofun, .nil, fun i c hstands hi _ => ?_, nofun⟩
    rw [hsource, standsAt_append] at hstands
    rcases hstands with hdone | ⟨-, hrest⟩
    · exact absurd hdone.lt_byteLength (Nat.not_lt.2 hi)
    · exact h c hrest.mem
  | @cons offset blank text after t span words hblank hspelled hsolid hstart hstop _ ih =>
    have hle := span.start_le_stop
    have hdone : byteLength (done ++ (blank ++ text)) = span.stop := by
      rw [byteLength_append, hoffset, hstop]
    have hsplits : span.Splits source (done ++ blank) text after := by
      refine ⟨by rw [hsource]; simp, ?_, by rw [List.append_assoc, hdone]⟩
      rw [byteLength_append, hoffset, hstart]
    have hsource_tail : source = done ++ (blank ++ text) ++ after := by
      rw [hsource]
      simp
    have htail := ih hsource_tail (by rw [hdone, hstop])
    have hfollow : ∀ q ∈ words, span.stop ≤ q.2.start := fun q hq => hdone ▸ htail.starts q hq
    refine ⟨?_, List.pairwise_cons.2 ⟨hfollow, htail.ordered⟩, fun i c hstands hi hout => ?_,
      List.forall_mem_cons.2 ⟨⟨_, _, _, hsplits, hspelled, hsolid⟩, htail.spelled⟩⟩
    · refine List.forall_mem_cons.2 ⟨by simp only; omega, fun q hq => ?_⟩
      have := hfollow q hq
      omega
    · obtain ⟨hthis, hothers⟩ := List.forall_mem_cons.1 hout
      -- Behind what is done stand the blanks, the token, and what is behind it.
      rcases Nat.lt_or_ge i span.stop with hlt | hge
      · have hparts := hstands
        rw [hsource, standsAt_append, List.append_assoc, standsAt_append] at hparts
        rcases hparts with hfront | ⟨-, hgap | ⟨hge, -⟩⟩
        · exact absurd hfront.lt_byteLength (Nat.not_lt.2 hi)
        · exact hblank c hgap.mem
        · -- The token covers the character.
          exact absurd ⟨by simp only; omega, hlt⟩ hthis
      · exact htail.blank_outside i c hstands (hdone ▸ hge) hothers

/-- A token that a text spells is not the end of the input. -/
theorem Token.SpelledBy.ne_endOfInput {t : Token} {text after : List Char}
    (h : t.SpelledBy text after) : t ≠ .endOfInput := by
  obtain ⟨c, cs, -, hread⟩ := h.read_eq
  have htoken := Piece.token_ne_endOfInput c (cs ++ after)
  rwa [hread] at htoken

/-- In front of the end of the input, a source consists of the tokens of its tokenization. -/
theorem Tokenization.exists_cutsUp {source : String} {ts : List (Token × Span)}
    (h : Tokenization source ts) :
    ∃ words, ts = words ++ [(.endOfInput, Span.emptyAt source.utf8ByteSize)] ∧
      CutsUp source.toList [] words := by
  obtain ⟨words, rfl, hwords⟩ := h.ended
  refine ⟨words, rfl, fun p _ => Nat.zero_le _, (List.pairwise_append.1 h.ordered).1, ?_, ?_⟩
  · -- Nothing stands in the span of the end of the input.
    intro i c hstands _ hout
    refine h.blank_outside i c hstands fun p hp => ?_
    rcases List.mem_append.1 hp with hp | hp
    · exact hout p hp
    · rw [List.mem_singleton.1 hp]
      exact fun hi => Nat.not_lt.2 hi.1 hi.2
  · intro p hp
    have hmem := List.mem_append_left [(Token.endOfInput, Span.emptyAt source.utf8ByteSize)] hp
    obtain ⟨before, text, after, hsplits, hspelled⟩ := h.spelled p hmem (hwords p hp)
    refine ⟨before, text, after, hsplits, hspelled, fun x hx => ?_⟩
    obtain ⟨i, hstands, hstart, hstop⟩ := hsplits.mem_text_iff.1 hx
    exact h.solid_inside i x hstands p hmem hstart hstop

/-- The tokens that a source consists of end inside of it. -/
theorem CutsUp.stop_le {source : String} {words : List (Token × Span)}
    (h : CutsUp source.toList [] words) : ∀ p ∈ words, p.2.stop ≤ source.utf8ByteSize := by
  intro p hp
  obtain ⟨before, text, after, hsplits, -⟩ := h.spelled p hp
  calc p.2.stop = byteLength (before ++ text) := hsplits.stop_eq.symm
    _ ≤ byteLength (before ++ text) + byteLength after := Nat.le_add_right _ _
    _ = byteLength source.toList := by rw [← byteLength_append, ← hsplits.source_eq]
    _ = source.utf8ByteSize := byteLength_toList source

/-- A source is tokenized by the tokens that it consists of, with the end of the input behind
them. -/
theorem CutsUp.tokenization {source : String} {words : List (Token × Span)}
    (h : CutsUp source.toList [] words) :
    Tokenization source (words ++ [(.endOfInput, Span.emptyAt source.utf8ByteSize)]) where
  boundaries := by
    refine List.forall_mem_append.2 ⟨fun p hp => ?_, List.forall_mem_singleton.2 ?_⟩
    · obtain ⟨before, text, after, hsplits, -⟩ := h.spelled p hp
      exact hsplits.isValid
    · have hvalid := String.Pos.Raw.isValid_rawEndPos (s := source)
      exact ⟨hvalid, hvalid⟩
  ordered := by
    refine List.pairwise_append.2 ⟨h.ordered, List.pairwise_singleton _ _, fun p hp q hq => ?_⟩
    rw [List.mem_singleton.1 hq]
    exact h.stop_le p hp
  blank_outside := by
    intro i c hstands hout
    exact h.blank_outside i c hstands (Nat.zero_le i) fun p hp => hout p (List.mem_append_left _ hp)
  solid_inside := by
    intro i c hstands p hp hstart hstop
    rcases List.mem_append.1 hp with hp | hp
    · obtain ⟨before, text, after, hsplits, -, hsolid⟩ := h.spelled p hp
      exact hsolid c (hsplits.mem_text_iff.2 ⟨i, hstands, hstart, hstop⟩)
    · -- Nothing stands in the span of the end of the input.
      rw [List.mem_singleton.1 hp, Span.emptyAt] at hstart hstop
      exact absurd hstop (Nat.not_lt.2 hstart)
  spelled := by
    intro p hp hne
    rcases List.mem_append.1 hp with hp | hp
    · obtain ⟨before, text, after, hsplits, hspelled, -⟩ := h.spelled p hp
      exact ⟨before, text, after, hsplits, hspelled⟩
    · rw [List.mem_singleton.1 hp] at hne
      exact absurd rfl hne
  ended := by
    refine ⟨words, rfl, fun p hp => ?_⟩
    obtain ⟨before, text, after, -, hspelled, -⟩ := h.spelled p hp
    exact hspelled.ne_endOfInput

/-- The words that are read from a source are what it consists of. -/
theorem TokenStream.cutsUp (source : String) :
    CutsUp source.toList [] ((ofString source).words.map Lexeme.placed) :=
  (Cursor.ofString source).tiling_stream.cutsUp rfl rfl

/-- The end of the input is read behind the last byte of a source. -/
theorem TokenStream.placed_stop (source : String) :
    (ofString source).stop.placed = (.endOfInput, Span.emptyAt source.utf8ByteSize) := by
  rw [ofString, Cursor.stream_stop, ← byteLength_toList]
  show (Token.endOfInput, Span.emptyAt (0 + byteLength source.toList)) = _
  rw [Nat.zero_add]

/-- The tokens that are read from a source are its only tokenization: they lie in order between
characters, with all blanks of the source and nothing else outside of them; each is spelled by its
text, words as long as they go; and the end of the input comes once, behind the last byte. -/
theorem tokenization_iff_eq_stream (source : String) (ts : List (Token × Span)) :
    Tokenization source ts ↔ ts = (TokenStream.ofString source).toList.map Lexeme.placed := by
  rw [TokenStream.toList, List.map_append, List.map_singleton, TokenStream.placed_stop]
  constructor
  · intro h
    obtain ⟨words, rfl, hwords⟩ := h.exists_cutsUp
    have htiling := hwords.tiling (List.nil_append source.toList).symm
    rw [TokenStream.ofString, htiling.eq_stream (c := Cursor.ofString source) rfl rfl]
  · rintro rfl
    exact (TokenStream.cutsUp source).tokenization

end DiagramCheck
