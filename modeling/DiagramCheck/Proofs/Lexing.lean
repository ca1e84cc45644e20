import DiagramCheck.Token.Lexer
import Mathlib.Data.List.TakeWhile

/-!
# How the reading of tokens proceeds

`Piece.read` knows three kinds of tokens: the arrow, a word, and a character by itself. What it
takes depends on the text behind the token only by that text's first character: whether it would be
read as a part of the token (`Token.continuedBy`, `Piece.read_of_not_continued`). If it would, the
token becomes another one (`Piece.token_ne_of_continued`).

`Cursor.Reads` is a run of a cursor over tokens other than the end of the input, and
`Cursor.Reads.stream_eq` says that a stream is what a run reads, followed by the stream behind it. A
run reads the same tokens when the text behind it is cut off and goes on in any way that does not
continue the last of them (`Cursor.Reads.replace`).

The words of a stream follow one another in the source, and none of them is empty or the end of the
input (`Cursor.stream_spans`, `Cursor.stream_ended`).
-/

namespace DiagramCheck

open Text

/-! ## Blanks and words -/

namespace Text

/-- The code points of the blank characters. -/
def blankCodes : List Nat :=
  blanks.flatMap fun r => List.range' r.1 (r.2 + 1 - r.1)

/-- No blank code point is that of a character in a word. -/
theorem isAlphanumeric_of_mem_blankCodes :
    ∀ k ∈ blankCodes, isAlphanumeric (Char.ofNat k) = false := by
  decide +kernel

/-- No blank stands in a word. -/
theorem isAlphanumeric_of_isBlank {c : Char} (h : isBlank c = true) : isAlphanumeric c = false := by
  -- There are few blanks, so the fact is checked for each of their code points.
  obtain ⟨r, hr, hlow, hhigh⟩ := inRanges_iff.1 h
  have hmem : c.toNat ∈ blankCodes := by
    refine List.mem_flatMap.2 ⟨r, hr, ?_⟩
    rw [List.mem_range'_1]
    omega
  rw [← Char.ofNat_toNat c]
  exact isAlphanumeric_of_mem_blankCodes _ hmem

end Text

/-! ## The first token of a text -/

/-- The token that a character is when it stands for itself. -/
def Token.ofChar (c : Char) : Token :=
  if c = '\x7b' then .lbrace
  else if c = '\x7d' then .rbrace
  else if c = ':' then .colon
  else if c = '\x22' then .quote
  else .unknown (String.singleton c)

/-- A dash before a closing angle is the arrow. -/
theorem Piece.read_arrow {cs : List Char} (h : cs.head? = some '>') :
    Piece.read '-' cs = ⟨.arrow, ['-', '>'], cs.tail⟩ := by
  simp [Piece.read, h]

/-- An alphabetic character starts a word, which is taken as long as possible. -/
theorem Piece.read_word {c : Char} (h : isAlphabetic c = true) (cs : List Char) :
    Piece.read c cs = ⟨.ofWord (String.ofList (c :: cs.takeWhile isAlphanumeric)),
      c :: cs.takeWhile isAlphanumeric, cs.dropWhile isAlphanumeric⟩ := by
  -- None of the characters that `Piece.read` asks for first is alphabetic.
  have hne : ∀ d, isAlphabetic d = false → c ≠ d := by
    rintro d hd rfl
    rw [h] at hd
    cases hd
  unfold Piece.read
  rw [if_neg fun hdash => hne '-' (by decide) hdash.1, if_neg (hne '\x7b' (by decide)),
    if_neg (hne '\x7d' (by decide)), if_neg (hne ':' (by decide)), if_neg (hne '\x22' (by decide)),
    if_pos h]

/-- Any other character is a token by itself. -/
theorem Piece.read_single {c : Char} {cs : List Char} (h : isAlphabetic c = false)
    (hdash : ¬(c = '-' ∧ cs.head? = some '>')) : Piece.read c cs = ⟨.ofChar c, [c], cs⟩ := by
  unfold Piece.read Token.ofChar
  rw [if_neg hdash]
  split
  · rfl
  split
  · rfl
  split
  · rfl
  split
  · rfl
  simp [h]

/-- A text that starts with no character of a word has nothing that continues a word. -/
theorem takeWhile_isAlphanumeric_eq_nil {r : List Char}
    (h : ∀ x, r.head? = some x → isAlphanumeric x = false) : r.takeWhile isAlphanumeric = [] := by
  cases r with
  | nil => rfl
  | cons x xs => simp [h x rfl]

/-- The first character behind a word does not continue it. -/
theorem isAlphanumeric_of_head?_dropWhile {cs : List Char} {x : Char}
    (h : (cs.dropWhile isAlphanumeric).head? = some x) : isAlphanumeric x = false := by
  have hx := List.head?_dropWhile_not isAlphanumeric cs
  rw [h] at hx
  simpa using hx

/-- A word is read as far as it goes when a text that does not continue it follows. -/
theorem Piece.read_word_append {c : Char} {word r : List Char} (h : isAlphabetic c = true)
    (hword : ∀ x ∈ word, isAlphanumeric x = true)
    (hr : ∀ x, r.head? = some x → isAlphanumeric x = false) :
    Piece.read c (word ++ r) = ⟨.ofWord (String.ofList (c :: word)), c :: word, r⟩ := by
  have hstop : r.takeWhile isAlphanumeric = [] := takeWhile_isAlphanumeric_eq_nil hr
  have hdrop : r.dropWhile isAlphanumeric = r := by
    have := List.takeWhile_append_dropWhile (p := isAlphanumeric) (l := r)
    rwa [hstop, List.nil_append] at this
  rw [Piece.read_word h, List.takeWhile_append_of_pos hword, List.dropWhile_append_of_pos hword,
    hstop, hdrop, List.append_nil]

/-! ### What a token would take in -/

/-- Whether a character that stands right behind a token would be read as a part of it. -/
def Token.continuedBy : Token → Char → Bool
  | .node, x | .edge, x | .color, x | .label, x | .identifier _, x => isAlphanumeric x
  | .unknown text, x => text == "-" && x == '>'
  | .arrow, _ | .colon, _ | .lbrace, _ | .rbrace, _ | .quote, _ | .endOfInput, _ => false

/-- Words are continued by the characters of a word, keyword or not. -/
theorem Token.continuedBy_ofWord (word : String) (x : Char) :
    (ofWord word).continuedBy x = isAlphanumeric x := by
  unfold ofWord
  split <;> rfl

/-- A character by itself is continued only where it is the first half of an arrow. -/
theorem Token.continuedBy_ofChar (c x : Char) :
    (ofChar c).continuedBy x = (c == '-' && x == '>') := by
  unfold ofChar
  split
  · next h => rw [h]; rfl
  split
  · next h => rw [h]; rfl
  split
  · next h => rw [h]; rfl
  split
  · next h => rw [h]; rfl
  rw [continuedBy, show ("-" : String) = String.singleton '-' from rfl, Bool.eq_iff_iff]
  simp [← String.toList_inj]

/-- A blank ends every token. -/
theorem Token.continuedBy_of_isBlank {x : Char} (h : isBlank x = true) (t : Token) :
    t.continuedBy x = false := by
  have hword := isAlphanumeric_of_isBlank h
  have hangle : (x == '>') = false := by
    rw [beq_eq_false_iff_ne]
    rintro rfl
    exact absurd h (by decide)
  cases t <;> simp [continuedBy, hword, hangle]

/-- The text behind the first token does not continue it. -/
theorem Piece.continuedBy_of_head?_rest {c x : Char} {cs : List Char}
    (h : (Piece.read c cs).rest.head? = some x) :
    (Piece.read c cs).token.continuedBy x = false := by
  rcases Bool.eq_false_or_eq_true (isAlphabetic c) with hc | hc
  · rw [Piece.read_word hc] at h ⊢
    rw [Token.continuedBy_ofWord]
    exact isAlphanumeric_of_head?_dropWhile h
  by_cases harrow : c = '-' ∧ cs.head? = some '>'
  · obtain ⟨rfl, hcs⟩ := harrow
    rw [Piece.read_arrow hcs]
    rfl
  · rw [Piece.read_single hc harrow] at h ⊢
    rw [Token.continuedBy_ofChar, Bool.eq_false_iff]
    intro hdash
    simp only [Bool.and_eq_true, beq_iff_eq] at hdash
    exact harrow ⟨hdash.1, by rw [h, hdash.2]⟩

/-- The first token stays the same when the text behind it changes, as long as the new text does not
continue it. -/
theorem Piece.read_of_not_continued {c : Char} {cs r : List Char}
    (h : ∀ x, r.head? = some x → (Piece.read c cs).token.continuedBy x = false) :
    Piece.read c ((Piece.read c cs).text.tail ++ r) =
      ⟨(Piece.read c cs).token, (Piece.read c cs).text, r⟩ := by
  rcases Bool.eq_false_or_eq_true (isAlphabetic c) with hc | hc
  · rw [Piece.read_word hc cs] at h ⊢
    exact Piece.read_word_append hc (fun x hx => List.mem_takeWhile_imp hx) fun x hx =>
      Token.continuedBy_ofWord _ x ▸ h x hx
  by_cases harrow : c = '-' ∧ cs.head? = some '>'
  · obtain ⟨rfl, hcs⟩ := harrow
    rw [Piece.read_arrow hcs]
    exact Piece.read_arrow rfl
  · -- A lone dash must not come to stand before the other half of an arrow.
    have hdash : ¬(c = '-' ∧ r.head? = some '>') := by
      rintro ⟨rfl, hr⟩
      rw [Piece.read_single hc harrow] at h
      have hcontinued := h _ hr
      rw [Token.continuedBy_ofChar] at hcontinued
      cases hcontinued
    rw [Piece.read_single hc harrow]
    exact Piece.read_single hc hdash

/-- Words that begin with the same character and are the same token are the same. -/
theorem Token.eq_of_ofWord_eq {v w : String} (h : ofWord v = ofWord w)
    (hhead : v.toList.head? = w.toList.head?) : v = w := by
  -- Different words are the same token only if they are two spellings of one keyword, and these do
  -- not begin with the same character.
  unfold ofWord at h
  split at h <;> split at h <;> first
    | rfl
    | exact Token.identifier.inj h
    | exact absurd hhead (by decide)
    | cases h

/-- A text that continues the first token makes another token of it. -/
theorem Piece.token_ne_of_continued {c x : Char} {cs r : List Char} (hr : r.head? = some x)
    (h : (Piece.read c cs).token.continuedBy x = true) :
    (Piece.read c ((Piece.read c cs).text.tail ++ r)).token ≠ (Piece.read c cs).token := by
  rcases Bool.eq_false_or_eq_true (isAlphabetic c) with hc | hc
  · -- The word takes in at least one character more.
    obtain ⟨rs, rfl⟩ := List.head?_eq_some_iff.1 hr
    rw [Piece.read_word hc cs, Token.continuedBy_ofWord] at h
    intro heq
    rw [Piece.read_word hc cs, Piece.read_word hc, List.tail_cons,
      List.takeWhile_append_of_pos fun y hy => List.mem_takeWhile_imp hy,
      List.takeWhile_cons_of_pos h] at heq
    have hword := Token.eq_of_ofWord_eq heq (by simp)
    rw [String.ofList_inj, List.cons.injEq] at hword
    simp at hword
  by_cases harrow : c = '-' ∧ cs.head? = some '>'
  · obtain ⟨rfl, hcs⟩ := harrow
    rw [Piece.read_arrow hcs] at h
    cases h
  · rw [Piece.read_single hc harrow] at h ⊢
    rw [Token.continuedBy_ofChar, Bool.and_eq_true, beq_iff_eq, beq_iff_eq] at h
    obtain ⟨rfl, rfl⟩ := h
    rw [List.tail_cons, List.nil_append, Piece.read_arrow hr]
    nofun

/-- A word is not the end of the input. -/
theorem Token.ofWord_ne_endOfInput (word : String) : Token.ofWord word ≠ .endOfInput := by
  unfold Token.ofWord
  split <;> simp

/-- No character is read as the end of the input. -/
theorem Piece.token_ne_endOfInput (c : Char) (cs : List Char) :
    (Piece.read c cs).token ≠ .endOfInput := by
  rcases Bool.eq_false_or_eq_true (isAlphabetic c) with hc | hc
  · rw [Piece.read_word hc]
    exact Token.ofWord_ne_endOfInput _
  by_cases harrow : c = '-' ∧ cs.head? = some '>'
  · obtain ⟨rfl, hcs⟩ := harrow
    rw [Piece.read_arrow hcs]
    simp
  · rw [Piece.read_single hc harrow]
    unfold Token.ofChar
    repeat' split
    all_goals simp

/-- The first token starts with the first character. -/
theorem Piece.text_eq_cons (c : Char) (cs : List Char) :
    (Piece.read c cs).text = c :: (Piece.read c cs).text.tail := by
  have h := Piece.text_append_rest c cs
  cases htext : (Piece.read c cs).text with
  | nil => exact absurd htext (Piece.text_ne_nil c cs)
  | cons d ds =>
    rw [htext, List.cons_append] at h
    rw [List.tail_cons, (List.cons.inj h).1]

namespace Cursor

/-! ## One token of a cursor -/

/-- A text is passed in two parts as it is passed as a whole. -/
theorem pass_pass (c : Cursor) (a b r r' : List Char) :
    (c.pass a r).pass b r' = c.pass (a ++ b) r' := by
  simp only [pass]
  rw [byteLength_append, Position.advanceOver_append, Nat.add_assoc]

/-- The next token, where the text shows the blanks before it and its first character. -/
theorem next_eq {c : Cursor} {blank ys : List Char} {y : Char}
    (hblank : ∀ x ∈ blank, isBlank x = true) (hy : isBlank y = false)
    (hrest : c.rest = blank ++ y :: ys) :
    c.next = (⟨(Piece.read y ys).token, c.position.advanceOver blank,
        ⟨c.offset + byteLength blank,
          c.offset + byteLength blank + byteLength (Piece.read y ys).text, Nat.le_add_right _ _⟩⟩,
      c.pass (blank ++ (Piece.read y ys).text) (Piece.read y ys).rest) := by
  have htake : c.rest.takeWhile isBlank = blank := by
    rw [hrest, List.takeWhile_append_of_pos hblank]
    simp [hy]
  have hdrop : c.rest.dropWhile isBlank = y :: ys := by
    rw [hrest, List.dropWhile_append_of_pos hblank]
    simp [hy]
  have hskip : c.skipBlanks = c.pass blank (y :: ys) := by
    rw [skipBlanks, htake, hdrop]
  rw [next, hskip, ← pass_pass c blank _ (y :: ys)]
  rfl

/-- The next token, where there are only blanks. -/
theorem next_eq_endOfInput {c : Cursor} (hrest : ∀ x ∈ c.rest, isBlank x = true) :
    c.next = (⟨.endOfInput, c.finish.position, Span.emptyAt c.finish.offset⟩, c.finish) := by
  have htake : c.rest.takeWhile isBlank = c.rest := List.takeWhile_eq_self_iff.2 hrest
  have hdrop : c.rest.dropWhile isBlank = [] := List.dropWhile_eq_nil_iff.2 hrest
  rw [next, skipBlanks, htake, hdrop]
  rfl

/-- What is unread is blank, or has a first character that is not. -/
theorem rest_cases (c : Cursor) : (∀ x ∈ c.rest, isBlank x = true) ∨
    ∃ blank y ys, (∀ x ∈ blank, isBlank x = true) ∧ isBlank y = false ∧
      c.rest = blank ++ y :: ys := by
  have hsplit := List.takeWhile_append_dropWhile (p := isBlank) (l := c.rest)
  have hblank : ∀ x ∈ c.rest.takeWhile isBlank, isBlank x = true :=
    fun x hx => List.mem_takeWhile_imp hx
  cases hdrop : c.rest.dropWhile isBlank with
  | nil =>
    rw [hdrop, List.append_nil] at hsplit
    exact .inl (hsplit ▸ hblank)
  | cons y ys =>
    have hy := List.head?_dropWhile_not isBlank c.rest
    rw [hdrop] at hy hsplit
    exact .inr ⟨_, y, ys, hblank, by simpa using hy, hsplit.symm⟩

/-- A text without blanks at the front is read, and a blank one is at its end. -/
theorem next_token_eq_endOfInput_iff {c : Cursor} :
    c.next.1.token = .endOfInput ↔ ∀ x ∈ c.rest, isBlank x = true := by
  rcases c.rest_cases with h | ⟨blank, y, ys, hblank, hy, hrest⟩
  · rw [next_eq_endOfInput h]
    exact ⟨fun _ => h, fun _ => rfl⟩
  · rw [next_eq hblank hy hrest]
    constructor
    · intro h
      exact absurd h (Piece.token_ne_endOfInput y ys)
    · intro h
      have := h y (by simp [hrest])
      rw [hy] at this
      cases this

/-- The bytes of a token that is not the end of the input begin where the cursor stands or behind
it, are at least one, and end where the cursor goes on. -/
theorem next_span {c : Cursor} (h : c.next.1.token ≠ .endOfInput) :
    c.offset ≤ c.next.1.span.start ∧ c.next.1.span.start < c.next.1.span.stop ∧
      c.next.1.span.stop = c.next.2.offset := by
  rcases c.rest_cases with hall | ⟨blank, y, ys, hblank, hy, hrest⟩
  · exact absurd (next_token_eq_endOfInput_iff.2 hall) h
  rw [next_eq hblank hy hrest]
  have hpos : 0 < byteLength (Piece.read y ys).text := by
    rw [Piece.text_eq_cons, byteLength]
    have := y.utf8Size_pos
    omega
  simp only [pass, byteLength_append]
  omega

/-! ## Runs of a cursor -/

/-- `c.Reads xs c'` says that the tokens `xs`, none of them the end of the input, are read between
the places `c` and `c'`. -/
inductive Reads : Cursor → List Lexeme → Cursor → Prop
  /-- Nothing is read on the spot. -/
  | refl (c : Cursor) : Reads c [] c
  /-- A token, then more. -/
  | cons {c c' : Cursor} {xs : List Lexeme} (h : c.next.1.token ≠ .endOfInput)
    (hrest : Reads c.next.2 xs c') : Reads c (c.next.1 :: xs) c'

/-- A token in front of a run, where the place behind it is known. -/
theorem Reads.of_next {c c₁ c' : Cursor} {x : Lexeme} {xs : List Lexeme} (hnext : c.next = (x, c₁))
    (hx : x.token ≠ .endOfInput) (h : c₁.Reads xs c') : c.Reads (x :: xs) c' := by
  have hrun := @Reads.cons c c' xs
  rw [hnext] at hrun
  exact hrun hx h

/-- Two runs, one behind the other. -/
theorem Reads.trans {c c' c'' : Cursor} {xs ys : List Lexeme} (h : c.Reads xs c')
    (h' : c'.Reads ys c'') : c.Reads (xs ++ ys) c'' := by
  induction h with
  | refl => exact h'
  | cons h _ ih => exact .cons h (ih h')

/-- A stream begins with what a run reads, and goes on with the stream behind it. -/
theorem Reads.stream_eq {c c' : Cursor} {xs : List Lexeme} (h : c.Reads xs c') :
    c.stream = ⟨xs ++ c'.stream.words, c'.stream.stop⟩ := by
  induction h with
  | refl => rfl
  | cons h _ ih =>
    rw [stream, dif_neg h]
    simp [ih]

/-- Where there are only blanks, a stream has no words. -/
theorem stream_eq_nil {c : Cursor} (hrest : ∀ x ∈ c.rest, isBlank x = true) :
    c.stream = ⟨[], ⟨.endOfInput, c.finish.position, Span.emptyAt c.finish.offset⟩⟩ := by
  rw [stream, dif_pos (next_token_eq_endOfInput_iff.2 hrest), next_eq_endOfInput hrest]

/-- A run reads up to each place of a stream. -/
theorem reads_take (c : Cursor) (k : Nat) (hk : k ≤ c.stream.words.length) :
    ∃ c', c.Reads (c.stream.words.take k) c' := by
  induction k generalizing c with
  | zero => exact ⟨c, .refl c⟩
  | succ k ih =>
    by_cases hend : c.next.1.token = .endOfInput
    · rw [stream, dif_pos hend] at hk
      simp at hk
    · rw [stream, dif_neg hend] at hk ⊢
      obtain ⟨c', hc'⟩ := ih c.next.2 (by simpa using hk)
      exact ⟨c', .cons hend hc'⟩

/-- The same place of another text. -/
def withRest (c : Cursor) (r : List Char) : Cursor :=
  ⟨r, c.offset, c.position⟩

/-- Every token of a run takes at least one character. -/
theorem Reads.length_le {c c' : Cursor} {xs : List Lexeme} (h : c.Reads xs c') :
    xs.length + c'.rest.length ≤ c.rest.length := by
  induction h with
  | refl => simp
  | cons h _ ih =>
    have := next_rest_lt h
    rw [List.length_cons]
    omega

/-- A run passes over a text of its own. The text behind it may be replaced by any that does not
continue the last token: the run reads the same tokens. -/
theorem Reads.replace {c c' : Cursor} {xs : List Lexeme} (h : c.Reads xs c') :
    ∃ text, c.rest = text ++ c'.rest ∧ c' = c.pass text c'.rest ∧
      ∀ r, (∀ x, r.head? = some x → ∀ y ∈ xs.getLast?, y.token.continuedBy x = false) →
        (c.withRest (text ++ r)).Reads xs (c.pass text r) := by
  -- The induction is on the run, from its last token to its first: what follows a token is read
  -- already, so only its first character matters for the token itself.
  induction h with
  | refl c => exact ⟨[], rfl, rfl, fun r _ => .refl _⟩
  | @cons c c' xs h hxs ih =>
    have hlength := hxs.length_le
    rcases c.rest_cases with hall | ⟨blank, y, ys, hblank, hy, hrest⟩
    · exact absurd (next_token_eq_endOfInput_iff.2 hall) h
    rw [next_eq hblank hy hrest] at ih h hlength ⊢
    obtain ⟨text, htext, hc', hreplace⟩ := ih
    simp only [pass] at htext hlength
    refine ⟨blank ++ (Piece.read y ys).text ++ text, ?_, ?_, fun r hr => ?_⟩
    · rw [List.append_assoc, ← htext, List.append_assoc, Piece.text_append_rest, hrest]
    · rw [hc', pass_pass]
      rfl
    · -- The first token still stands before the text that followed it, or is the last one.
      have hhead : ∀ x, (text ++ r).head? = some x →
          (Piece.read y ys).token.continuedBy x = false := by
        intro x hx
        cases text with
        | nil =>
          have hnil : xs = [] := by
            rw [htext, List.nil_append] at hlength
            exact List.length_eq_zero_iff.1 (by omega)
          exact hr x hx _ (by rw [hnil]; rfl)
        | cons z zs => exact Piece.continuedBy_of_head?_rest (htext ▸ hx)
      have hlast : ∀ x, r.head? = some x → ∀ z ∈ xs.getLast?, z.token.continuedBy x = false :=
        fun x hx z hz => hr x hx z (by rw [List.getLast?_cons, hz]; rfl)
      have hwhole : blank ++ (Piece.read y ys).text ++ text ++ r =
          blank ++ y :: ((Piece.read y ys).text.tail ++ (text ++ r)) := by
        rw [← List.cons_append, ← Piece.text_eq_cons]
        simp
      have hnext := next_eq (c := c.withRest (blank ++ (Piece.read y ys).text ++ text ++ r))
        hblank hy hwhole
      rw [Piece.read_of_not_continued hhead] at hnext
      have hrun := hreplace r hlast
      rw [pass_pass] at hrun
      exact .of_next hnext h hrun

/-- A run over tokens that stand one behind the other comes past a place between them. -/
theorem Reads.exists_of_append {c c'' : Cursor} {xs ys : List Lexeme} (h : c.Reads (xs ++ ys) c'') :
    ∃ c', c.Reads xs c' ∧ c'.Reads ys c'' := by
  induction xs generalizing c with
  | nil => exact ⟨c, .refl c, h⟩
  | cons x xs ih =>
    cases h with
    | cons hx hrest =>
      obtain ⟨c', hxs, hys⟩ := ih hrest
      exact ⟨c', .cons hx hxs, hys⟩

/-- The last token of a run is read from the text in front of it. -/
theorem Reads.exists_of_concat {c c' : Cursor} {xs : List Lexeme} {x : Lexeme}
    (h : c.Reads (xs ++ [x]) c') : ∃ c₀ blank y ys, c.Reads xs c₀ ∧ c₀.rest = blank ++ y :: ys ∧
      (∀ z ∈ blank, isBlank z = true) ∧ isBlank y = false ∧ x.token = (Piece.read y ys).token ∧
      c'.rest = (Piece.read y ys).rest := by
  obtain ⟨c₀, hxs, hx⟩ := h.exists_of_append
  cases hx with
  | cons hx hrest =>
    cases hrest with
    | refl =>
      rcases c₀.rest_cases with hall | ⟨blank, y, ys, hblank, hy, hrest⟩
      · exact absurd (next_token_eq_endOfInput_iff.2 hall) hx
      · refine ⟨c₀, blank, y, ys, hxs, hrest, hblank, hy, ?_, ?_⟩ <;> rw [next_eq hblank hy hrest]
        rfl

/-- What follows a run does not continue its last token. -/
theorem Reads.continuedBy_of_head? {c c' : Cursor} {xs : List Lexeme} {y : Char}
    (h : c.Reads xs c') (hy : c'.rest.head? = some y) :
    ∀ x ∈ xs.getLast?, x.token.continuedBy y = false := by
  intro x hx
  obtain ⟨ys, rfl⟩ := List.getLast?_eq_some_iff.1 hx
  obtain ⟨c₀, blank, z, zs, -, -, -, -, htoken, hrest⟩ := h.exists_of_concat
  rw [htoken]
  exact Piece.continuedBy_of_head?_rest (hrest ▸ hy)

/-- The tokens from a place on depend on the text from there on, and not on the place. -/
theorem tokens_stream_congr {c c' : Cursor} (h : c.rest = c'.rest) :
    c.stream.tokens = c'.stream.tokens := by
  induction c using Cursor.stream.induct generalizing c' with
  | case1 c hend =>
    rw [next_token_eq_endOfInput_iff] at hend
    rw [stream_eq_nil hend, stream_eq_nil (h ▸ hend)]
    rfl
  | case2 c hend ih =>
    rcases c.rest_cases with hall | ⟨blank, y, ys, hblank, hy, hrest⟩
    · exact absurd (next_token_eq_endOfInput_iff.2 hall) hend
    have hnext := next_eq hblank hy hrest
    have hnext' := next_eq hblank hy (h ▸ hrest)
    have hend' : c'.next.1.token ≠ .endOfInput := by
      rw [hnext']
      exact Piece.token_ne_endOfInput y ys
    have htoken : c.next.1.token = c'.next.1.token := by rw [hnext, hnext']
    have hbehind : c.next.2.rest = c'.next.2.rest := by rw [hnext, hnext']; rfl
    rw [stream, dif_neg hend, stream.eq_def c', dif_neg hend', TokenStream.tokens,
      TokenStream.tokens, List.map_cons, List.map_cons, htoken]
    exact congrArg _ (ih hbehind)

/-- A stream is a run over its words, behind which there are only blanks. -/
theorem reads_stream (c : Cursor) :
    ∃ c', c.Reads c.stream.words c' ∧ ∀ x ∈ c'.rest, isBlank x = true := by
  induction c using Cursor.stream.induct with
  | case1 c h =>
    rw [stream, dif_pos h]
    exact ⟨c, .refl c, next_token_eq_endOfInput_iff.1 h⟩
  | case2 c h ih =>
    rw [stream, dif_neg h]
    obtain ⟨c', hrun, hblank⟩ := ih
    exact ⟨c', .cons h hrun, hblank⟩

/-- A stream ends behind the last character of the text. -/
theorem stream_stop (c : Cursor) :
    c.stream.stop = ⟨.endOfInput, c.finish.position, Span.emptyAt c.finish.offset⟩ := by
  obtain ⟨c', hrun, hblank⟩ := c.reads_stream
  obtain ⟨text, hrest, hc', -⟩ := hrun.replace
  have hfinish : c'.finish = c.finish := by
    rw [finish, finish, hc', pass_pass, ← hc', ← hrest]
  have hstream := hrun.stream_eq
  rw [stream_eq_nil hblank, hfinish] at hstream
  exact congrArg TokenStream.stop hstream

end Cursor

/-! ## The end of the input, and the order of the tokens -/

/-- A stream ends with the end of the input, and has it nowhere else. -/
structure TokenStream.Ended (s : TokenStream) : Prop where
  /-- The last token is the end of the input. -/
  stop_token : s.stop.token = .endOfInput
  /-- No other token is. -/
  words_token : ∀ x ∈ s.words, x.token ≠ .endOfInput

/-- The stream of a cursor ends with the end of the input, and has it nowhere else. -/
theorem Cursor.stream_ended (c : Cursor) : c.stream.Ended := by
  induction c using Cursor.stream.induct with
  | case1 c h =>
    rw [stream, dif_pos h]
    exact ⟨h, by simp⟩
  | case2 c h ih =>
    rw [stream, dif_neg h]
    exact ⟨ih.stop_token, List.forall_mem_cons.2 ⟨h, ih.words_token⟩⟩

/-- The words of a stream are not empty and follow one another, from the place on where the stream
starts. -/
theorem Cursor.stream_spans (c : Cursor) :
    (∀ x ∈ c.stream.words, c.offset ≤ x.span.start ∧ x.span.start < x.span.stop) ∧
      c.stream.words.Pairwise fun x y => x.span.stop ≤ y.span.start := by
  induction c using Cursor.stream.induct with
  | case1 c h =>
    rw [stream, dif_pos h]
    simp
  | case2 c h ih =>
    rw [stream, dif_neg h]
    obtain ⟨hwords, hpairs⟩ := ih
    obtain ⟨hstart, hlt, hstop⟩ := next_span h
    refine ⟨List.forall_mem_cons.2 ⟨⟨hstart, hlt⟩, fun x hx => ?_⟩,
      List.pairwise_cons.2 ⟨fun x hx => ?_, hpairs⟩⟩
    · have := hwords x hx
      omega
    · have := hwords x hx
      omega

/-- No token of a stream comes twice. -/
theorem Cursor.stream_nodup (c : Cursor) : c.stream.toList.Nodup := by
  obtain ⟨hwords, hpairs⟩ := c.stream_spans
  have hended := c.stream_ended
  rw [TokenStream.toList, List.nodup_append]
  refine ⟨hpairs.imp_of_mem ?_, by simp, ?_⟩
  · rintro x y hx hy hxy rfl
    have := (hwords x hx).2
    omega
  · rintro x hx y hy rfl
    rw [List.mem_singleton] at hy
    exact hended.words_token x hx (hy ▸ hended.stop_token)

end DiagramCheck
