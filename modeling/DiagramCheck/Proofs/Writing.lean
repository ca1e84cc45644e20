import DiagramCheck.Proofs.Lexing
import Mathlib.Data.List.Chain

/-!
# Writing tokens

What can be written as a text and is read back from it: `Token.isWritable` says which tokens, and
`Cursor.reads_writeTokens` that a row of them is read back as it was. There have to be blanks
between two tokens only where the second one would continue the first (`KeptApart`).
`TokenStream.exists_extension` puts such a row behind the front part of any source. No source has
other tokens (`TokenStream.isWritable_of_mem_tokens`).
-/

namespace DiagramCheck

open Text

/-! ## Which tokens can be written -/

/-- The keywords of the language. -/
def Token.keywords : List String :=
  ["node", "edge", "calls", "color", "label", "desc"]

/-- Whether a text is a word: an alphabetic character, and alphanumeric ones behind it. -/
def Text.isWord : List Char → Bool
  | [] => false
  | c :: cs => isAlphabetic c && cs.all isAlphanumeric

/-- Whether a text can be a name: a word that is no keyword. -/
def Token.isName (name : String) : Bool :=
  isWord name.toList && !keywords.contains name

/-- Whether a token can be written: a name, a character that stands for itself, or a token with a
fixed text. The end of the input cannot. -/
def Token.isWritable : Token → Bool
  | .identifier name => isName name
  | .unknown text =>
    match text.toList with
    | [c] => !isBlank c && !isAlphabetic c &&
        !(['\x7b', '\x7d', ':', '\x22'].contains c)
    | _ => false
  | .endOfInput => false
  | _ => true

/-- Whether a token is read back from its own text. -/
def Token.IsReadBack (t : Token) : Prop :=
  ∃ c cs, t.text.toList = c :: cs ∧ isBlank c = false ∧ Piece.read c cs = ⟨t, c :: cs, []⟩

/-- A word that is no keyword is an identifier. -/
theorem Token.ofWord_eq_identifier {word : String} (h : keywords.contains word = false) :
    Token.ofWord word = .identifier word := by
  simp only [keywords, List.contains_cons, List.contains_nil, Bool.or_false, Bool.or_eq_false_iff,
    beq_eq_false_iff_ne] at h
  unfold Token.ofWord
  split <;> simp_all

/-- Names are read back. -/
theorem Token.isReadBack_identifier {name : String} (h : isName name = true) :
    (Token.identifier name).IsReadBack := by
  rw [isName, Bool.and_eq_true, Bool.not_eq_true'] at h
  obtain ⟨hword, hkeyword⟩ := h
  cases hname : name.toList with
  | nil =>
    rw [hname] at hword
    cases hword
  | cons c cs =>
    rw [hname, isWord, Bool.and_eq_true, List.all_eq_true] at hword
    obtain ⟨hc, hcs⟩ := hword
    refine ⟨c, cs, hname, ?_, ?_⟩
    · -- A blank would be no character of a word.
      rw [Bool.eq_false_iff]
      intro hblank
      have := isAlphanumeric_of_isBlank hblank
      rw [isAlphanumeric_of_isAlphabetic hc] at this
      cases this
    · have hread := Piece.read_word_append (r := []) hc hcs (by simp)
      rwa [List.append_nil, ← hname, String.ofList_toList, ofWord_eq_identifier hkeyword,
        hname] at hread

/-- Characters that stand for themselves are read back. -/
theorem Token.isReadBack_unknown {text : String} (h : (Token.unknown text).isWritable = true) :
    (Token.unknown text).IsReadBack := by
  rw [isWritable] at h
  split at h
  · next c hc =>
    simp only [Bool.and_eq_true, Bool.not_eq_true', List.contains_cons, List.contains_nil,
      Bool.or_false, Bool.or_eq_false_iff, beq_eq_false_iff_ne] at h
    obtain ⟨⟨hblank, hletter⟩, hl, hr, hcolon, hquote⟩ := h
    have htext : String.singleton c = text := by
      rw [← String.toList_inj, hc, String.toList_singleton]
    refine ⟨c, [], hc, hblank, ?_⟩
    rw [Piece.read_single hletter (by simp), Token.ofChar, if_neg hl, if_neg hr, if_neg hcolon,
      if_neg hquote, htext]
  · cases h

/-- What can be written is read back. -/
theorem Token.isReadBack {t : Token} (h : t.isWritable = true) : t.IsReadBack := by
  cases t with
  | identifier name => exact isReadBack_identifier h
  | unknown text => exact isReadBack_unknown h
  | endOfInput => cases h
  | node => exact ⟨'n', ['o', 'd', 'e'], rfl, by decide, rfl⟩
  | edge => exact ⟨'c', ['a', 'l', 'l', 's'], rfl, by decide, rfl⟩
  | color => exact ⟨'c', ['o', 'l', 'o', 'r'], rfl, by decide, rfl⟩
  | label => exact ⟨'l', ['a', 'b', 'e', 'l'], rfl, by decide, rfl⟩
  | arrow => exact ⟨'-', ['>'], rfl, by decide, rfl⟩
  | colon => exact ⟨':', [], rfl, by decide, rfl⟩
  | lbrace => exact ⟨'\x7b', [], rfl, by decide, rfl⟩
  | rbrace => exact ⟨'\x7d', [], rfl, by decide, rfl⟩
  | quote => exact ⟨'\x22', [], rfl, by decide, rfl⟩

/-! ## Rows of tokens -/

/-- Tokens written out, each behind some blanks. -/
def writeTokens : List (List Char × Token) → List Char
  | [] => []
  | (blank, t) :: rest => blank ++ t.text.toList ++ writeTokens rest

/-- Whether a token, written behind its blanks, is kept apart from the token before it. -/
def KeptApart (p q : List Char × Token) : Prop :=
  ∀ x, (q.1 ++ q.2.text.toList).head? = some x → p.2.continuedBy x = false

/-- A blank keeps any two tokens apart. -/
theorem keptApart_of_blank {p q : List Char × Token} (hne : q.1 ≠ [])
    (hblank : ∀ x ∈ q.1, isBlank x = true) : KeptApart p q := by
  intro x hx
  obtain ⟨y, ys, hy⟩ := List.exists_cons_of_ne_nil hne
  rw [hy, List.cons_append, List.head?_cons, Option.some.injEq] at hx
  subst hx
  exact Token.continuedBy_of_isBlank (hblank y (by simp [hy])) p.2

/-- A row of tokens starts as its first token does, whatever is behind the row. -/
theorem head?_writeTokens_cons {p : List Char × Token} (hp : p.2.isWritable = true)
    (rest : List (List Char × Token)) (r : List Char) :
    (writeTokens (p :: rest) ++ r).head? = (p.1 ++ p.2.text.toList).head? := by
  obtain ⟨c, cs, htext, -⟩ := Token.isReadBack hp
  rw [writeTokens, htext]
  cases p.1 <;> rfl

/-- Tokens that are written out are read back, as long as each one is kept apart from the next, and
the last one from the text behind the row. -/
theorem Cursor.reads_writeTokens {ts : List (List Char × Token)} {r : List Char}
    (hblanks : ∀ p ∈ ts, ∀ x ∈ p.1, isBlank x = true)
    (hwritable : ∀ p ∈ ts, p.2.isWritable = true) (hapart : ts.IsChain KeptApart)
    (hend : ∀ x, r.head? = some x → ∀ t : Token, t.continuedBy x = false) {c : Cursor}
    (hc : c.rest = writeTokens ts ++ r) :
    ∃ xs, xs.map Lexeme.token = ts.map Prod.snd ∧ c.Reads xs (c.pass (writeTokens ts) r) := by
  induction ts generalizing c with
  | nil =>
    refine ⟨[], rfl, ?_⟩
    obtain ⟨rest, offset, position⟩ := c
    cases hc
    exact .refl _
  | cons p rest ih =>
    obtain ⟨blank, t⟩ := p
    obtain ⟨hblank, hblanks⟩ := List.forall_mem_cons.1 hblanks
    obtain ⟨ht, hwritable⟩ := List.forall_mem_cons.1 hwritable
    obtain ⟨y, ys, htext, hy, hread⟩ := Token.isReadBack ht
    -- What is written behind the token does not continue it.
    have hhead : ∀ x, (writeTokens rest ++ r).head? = some x →
        (Piece.read y ys).token.continuedBy x = false := by
      intro x hx
      rw [hread]
      cases rest with
      | nil => exact hend x hx t
      | cons q others =>
        rw [head?_writeTokens_cons (List.forall_mem_cons.1 hwritable).1] at hx
        exact hapart.rel x hx
    have hpiece := Piece.read_of_not_continued hhead
    rw [hread] at hpiece
    simp only [List.tail_cons] at hpiece
    have hrest : c.rest = blank ++ y :: (ys ++ (writeTokens rest ++ r)) := by
      rw [hc, writeTokens, htext]
      simp
    have hnext := Cursor.next_eq hblank hy hrest
    rw [hpiece] at hnext
    obtain ⟨xs, hxs, hrun⟩ := ih hblanks hwritable hapart.of_cons
      (c := c.pass (blank ++ y :: ys) (writeTokens rest ++ r)) rfl
    rw [Cursor.pass_pass] at hrun
    refine ⟨_ :: xs, by rw [List.map_cons, hxs, List.map_cons], .of_next hnext ?_ ?_⟩
    · rintro rfl
      cases ht
    · rw [writeTokens, htext]
      exact hrun

/-- The tokens of a text that is a row of written tokens, with blanks behind it, are those of the
row. -/
theorem TokenStream.tokens_ofList_writeTokens {ts : List (List Char × Token)} {blank : List Char}
    (hblanks : ∀ p ∈ ts, ∀ x ∈ p.1, isBlank x = true)
    (hwritable : ∀ p ∈ ts, p.2.isWritable = true) (hapart : ts.IsChain KeptApart)
    (hblank : ∀ x ∈ blank, isBlank x = true) :
    (ofString (String.ofList (writeTokens ts ++ blank))).tokens = ts.map Prod.snd := by
  have hend : ∀ x, blank.head? = some x → ∀ t : Token, t.continuedBy x = false :=
    fun x hx t => Token.continuedBy_of_isBlank (hblank x (List.mem_of_mem_head? hx)) t
  obtain ⟨xs, hxs, hrun⟩ := Cursor.reads_writeTokens hblanks hwritable hapart hend
    (c := Cursor.ofString (String.ofList (writeTokens ts ++ blank))) (by simp [Cursor.ofString])
  rw [ofString, hrun.stream_eq, Cursor.stream_eq_nil hblank, tokens, List.append_nil, hxs]

/-- The text of a source up to behind any of its words can go on with any tokens that can be
written: there is a source with these words and then these tokens. -/
theorem TokenStream.exists_extension (source : String) {k : Nat}
    (hk : k ≤ (ofString source).words.length) {ts : List Token}
    (hts : ∀ t ∈ ts, t.isWritable = true) :
    ∃ source' xs, xs.map Lexeme.token = ts ∧
      (ofString source').words = (ofString source).words.take k ++ xs := by
  obtain ⟨c', hrun⟩ := Cursor.reads_take (Cursor.ofString source) k hk
  obtain ⟨text, -, -, hreplace⟩ := hrun.replace
  -- The tokens are written behind one blank each.
  generalize hwritten : ts.map (fun t => ([' '], t)) = written
  have hblanks : ∀ p ∈ written, p.1 ≠ [] ∧ ∀ x ∈ p.1, isBlank x = true := by
    rw [← hwritten]
    intro p hp
    obtain ⟨t, -, rfl⟩ := List.mem_map.1 hp
    exact ⟨by simp, by simp; decide⟩
  have hapart : ∀ p, ∀ q ∈ written, KeptApart p q :=
    fun p q hq => keptApart_of_blank (hblanks q hq).1 (hblanks q hq).2
  have hwritable : ∀ p ∈ written, p.2.isWritable = true := by
    rw [← hwritten]
    intro p hp
    obtain ⟨t, ht, rfl⟩ := List.mem_map.1 hp
    exact hts t ht
  have hchain : written.IsChain KeptApart :=
    (List.pairwise_of_forall_mem_list fun p _ q hq => hapart p q hq).isChain
  obtain ⟨xs, hxs, htail⟩ := Cursor.reads_writeTokens (fun p hp => (hblanks p hp).2) hwritable
    hchain (r := []) nofun (c := (Cursor.ofString source).pass text (writeTokens written))
    (List.append_nil _).symm
  have hhead : ∀ x, (writeTokens written).head? = some x →
      ∀ t : Token, t.continuedBy x = false := by
    intro x hx t
    cases written with
    | nil => cases hx
    | cons q others =>
      rw [← List.append_nil (writeTokens _),
        head?_writeTokens_cons (List.forall_mem_cons.1 hwritable).1] at hx
      exact hapart ([], t) q List.mem_cons_self x hx
  -- The front part is read as before, then the written tokens, and then there is nothing left.
  have hall := (hreplace (writeTokens written) fun x hx y _ => hhead x hx y.token).trans htail
  refine ⟨String.ofList (text ++ writeTokens written), xs, ?_, ?_⟩
  · rw [hxs, ← hwritten, List.map_map]
    exact List.map_id ts
  · have hstart : Cursor.ofString (String.ofList (text ++ writeTokens written)) =
        (Cursor.ofString source).withRest (text ++ writeTokens written) := by
      simp [Cursor.ofString, Cursor.withRest]
    have hend := Cursor.stream_eq_nil (c := ((Cursor.ofString source).pass text
      (writeTokens written)).pass (writeTokens written) []) (by simp [Cursor.pass])
    rw [ofString, hstart, hall.stream_eq, hend]
    exact List.append_nil _

/-! ## All tokens of sources -/

/-- A word is read as a keyword or as a name. -/
theorem Token.isWritable_ofWord {c : Char} {cs : List Char} (hc : isAlphabetic c = true)
    (hcs : ∀ x ∈ cs, isAlphanumeric x = true) :
    (Token.ofWord (String.ofList (c :: cs))).isWritable = true := by
  have hword : isWord (String.ofList (c :: cs)).toList = true := by
    rw [String.toList_ofList, isWord, hc, List.all_eq_true.2 hcs]
    rfl
  generalize String.ofList (c :: cs) = word at hword ⊢
  unfold ofWord
  split
  case h_7 => simp_all [isWritable, isName, keywords]
  all_goals rfl

/-- What is read from a character that is not blank can be written. -/
theorem Piece.isWritable_token {c : Char} (h : isBlank c = false) (cs : List Char) :
    (Piece.read c cs).token.isWritable = true := by
  rcases Bool.eq_false_or_eq_true (isAlphabetic c) with hc | hc
  · rw [Piece.read_word hc]
    exact Token.isWritable_ofWord hc fun x hx => List.mem_takeWhile_imp hx
  by_cases harrow : c = '-' ∧ cs.head? = some '>'
  · obtain ⟨rfl, hcs⟩ := harrow
    rw [Piece.read_arrow hcs]
    rfl
  · rw [Piece.read_single hc harrow]
    unfold Token.ofChar
    split
    · rfl
    split
    · rfl
    split
    · rfl
    split
    · rfl
    simp_all [Token.isWritable]

/-- The words of a stream can be written. -/
theorem Cursor.isWritable_of_mem_stream {c : Cursor} {x : Lexeme} (h : x ∈ c.stream.words) :
    x.token.isWritable = true := by
  induction c using Cursor.stream.induct with
  | case1 c hend =>
    rw [stream, dif_pos hend] at h
    cases h
  | case2 c hend ih =>
    rw [stream, dif_neg hend] at h
    rcases List.mem_cons.1 h with rfl | h
    · rcases c.rest_cases with hall | ⟨blank, y, ys, hblank, hy, hrest⟩
      · exact absurd (next_token_eq_endOfInput_iff.2 hall) hend
      · rw [next_eq hblank hy hrest]
        exact Piece.isWritable_token hy ys
    · exact ih h

/-- The tokens of a source can be written. -/
theorem TokenStream.isWritable_of_mem_tokens {source : String} {t : Token}
    (h : t ∈ (ofString source).tokens) : t.isWritable = true := by
  obtain ⟨x, hx, rfl⟩ := List.mem_map.1 h
  exact Cursor.isWritable_of_mem_stream hx

end DiagramCheck
