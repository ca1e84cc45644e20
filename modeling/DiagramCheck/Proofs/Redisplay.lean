import DiagramCheck.Proofs.Alike
import DiagramCheck.Proofs.Writing

/-!
# Tokens written with blanks between them

A row of tokens can be written out with blanks of any kind between two of them, and none are needed
in front of the first or behind the last (`WrittenApart`). No blank continues a token, so the row is
read back from such a text exactly when every token in it can be written at all
(`WrittenApart.tokens_eq_iff`). The tokens of a source can, so it makes no difference to a reading
when a source is replaced by its tokens, although `edge` is written as `calls` then and `desc` as
`label`.
-/

namespace DiagramCheck

open Text

/-- `WrittenApart ts text` says that a text consists of the texts of these tokens, with blanks
around them, and at least one between two of them. -/
def WrittenApart (ts : List Token) (text : String) : Prop :=
  ∃ (rows : List (List Char × Token)) (trail : List Char),
    rows.map Prod.snd = ts ∧ text.toList = writeTokens rows ++ trail ∧
    (∀ p ∈ rows, ∀ x ∈ p.1, isBlank x = true) ∧ (∀ p ∈ rows.tail, p.1 ≠ []) ∧
    ∀ x ∈ trail, isBlank x = true

/-- Tokens are kept apart by the blanks in front of all but the first of them. -/
theorem isChain_keptApart {rows : List (List Char × Token)}
    (hblanks : ∀ p ∈ rows, ∀ x ∈ p.1, isBlank x = true) (hgaps : ∀ p ∈ rows.tail, p.1 ≠ []) :
    rows.IsChain KeptApart := by
  induction rows with
  | nil => exact .nil
  | cons p rest ih =>
    obtain ⟨-, hrest⟩ := List.forall_mem_cons.1 hblanks
    cases rest with
    | nil => exact .singleton p
    | cons q others =>
      have hq : KeptApart p q :=
        keptApart_of_blank (hgaps q List.mem_cons_self) (hrest q List.mem_cons_self)
      exact .cons_cons hq (ih hrest fun p' hp' => hgaps p' (List.mem_cons_of_mem q hp'))

/-- The texts of tokens with one and the same text between them, as a row. -/
theorem intercalate_map_text (gap : List Char) (t : Token) (rest : List Token) :
    gap.intercalate ((t :: rest).map fun u => u.text.toList) =
      t.text.toList ++ writeTokens (rest.map fun u => (gap, u)) := by
  induction rest generalizing t with
  | nil =>
    rw [List.map_singleton, List.intercalate_singleton, List.map_nil, writeTokens, List.append_nil]
  | cons u rest ih =>
    have hu := ih u
    rw [List.map_cons] at hu
    rw [List.map_cons, List.map_cons, List.intercalate_cons_cons, hu, List.map_cons, writeTokens,
      List.append_assoc, List.append_assoc]

namespace WrittenApart

variable {ts : List Token} {text : String}

/-- Any row of tokens is written apart by one and the same text of blanks between all of them. -/
theorem intercalate (ts : List Token) {gap : String} (hne : gap ≠ "")
    (hblank : ∀ x ∈ gap.toList, isBlank x = true) :
    WrittenApart ts (gap.intercalate (ts.map Token.text)) := by
  cases ts with
  | nil =>
    exact ⟨[], [], rfl, rfl, List.forall_mem_nil _, List.forall_mem_nil _, List.forall_mem_nil _⟩
  | cons t rest =>
    -- The first token has no blanks in front of it, and all others have those of the gap.
    refine ⟨([], t) :: rest.map fun u => (gap.toList, u), [], ?_, ?_, ?_, ?_, List.forall_mem_nil _⟩
    · rw [List.map_cons, List.map_map]
      exact congrArg (t :: ·) (List.map_id rest)
    · rw [String.toList_intercalate, List.map_map, List.append_nil]
      exact intercalate_map_text gap.toList t rest
    · rw [List.forall_mem_cons, List.forall_mem_map]
      exact ⟨List.forall_mem_nil _, fun _ _ => hblank⟩
    · rw [List.tail_cons, List.forall_mem_map]
      exact fun _ _ hgap => hne (String.toList_eq_nil_iff.1 hgap)

/-- Tokens are read back from a text in which they are written apart exactly when all of them can be
written. -/
theorem tokens_eq_iff (h : WrittenApart ts text) :
    (TokenStream.ofString text).tokens = ts ↔ ∀ t ∈ ts, t.isWritable = true := by
  constructor
  · intro htokens t ht
    rw [← htokens] at ht
    exact TokenStream.isWritable_of_mem_tokens ht
  · intro hwritable
    obtain ⟨rows, trail, rfl, htext, hblanks, hgaps, htrail⟩ := h
    rw [← String.ofList_toList (s := text), htext]
    exact TokenStream.tokens_ofList_writeTokens hblanks (List.forall_mem_map.1 hwritable)
      (isChain_keptApart hblanks hgaps) htrail

end WrittenApart

/-- Every row of tokens can be written apart, with any blanks between them. It is read back from
such a text exactly when it consists of names, of characters that stand for themselves, and of
tokens with a fixed text. The tokens of a source are such a row, and where they are written apart
they make a text that is read like the source: as a diagram that agrees, or with an error that
does. -/
theorem writtenApart_spec (ts : List Token) :
    (∀ gap : String, gap ≠ "" → (∀ x ∈ gap.toList, isBlank x = true) →
      WrittenApart ts (gap.intercalate (ts.map Token.text))) ∧
    ∀ text, WrittenApart ts text →
      ((TokenStream.ofString text).tokens = ts ↔ ∀ t ∈ ts, t.isWritable = true) ∧
      ∀ source, (TokenStream.ofString source).tokens = ts →
        (TokenStream.ofString text).tokens = ts ∧ Diagram.ReadAlike source text := by
  refine ⟨fun gap => WrittenApart.intercalate ts, fun text h => ⟨h.tokens_eq_iff, ?_⟩⟩
  rintro source rfl
  have htokens : (TokenStream.ofString text).tokens = (TokenStream.ofString source).tokens :=
    h.tokens_eq_iff.2 fun _ => TokenStream.isWritable_of_mem_tokens
  exact ⟨htokens, Diagram.readAlike_of_tokens_eq htokens.symm⟩

/-- A dash and an angle bracket with a space between them are no arrow, and a digit and a word do
not make one word. The source `node a { edge->b { } }` is read like its tokens, which are written
with `calls`. -/
theorem writtenApart_spec_dash :
    let odd : List Token := [.unknown "-", .unknown ">", .unknown "1", .identifier "a1", .label]
    (TokenStream.ofString "- > 1 a1 label").tokens = odd ∧
      Diagram.ReadAlike "node a \x7b edge->b \x7b \x7d \x7d"
        "node a \x7b calls -> b \x7b \x7d \x7d" := by
  intro odd
  have hblank : ∀ x ∈ " ".toList, isBlank x = true := by
    intro x hx
    obtain rfl := List.mem_singleton.1 hx
    rfl
  obtain ⟨hwrite, hread⟩ := writtenApart_spec odd
  have hodd : " ".intercalate (odd.map Token.text) = "- > 1 a1 label" := by decide +kernel
  have htokens := (hread _ (hwrite " " (by decide) hblank)).1.2 (by decide +kernel)
  rw [hodd] at htokens
  obtain ⟨hwrite', hread'⟩ := writtenApart_spec
    [.node, .identifier "a", .lbrace, .edge, .arrow, .identifier "b", .lbrace, .rbrace, .rbrace]
  have hsource := hwrite' " " (by decide) hblank
  exact ⟨htokens, ((hread' _ hsource).2 "node a \x7b edge->b \x7b \x7d \x7d" (by cbv)).2⟩

end DiagramCheck
