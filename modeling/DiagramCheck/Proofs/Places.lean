import DiagramCheck.Source.Span
import DiagramCheck.Text.Character
import Mathlib.Data.List.Basic

/-!
# Where texts stand in a source

A span marks a piece of a source by byte offsets. `Span.Splits` cuts a source at both ends of a
span, which is possible only where these lie between characters, and `Span.Marks` says which text
stands there, of which there is at most one (`Span.Marks.unique`). The bytes are those of the UTF-8
form of a string (`Text.byteLength_toList`), and the offsets are valid positions of it
(`Span.Splits.isValid`).
-/

namespace DiagramCheck

/-! ## Byte lengths -/

namespace Text

/-- The byte length of a string's characters is that of its UTF-8 form. -/
theorem byteLength_toList (s : String) : byteLength s.toList = s.utf8ByteSize := by
  suffices h : ∀ cs : List Char, byteLength cs = (String.ofList cs).utf8ByteSize by
    rw [h, String.ofList_toList]
  intro cs
  induction cs with
  | nil => rfl
  | cons c cs ih =>
    have hcons : String.ofList (c :: cs) = String.singleton c ++ String.ofList cs := by
      rw [← String.toList_inj]
      simp
    rw [hcons, String.utf8ByteSize_append, String.utf8ByteSize_singleton, byteLength, ih]

/-- A text that is not empty has bytes. -/
theorem byteLength_pos {cs : List Char} (h : cs ≠ []) : 0 < byteLength cs := by
  cases cs with
  | nil => exact absurd rfl h
  | cons c cs =>
    have := c.utf8Size_pos
    rw [byteLength]
    omega

/-- Of two ways to cut a text in two, the later one goes on behind the earlier one. -/
theorem exists_of_byteLength_le {a b a' b' : List Char} (h : a ++ b = a' ++ b')
    (hle : byteLength a ≤ byteLength a') : ∃ m, a' = a ++ m ∧ b = m ++ b' := by
  rcases List.append_eq_append_iff.1 h with ⟨m, ha', hb⟩ | ⟨m, ha, hb'⟩
  · exact ⟨m, ha', hb⟩
  · -- The other way round, what lies between the two cuts has no bytes.
    have hm : m = [] := by
      by_contra hne
      have hpos := byteLength_pos hne
      rw [ha, byteLength_append] at hle
      omega
    rw [hm, List.append_nil] at ha
    rw [hm, List.nil_append] at hb'
    exact ⟨[], by rw [ha, List.append_nil], by rw [hb', List.nil_append]⟩

/-- A text is cut in one way at a byte offset. -/
theorem append_inj_of_byteLength {a b a' b' : List Char} (h : a ++ b = a' ++ b')
    (hlength : byteLength a = byteLength a') : a = a' ∧ b = b' := by
  obtain ⟨m, ha', hb⟩ := exists_of_byteLength_le h (Nat.le_of_eq hlength)
  have hm : m = [] := by
    by_contra hne
    have hpos := byteLength_pos hne
    rw [ha', byteLength_append] at hlength
    omega
  exact ⟨by rw [ha', hm, List.append_nil], by rw [hb, hm, List.nil_append]⟩

end Text

open Text

/-! ## Characters of a text -/

/-- `StandsAt cs i c` says that the character `c` begins at the byte `i` of the text. -/
def StandsAt (cs : List Char) (i : Nat) (c : Char) : Prop :=
  ∃ before after, cs = before ++ c :: after ∧ byteLength before = i

/-- Every character of a text stands somewhere. -/
theorem exists_standsAt {cs : List Char} {c : Char} (h : c ∈ cs) : ∃ i, StandsAt cs i c := by
  obtain ⟨before, after, heq⟩ := List.append_of_mem h
  exact ⟨_, before, after, heq, rfl⟩

/-- What stands in a text is one of its characters. -/
theorem StandsAt.mem {cs : List Char} {i : Nat} {c : Char} (h : StandsAt cs i c) : c ∈ cs := by
  obtain ⟨before, after, rfl, -⟩ := h
  simp

/-- What stands in a text begins before its end. -/
theorem StandsAt.lt_byteLength {cs : List Char} {i : Nat} {c : Char} (h : StandsAt cs i c) :
    i < byteLength cs := by
  obtain ⟨before, after, rfl, rfl⟩ := h
  have := c.utf8Size_pos
  rw [byteLength_append, byteLength]
  omega

/-- What stands in two texts, one behind the other, stands in one of them. -/
theorem standsAt_append {a b : List Char} {i : Nat} {c : Char} :
    StandsAt (a ++ b) i c ↔
      StandsAt a i c ∨ byteLength a ≤ i ∧ StandsAt b (i - byteLength a) c := by
  constructor
  · rintro ⟨before, after, heq, rfl⟩
    rcases Nat.lt_or_ge (byteLength before) (byteLength a) with hlt | hge
    · left
      obtain ⟨m, ha, hafter⟩ := exists_of_byteLength_le heq.symm (Nat.le_of_lt hlt)
      cases m with
      | nil =>
        rw [ha, List.append_nil] at hlt
        exact absurd hlt (Nat.lt_irrefl _)
      | cons d m =>
        obtain ⟨rfl, -⟩ := List.cons.inj hafter
        exact ⟨before, m, ha, rfl⟩
    · right
      obtain ⟨m, rfl, hb⟩ := exists_of_byteLength_le heq hge
      exact ⟨hge, m, after, hb, by rw [byteLength_append]; omega⟩
  · rintro (⟨before, after, rfl, rfl⟩ | ⟨hle, before, after, rfl, hi⟩)
    · exact ⟨before, after ++ b, by simp, rfl⟩
    · exact ⟨a ++ before, after, by simp, by rw [byteLength_append]; omega⟩

/-! ## Texts at spans -/

namespace Span

/-- A span cuts a source into what is before it, the text that stands there, and what is behind
it. -/
structure Splits (span : Span) (source before text after : List Char) : Prop where
  /-- The three parts make up the source. -/
  source_eq : source = before ++ text ++ after
  /-- The text begins where the span does. -/
  start_eq : byteLength before = span.start
  /-- The text ends where the span does. -/
  stop_eq : byteLength (before ++ text) = span.stop

/-- `span.Marks source text` says that `text` is what stands in the source at the span. -/
def Marks (span : Span) (source text : String) : Prop :=
  ∃ before after, span.Splits source.toList before text.toList after

/-- Both ends of a span that cuts a source are valid positions of it: they lie between characters,
or at an end of the source. -/
theorem Splits.isValid {span : Span} {source : String} {before text after : List Char}
    (h : span.Splits source.toList before text after) :
    (⟨span.start⟩ : String.Pos.Raw).IsValid source ∧
      (⟨span.stop⟩ : String.Pos.Raw).IsValid source := by
  have hvalid : ∀ front back : List Char, source.toList = front ++ back →
      (⟨byteLength front⟩ : String.Pos.Raw).IsValid source := by
    intro front back hsource
    rw [String.Pos.Raw.isValid_iff_exists_append]
    refine ⟨String.ofList front, String.ofList back, ?_, ?_⟩
    · rw [← String.toList_inj, hsource]
      simp
    · rw [String.rawEndPos, ← byteLength_toList, String.toList_ofList]
  have hsource := h.source_eq
  rw [← h.start_eq, ← h.stop_eq]
  exact ⟨hvalid before (text ++ after) (by rw [hsource, List.append_assoc]),
    hvalid (before ++ text) after hsource⟩

/-- The characters of the text at a span are those that begin between its ends. -/
theorem Splits.mem_text_iff {span : Span} {source before text after : List Char}
    (h : span.Splits source before text after) {c : Char} :
    c ∈ text ↔ ∃ i, StandsAt source i c ∧ span.start ≤ i ∧ i < span.stop := by
  have hstart := h.start_eq
  have hstop := h.stop_eq
  rw [byteLength_append] at hstop
  rw [h.source_eq]
  constructor
  · intro hc
    obtain ⟨j, hj⟩ := exists_standsAt hc
    have hj_lt := hj.lt_byteLength
    refine ⟨byteLength before + j, ?_, by omega, by omega⟩
    rw [List.append_assoc, standsAt_append, Nat.add_sub_cancel_left, standsAt_append]
    exact .inr ⟨Nat.le_add_right _ j, .inl hj⟩
  · rintro ⟨i, hstands, hle, hlt⟩
    rw [standsAt_append, standsAt_append] at hstands
    rcases hstands with (hfront | ⟨-, htext⟩) | ⟨hback, -⟩
    · have := hfront.lt_byteLength
      omega
    · exact htext.mem
    · rw [byteLength_append] at hback
      omega

/-- At most one text stands at a span. -/
theorem Marks.unique {span : Span} {source text text' : String} (h : span.Marks source text)
    (h' : span.Marks source text') : text = text' := by
  obtain ⟨before, after, hsplits⟩ := h
  obtain ⟨before', after', hsplits'⟩ := h'
  have hfront : before ++ (text.toList ++ after) = before' ++ (text'.toList ++ after') := by
    rw [← List.append_assoc, ← List.append_assoc, ← hsplits.source_eq, ← hsplits'.source_eq]
  obtain ⟨rfl, hback⟩ :=
    append_inj_of_byteLength hfront (hsplits.start_eq.trans hsplits'.start_eq.symm)
  have hlength := hsplits.stop_eq.trans hsplits'.stop_eq.symm
  rw [byteLength_append, byteLength_append] at hlength
  obtain ⟨htext, -⟩ := append_inj_of_byteLength hback (by omega)
  exact String.toList_inj.1 htext

end Span

end DiagramCheck
