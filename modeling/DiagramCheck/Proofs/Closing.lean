import DiagramCheck.Proofs.Acceptance
import DiagramCheck.Proofs.Concatenation
import DiagramCheck.Proofs.FirstFault
import DiagramCheck.Proofs.Grammar.Ledger

/-!
# Sources that end before every body is closed

A source may end where a closing brace is still to come. `Diagram.unclosed_iff` says that this is
reported exactly where closing braces are all that is missing, and how many: as many as there are
opening braces without a closing one.

Both halves speak of the state that the reader is in at the end of the source
(`Diagram.unclosed_iff_wanted`). A closing brace is taken only where the grammar asks for one
(`ParseState.Takes.wanted_of_rbrace`), and from there nothing else is needed to leave all nodes
(`ParseState.exists_completion_eq`). The number follows from the braces of accepted sources, which
come in equal numbers (`Diagram.count_lbrace_of_parse`).
-/

namespace DiagramCheck

open Grammar

/-! ## Closing braces behind a source -/

/-- A text of `k` closing braces. -/
def closingBraces (k : Nat) : String :=
  String.ofList (List.replicate k '\x7d')

/-- A closing brace is no part of the token before it. -/
theorem Token.continuedBy_closingBrace (t : Token) : t.continuedBy '\x7d' = false := by
  have hword : Text.isAlphanumeric '\x7d' = false := by decide
  have hangle : ('\x7d' == '>') = false := by decide
  cases t <;> simp [continuedBy, hword, hangle]

/-- Closing braces are tokens by themselves. -/
theorem TokenStream.tokens_closingBraces (k : Nat) :
    (ofString (closingBraces k)).tokens = List.replicate k .rbrace := by
  have hwritten : ∀ k, writeTokens (List.replicate k ([], .rbrace)) = List.replicate k '\x7d' := by
    intro k
    induction k with
    | zero => rfl
    | succ k ih =>
      rw [List.replicate_succ, List.replicate_succ, writeTokens, ih]
      rfl
  have hrow : ∀ p ∈ List.replicate k (([] : List Char), Token.rbrace), p = ([], .rbrace) :=
    fun p hp => List.eq_of_mem_replicate hp
  have hapart : (List.replicate k (([] : List Char), Token.rbrace)).IsChain KeptApart := by
    refine (List.pairwise_of_forall_mem_list fun p hp q hq x hx => ?_).isChain
    rw [hrow p hp]
    rfl
  have hblank : ∀ x ∈ ([] : List Char), Text.isBlank x = true := List.forall_mem_nil _
  have htokens := tokens_ofList_writeTokens
    (fun p hp x hx => by rw [hrow p hp] at hx; cases hx) (fun p hp => by rw [hrow p hp]; rfl)
    hapart hblank
  rwa [hwritten, List.append_nil, List.map_replicate] at htokens

/-- Closing braces behind a source are read behind its tokens. -/
theorem TokenStream.exists_words_append_closingBraces (source : String) (k : Nat) :
    ∃ braces, (ofString (source ++ closingBraces k)).words = (ofString source).words ++ braces ∧
      braces.map Lexeme.token = List.replicate k .rbrace := by
  have hhead : ∀ y, (closingBraces k).toList.head? = some y →
      ∀ x ∈ (ofString source).words.getLast?, x.token.continuedBy y = false := by
    intro y hy x _
    rw [closingBraces, String.toList_ofList] at hy
    rw [List.eq_of_mem_replicate (List.mem_of_mem_head? hy)]
    exact x.token.continuedBy_closingBrace
  refine ⟨_, by rw [ofString_append_of_head hhead], ?_⟩
  rw [List.map_map, ← tokens_closingBraces k]
  rfl

/-! ## Where closing braces are all that is missing -/

namespace ParseState

/-- A closing brace is taken only where the grammar asks for one. -/
theorem Takes.wanted_of_rbrace {s s' : ParseState} {x : Lexeme} (h : s.Takes x s')
    (hx : x.token = .rbrace) : s.wanted = .token .rbrace := by
  cases h with
  | closeNode | closeEdge => rfl
  | nodeKeyword _ _ _ kind h | edgeAttributeKeyword _ _ _ _ kind h =>
    rw [hx] at h
    cases kind <;> cases h
  | nodeStage _ _ _ h | nodeAttribute _ _ _ h | edgeStage _ _ _ _ h | edgeAttribute _ _ _ _ h =>
    cases h <;> simp_all
  | _ => simp_all

/-- Where the grammar asks for a closing brace, closing braces lead out of all nodes. -/
theorem exists_completion_eq {s : ParseState} (h : s.wanted = .token .rbrace) (name : String) :
    ∃ k, s.completion name = List.replicate (k + 1) .rbrace := by
  have hstage : ∀ stage : AttributeStage, stage.wanted ≠ .token .rbrace := by
    intro stage
    cases stage <;> nofun
  cases s with
  | outside finished => cases h
  | inside finished enclosing focus =>
    cases focus with
    | nodeBody node => exact ⟨enclosing.length, rfl⟩
    | edgeBody node edge => exact ⟨enclosing.length + 1, rfl⟩
    | nodeAttribute node stage | edgeAttribute node edge stage => exact absurd h (hstage stage)
    | _ => cases h

end ParseState

namespace Diagram

/-- A source ends before every body is closed when the reader is left where the grammar asks for a
closing brace. -/
theorem unclosed_iff_wanted {source : String} :
    (∃ found : Lexeme, found.token = .endOfInput ∧
        Diagram.parse source = .error (.unexpectedToken .rbrace found)) ↔
      ∃ s, ParseState.start.Reaches (TokenStream.ofString source).words s ∧
        s.wanted = .token .rbrace := by
  have hended := (Cursor.ofString source).stream_ended
  constructor
  · rintro ⟨found, hfound, herror⟩
    have hrefuse : ∀ w x, Wanted.refuse w x = .unexpectedToken .rbrace found →
        w = .token .rbrace ∧ x = found := by
      intro w x h
      cases w <;> cases h
      exact ⟨rfl, rfl⟩
    rcases ParseState.run_eq_error_iff.1 herror with ⟨ys, x, zs, t, hwords, -, hx⟩ | ⟨t, hxs, ht⟩
    · -- A token in front of the end of the input is not the one that was found.
      have hmem : x ∈ (TokenStream.ofString source).words := by
        rw [hwords]
        simp
      rcases ParseState.step_eq_error hx with h | ⟨_, _, _, _, _, -, -, h⟩ | ⟨_, _, _, -, -, h⟩
      · exact absurd ((hrefuse _ _ h.symm).2 ▸ hfound) (hended.words_token x hmem)
      · cases h
      · cases h
    · cases t with
      | outside finished => cases ht
      | inside finished enclosing focus =>
        exact ⟨_, hxs, (hrefuse _ _ (Except.error.inj ht)).1⟩
  · rintro ⟨s, hxs, hwanted⟩
    refine ⟨(TokenStream.ofString source).stop, hended.stop_token, ?_⟩
    refine ParseState.run_eq_error_iff.2 (.inr ⟨s, hxs, ?_⟩)
    cases s with
    | outside finished => cases hwanted
    | inside finished enclosing focus =>
      have hfocus : focus.wanted = .token .rbrace := hwanted
      rw [ParseState.finish, hfocus, Wanted.refuse]

/-- An accepted source has as many closing braces as opening ones. -/
theorem count_lbrace_of_parse {source : String} {d : Diagram} (h : Diagram.parse source = .ok d) :
    (TokenStream.ofString source).tokens.count .lbrace =
      (TokenStream.ofString source).tokens.count .rbrace := by
  obtain ⟨id, hitems⟩ := placed_of_parse h
  obtain ⟨written, hledger⟩ := hitems.exists_ledger
  exact hledger.count_lbrace.trans hledger.count_rbrace.symm

end Diagram

/-- The help that names open bodies stands with a missing closing brace at the end of the input, and
with no other error. -/
theorem SyntaxError.help_diagnostic_iff {e : SyntaxError} :
    e.diagnostic.help = some "the input ended before every `\x7b` was closed" ↔
      ∃ found : Lexeme, found.token = .endOfInput ∧ e = .unexpectedToken .rbrace found := by
  cases e with
  | unexpectedToken expected found =>
    simp only [diagnostic]
    split
    · next h => exact ⟨fun _ => ⟨found, h.1, by rw [h.2]⟩, fun _ => rfl⟩
    · next h =>
      refine ⟨nofun, ?_⟩
      rintro ⟨found', hfound, heq⟩
      cases heq
      exact absurd ⟨hfound, rfl⟩ h
  | expectedIdentifier found =>
    refine ⟨fun h => absurd (Option.some.inj h) (by decide), ?_⟩
    rintro ⟨_, -, h⟩
    cases h
  | edgeSourceMismatch node found position =>
    refine ⟨fun h => ?_, ?_⟩
    · -- This help begins with another letter, whatever the name of the node is.
      have hhead := congrArg (fun s : String => s.toList.head?) (Option.some.inj h)
      simp [String.toList_append] at hhead
    · rintro ⟨_, -, h⟩
      cases h
  | nestingTooDeep found =>
    refine ⟨fun h => absurd (Option.some.inj h) (by decide), ?_⟩
    rintro ⟨_, -, h⟩
    cases h

/-! ## How many braces are missing -/

/-- A source is reported to end before every body is closed exactly when it is accepted with closing
braces behind it, one at least. The help of the error says so in this case and in no other. Only one
number of closing braces makes the source acceptable: that of the opening braces of the source
beyond its closing ones. -/
theorem Diagram.unclosed_iff (source : String) :
    ((∃ found : Lexeme, found.token = .endOfInput ∧
        Diagram.parse source = .error (.unexpectedToken .rbrace found)) ↔
      ∃ k d, 1 ≤ k ∧ Diagram.parse (source ++ closingBraces k) = .ok d) ∧
    (∀ e : SyntaxError,
      e.diagnostic.help = some "the input ended before every `\x7b` was closed" ↔
        ∃ found : Lexeme, found.token = .endOfInput ∧ e = .unexpectedToken .rbrace found) ∧
    ∀ k d, Diagram.parse (source ++ closingBraces k) = .ok d →
      (TokenStream.ofString source).tokens.count .lbrace =
        (TokenStream.ofString source).tokens.count .rbrace + k := by
  refine ⟨?_, fun e => SyntaxError.help_diagnostic_iff, fun k d h => ?_⟩
  · rw [unclosed_iff_wanted]
    constructor
    · rintro ⟨s, hxs, hwanted⟩
      obtain ⟨k, hcompletion⟩ := ParseState.exists_completion_eq hwanted "a"
      obtain ⟨braces, hwords, hbraces⟩ :=
        TokenStream.exists_words_append_closingBraces source (k + 1)
      obtain ⟨finished, hrun⟩ := ParseState.reaches_completion (hbraces.trans hcompletion.symm)
      refine ⟨k + 1, ⟨finished⟩, Nat.le_add_left 1 k, ?_⟩
      rw [Diagram.parse_eq_ok_iff, hwords]
      exact hxs.trans hrun
    · rintro ⟨k, d, hk, hd⟩
      obtain ⟨braces, hwords, hbraces⟩ := TokenStream.exists_words_append_closingBraces source k
      rw [Diagram.parse_eq_ok_iff, hwords] at hd
      obtain ⟨s, hxs, hrun⟩ := hd.exists_of_append
      -- The first of the braces is taken in the state that the source leads to.
      obtain ⟨k, rfl⟩ := Nat.exists_eq_add_of_le' hk
      rw [List.replicate_succ] at hbraces
      obtain ⟨brace, others, rfl, hbrace, -⟩ := List.map_eq_cons_iff.1 hbraces
      cases hrun with
      | cons htakes _ => exact ⟨s, hxs, htakes.wanted_of_rbrace hbrace⟩
  · obtain ⟨braces, hwords, hbraces⟩ := TokenStream.exists_words_append_closingBraces source k
    have htokens : (TokenStream.ofString (source ++ closingBraces k)).tokens =
        (TokenStream.ofString source).tokens ++ List.replicate k .rbrace := by
      rw [TokenStream.tokens, hwords, List.map_append, hbraces, TokenStream.tokens]
    have hcount := Diagram.count_lbrace_of_parse h
    rw [htokens, List.count_append, List.count_append, List.count_replicate,
      List.count_replicate_self] at hcount
    simpa using hcount

/-- In `node a { calls b {` two bodies are open: it is reported so, and with two closing braces the
source is accepted. -/
theorem Diagram.unclosed_iff_edge :
    let source := "node a \x7b calls b \x7b"
    let a : Spanned := ⟨"a", Span.ofBounds 5 6⟩
    let d : Diagram := ⟨[⟨a, [], [⟨a, ⟨"b", Span.ofBounds 15 16⟩, []⟩], []⟩]⟩
    Diagram.parse (source ++ closingBraces 2) = .ok d ∧
      (∃ found : Lexeme, found.token = .endOfInput ∧
        Diagram.parse source = .error (.unexpectedToken .rbrace found)) ∧
      (TokenStream.ofString source).tokens.count .lbrace =
        (TokenStream.ofString source).tokens.count .rbrace + 2 := by
  intro source a d
  have h : Diagram.parse (source ++ closingBraces 2) = .ok d := by cbv
  obtain ⟨hiff, -, hcount⟩ := unclosed_iff source
  exact ⟨h, hiff.2 ⟨2, d, by decide, h⟩, hcount 2 d h⟩

end DiagramCheck
