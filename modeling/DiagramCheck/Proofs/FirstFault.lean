import DiagramCheck.Proofs.Reading
import DiagramCheck.Proofs.Writing
import Mathlib

/-!
# The first fault of a source

A source is refused at the first token that rules it out, and the error says what could have stood
there (`Diagram.parse_error_first`). Up to that token every reading can still be brought to an end:
`ParseState.completion` is a way out of each state, and `ParseState.exists_continuation` one that
begins with what the grammar asks for. Behind it nothing is looked at: `Diagram.parse_eq_error_iff`
speaks only of the tokens up to the refused one.
-/

namespace DiagramCheck

/-! ## Refusing a token -/

/-- `s.Refuses x e` says that the token `x`, which may be the end of the input, is refused in the
state `s` with the error `e`. -/
def ParseState.Refuses (s : ParseState) (x : Lexeme) (e : SyntaxError) : Prop :=
  s.step x = .error e ∧ (x.token = .endOfInput → ∀ finished, s ≠ .outside finished)

/-- The error for a token that is not what the grammar asks for says what that is. -/
theorem Wanted.eq_of_refuse_eq {w w' : Wanted} {x y : Lexeme} (h : w.refuse x = w'.refuse y) :
    w = w' := by
  cases w <;> cases w' <;> cases h <;> rfl

/-- A source fails exactly when its tokens, the end of the input included, begin with ones that lead
to a state in which the next one is refused. -/
theorem Diagram.parse_eq_error_iff {source : String} {e : SyntaxError} :
    Diagram.parse source = .error e ↔
      ∃ xs x s, xs ++ [x] <+: (TokenStream.ofString source).toList ∧
        ParseState.start.Reaches xs s ∧ s.Refuses x e := by
  have hended := (Cursor.ofString source).stream_ended
  constructor
  · -- The refused token is one of the words, or the end of the input behind them.
    intro h
    rcases ParseState.run_eq_error_iff.1 h with ⟨ys, x, zs, t, hwords, hys, hx⟩ | ⟨t, hxs, ht⟩
    · have hmem : x ∈ (TokenStream.ofString source).words := by
        rw [hwords]
        simp
      refine ⟨ys, x, t, ?_, hys, hx, fun hend => absurd hend (hended.words_token x hmem)⟩
      rw [TokenStream.toList, hwords]
      simp
    · obtain ⟨hstep, houtside⟩ := (ParseState.finish_eq_error_iff hended.stop_token).1 ht
      exact ⟨_, _, t, List.prefix_rfl, hxs, hstep, fun _ => houtside⟩
  · rintro ⟨xs, x, s, hfront, hxs, hstep, houtside⟩
    refine ParseState.run_eq_error_iff.2 ?_
    rw [TokenStream.toList, List.prefix_concat_iff] at hfront
    rcases hfront with heq | ⟨zs, hzs⟩
    · obtain ⟨hwords, hstop⟩ := List.append_inj' heq rfl
      cases hstop
      refine .inr ⟨s, hwords ▸ hxs, ?_⟩
      exact (ParseState.finish_eq_error_iff hended.stop_token).2
        ⟨hstep, houtside hended.stop_token⟩
    · refine .inl ⟨xs, x, zs, s, ?_, hxs, hstep⟩
      rw [List.append_assoc] at hzs
      exact hzs.symm

/-! ## A way out of each state -/

/-- Tokens that complete an attribute. The names among them are all `name`. -/
def AttributeStage.completion (name : String) : AttributeStage → List Token
  | .colon _ => [.colon, .identifier name]
  | .value _ => [.identifier name]
  | .quoted => [.identifier name, .quote]
  | .closing _ => [.quote]

/-- Tokens that complete the innermost node. The names among them are all `name`. -/
def Focus.completion (name : String) : Focus → List Token
  | .nodeName => [.identifier name, .lbrace, .rbrace]
  | .nodeBrace _ => [.lbrace, .rbrace]
  | .nodeBody _ => [.rbrace]
  | .nodeAttribute _ stage => stage.completion name ++ [.rbrace]
  | .edgeName _ => [.identifier name, .lbrace, .rbrace, .rbrace]
  | .edgeArrow .. => [.lbrace, .rbrace, .rbrace]
  | .edgeTarget _ => [.identifier name, .lbrace, .rbrace, .rbrace]
  | .edgeBrace .. => [.lbrace, .rbrace, .rbrace]
  | .edgeBody .. => [.rbrace, .rbrace]
  | .edgeAttribute _ _ stage => stage.completion name ++ [.rbrace, .rbrace]

/-- Tokens that complete all open nodes. The names among them are all `name`. -/
def ParseState.completion (name : String) : ParseState → List Token
  | .outside _ => []
  | .inside _ enclosing focus =>
    focus.completion name ++ List.replicate enclosing.length .rbrace

/-- A token that the grammar asks for. -/
def Wanted.sample (name : String) : Wanted → Token
  | .token t => t
  | .name => .identifier name

/-- An attribute is completed by the token that the grammar asks for, and more. -/
theorem AttributeStage.completion_eq_cons (stage : AttributeStage) (name : String) :
    ∃ ts, stage.completion name = stage.wanted.sample name :: ts := by
  cases stage <;> exact ⟨_, rfl⟩

/-- A node is completed by the token that the grammar asks for, and more. -/
theorem Focus.completion_eq_cons (focus : Focus) (name : String) :
    ∃ ts, focus.completion name = focus.wanted.sample name :: ts := by
  cases focus with
  | nodeAttribute node stage | edgeAttribute node edge stage =>
    obtain ⟨ts, hts⟩ := stage.completion_eq_cons name
    exact ⟨_, by rw [completion, hts, List.cons_append]; rfl⟩
  | _ => exact ⟨_, rfl⟩

/-- The tokens that complete a node can be written, given a name that can. -/
theorem Focus.isWritable_completion {name : String} (hname : Token.isName name = true)
    (focus : Focus) : ∀ t ∈ focus.completion name, t.isWritable = true := by
  have hstage : ∀ stage : AttributeStage, ∀ t ∈ stage.completion name, t.isWritable = true := by
    intro stage
    cases stage <;> simp [AttributeStage.completion, Token.isWritable, hname]
  cases focus with
  | nodeAttribute node stage | edgeAttribute node edge stage =>
    intro t ht
    rcases List.mem_append.1 ht with ht | ht
    · exact hstage stage t ht
    · simp only [List.mem_cons, List.not_mem_nil, or_false, or_self] at ht
      rw [ht]
      rfl
  | _ => simp [completion, Token.isWritable, hname]

/-- The completion of an attribute is taken token by token. -/
theorem AttributeStage.takes_completion {name : String} {stage : AttributeStage} {x : Lexeme}
    {t : Token} {ts : List Token} (h : stage.completion name = t :: ts) (hx : x.token = t) :
    (∃ stage', stage.Takes x (.inl stage') ∧ stage'.completion name = ts) ∨
      ts = [] ∧ ∃ a, stage.Takes x (.inr a) := by
  cases stage with
  | colon kind =>
    cases h
    exact .inl ⟨_, .colon kind hx, rfl⟩
  | value kind =>
    cases h
    exact .inr ⟨rfl, _, .bare kind hx⟩
  | quoted =>
    cases h
    exact .inl ⟨_, .quoted hx, rfl⟩
  | closing text =>
    cases h
    exact .inr ⟨rfl, _, .closeQuote text hx⟩

namespace ParseState

/-- A node that is closed leaves the nodes around it to be completed. -/
theorem completion_close (name : String) (finished enclosing : List Node) (node : Node) :
    (close finished enclosing node).completion name = List.replicate enclosing.length .rbrace := by
  cases enclosing with
  | nil => rfl
  | cons outer others =>
    simp [close, completion, Focus.completion, List.replicate_succ]

/-- The completion of a state is taken token by token. -/
theorem takes_completion {name : String} {s : ParseState} {x : Lexeme} {t : Token}
    {ts : List Token} (h : s.completion name = t :: ts) (hx : x.token = t) :
    ∃ s', s.Takes x s' ∧ s'.completion name = ts := by
  cases s with
  | outside finished => cases h
  | inside finished enclosing focus =>
    cases focus with
    | nodeName =>
      cases h
      exact ⟨_, .nodeName _ _ hx, rfl⟩
    | nodeBrace id =>
      cases h
      exact ⟨_, .openNode _ _ _ hx, rfl⟩
    | nodeBody node =>
      cases h
      exact ⟨_, .closeNode _ _ _ hx, completion_close name finished enclosing node⟩
    | nodeAttribute node stage =>
      -- The token goes on in the attribute, or is its last one and leads back into the body.
      obtain ⟨ts', hstage⟩ := stage.completion_eq_cons name
      simp only [completion, Focus.completion, hstage, List.cons_append] at h
      obtain ⟨rfl, rfl⟩ := List.cons.inj h
      rcases AttributeStage.takes_completion hstage hx with ⟨stage', htakes, rfl⟩ | ⟨rfl, a, htakes⟩
      · exact ⟨_, .nodeStage _ _ _ htakes, rfl⟩
      · exact ⟨_, .nodeAttribute _ _ _ htakes, rfl⟩
    | edgeName node =>
      cases h
      exact ⟨_, .edgeName _ _ _ hx, rfl⟩
    | edgeArrow node first position =>
      cases h
      exact ⟨_, .openImplicit _ _ _ _ _ hx, rfl⟩
    | edgeTarget node =>
      cases h
      exact ⟨_, .edgeTarget _ _ _ hx, rfl⟩
    | edgeBrace node target =>
      cases h
      exact ⟨_, .openExplicit _ _ _ _ hx, rfl⟩
    | edgeBody node edge =>
      cases h
      exact ⟨_, .closeEdge _ _ _ _ hx, rfl⟩
    | edgeAttribute node edge stage =>
      obtain ⟨ts', hstage⟩ := stage.completion_eq_cons name
      simp only [completion, Focus.completion, hstage, List.cons_append] at h
      obtain ⟨rfl, rfl⟩ := List.cons.inj h
      rcases AttributeStage.takes_completion hstage hx with ⟨stage', htakes, rfl⟩ | ⟨rfl, a, htakes⟩
      · exact ⟨_, .edgeStage _ _ _ _ htakes, rfl⟩
      · exact ⟨_, .edgeAttribute _ _ _ _ htakes, rfl⟩

/-- The completion of a state leads out of all nodes. -/
theorem reaches_completion {name : String} {s : ParseState} {xs : List Lexeme}
    (h : xs.map Lexeme.token = s.completion name) :
    ∃ finished, s.Reaches xs (.outside finished) := by
  induction xs generalizing s with
  | nil =>
    cases s with
    | outside finished => exact ⟨finished, .refl _⟩
    | inside finished enclosing focus =>
      obtain ⟨ts, hts⟩ := focus.completion_eq_cons name
      rw [completion, hts] at h
      cases h
  | cons x xs ih =>
    obtain ⟨s', hx, hs'⟩ := takes_completion h.symm rfl
    obtain ⟨finished, hxs⟩ := ih hs'.symm
    exact ⟨finished, .cons hx hxs⟩

/-- From every state, some tokens that begin with what the grammar asks for lead out of all nodes.
They can be written, given a name that can. -/
theorem exists_continuation {name : String} (hname : Token.isName name = true) (s : ParseState) :
    ∃ ts, (∀ t ∈ s.wanted.sample name :: ts, t.isWritable = true) ∧
      ∀ xs : List Lexeme, xs.map Lexeme.token = s.wanted.sample name :: ts →
        ∃ finished, s.Reaches xs (.outside finished) := by
  cases s with
  | outside finished =>
    refine ⟨[.identifier name, .lbrace, .rbrace], ?_, fun xs hxs => ?_⟩
    · simp [wanted, Wanted.sample, Token.isWritable, hname]
    · -- Another node can follow: its keyword is taken, and what is left completes the node.
      cases xs with
      | nil => cases hxs
      | cons x xs =>
        obtain ⟨hx, hxs⟩ := List.cons.inj hxs
        have hnode : xs.map Lexeme.token = (inside finished [] .nodeName).completion name := hxs
        obtain ⟨finished', hrest⟩ := reaches_completion hnode
        exact ⟨finished', .cons (.openTop finished hx) hrest⟩
  | inside finished enclosing focus =>
    obtain ⟨ts, hts⟩ := focus.completion_eq_cons name
    have hcompletion : (inside finished enclosing focus).completion name =
        focus.wanted.sample name :: (ts ++ List.replicate enclosing.length .rbrace) := by
      rw [completion, hts, List.cons_append]
    refine ⟨_, fun t ht => ?_, fun xs hxs => reaches_completion (hxs.trans hcompletion.symm)⟩
    rw [show (inside finished enclosing focus).wanted = focus.wanted from rfl, ← hcompletion,
      completion] at ht
    rcases List.mem_append.1 ht with ht | ht
    · exact focus.isWritable_completion hname t ht
    · rw [List.eq_of_mem_replicate ht]
      rfl

end ParseState

/-! ## What tokens at the front of a source decide -/

namespace Diagram

/-- Some source begins with the tokens `xs` and is accepted. -/
def Viable (xs : List Lexeme) : Prop :=
  ∃ source d, xs <+: (TokenStream.ofString source).toList ∧ Diagram.parse source = .ok d

/-- Every source that begins with the tokens `xs` fails with the error `e`. -/
def Refused (xs : List Lexeme) (e : SyntaxError) : Prop :=
  ∀ source, xs <+: (TokenStream.ofString source).toList → Diagram.parse source = .error e

/-- Fewer tokens leave more open. -/
theorem Viable.of_prefix {xs ys : List Lexeme} (h : Viable ys) (hxs : xs <+: ys) : Viable xs := by
  obtain ⟨source, d, hys, hd⟩ := h
  exact ⟨source, d, hxs.trans hys, hd⟩

/-- What has been read of a source can go on with a token that the grammar asks for. -/
theorem exists_viable {source name : String} {xs : List Lexeme} {s : ParseState}
    (hname : Token.isName name = true) (hxs : ParseState.start.Reaches xs s)
    (hfront : xs <+: (TokenStream.ofString source).words) :
    ∃ x : Lexeme, x.token = s.wanted.sample name ∧ Viable (xs ++ [x]) := by
  -- The way out of the state is written behind the tokens that led to it.
  obtain ⟨ts, hts, hreaches⟩ := s.exists_continuation hname
  obtain ⟨source', ys, hys, hwords⟩ :=
    TokenStream.exists_extension source hfront.length_le hts
  rw [← List.prefix_iff_eq_take.1 hfront] at hwords
  obtain ⟨finished, hrun⟩ := hreaches ys hys
  cases ys with
  | nil => cases hys
  | cons y ys =>
    refine ⟨y, (List.cons.inj hys).1, source', ⟨finished⟩, ?_, ?_⟩
    · rw [TokenStream.toList, hwords]
      simp
    · rw [Diagram.parse_eq_ok_iff, hwords]
      exact hxs.trans hrun

end Diagram

/-! ## Where the fault is -/

/-- `e.DecidedAt xs k` says that the token `k` of `xs` decides on the error `e`. This is the token
that the error shows, except that a wrong source of an edge is decided on by the arrow behind it. -/
inductive SyntaxError.DecidedAt (xs : List Lexeme) : SyntaxError → Nat → Prop
  /-- The token that was found in place of another. -/
  | unexpectedToken {k : Nat} {expected : Token} {found : Lexeme} (h : xs[k]? = some found) :
    DecidedAt xs (.unexpectedToken expected found) k
  /-- The token that was found in place of a name. -/
  | expectedIdentifier {k : Nat} {found : Lexeme} (h : xs[k]? = some found) :
    DecidedAt xs (.expectedIdentifier found) k
  /-- The arrow right behind the name that was found. -/
  | edgeSourceMismatch {k : Nat} {node found : Spanned} {position : Position} {arrow : Lexeme}
    (hname : xs[k]? = some ⟨.identifier found.text, position, found.span⟩)
    (h : xs[k + 1]? = some arrow) (harrow : arrow.token = .arrow) :
    DecidedAt xs (.edgeSourceMismatch node found position) (k + 1)
  /-- The keyword of the node that is too deep. -/
  | nestingTooDeep {k : Nat} {found : Lexeme} (h : xs[k]? = some found) :
    DecidedAt xs (.nestingTooDeep found) k

/-- Among different tokens, at most one decides on an error. -/
theorem SyntaxError.DecidedAt.unique {xs : List Lexeme} {e : SyntaxError} {j k : Nat}
    (hxs : xs.Nodup) (hj : e.DecidedAt xs j) (hk : e.DecidedAt xs k) : j = k := by
  have hsame : ∀ {i i' : Nat} {x : Lexeme}, xs[i]? = some x → xs[i']? = some x → i = i' := by
    intro i i' x hi hi'
    obtain ⟨hlt, -⟩ := List.getElem?_eq_some_iff.1 hi
    exact (List.getElem?_inj hlt hxs).1 (hi.trans hi'.symm)
  cases hj with
  | unexpectedToken hj =>
    cases hk with
    | unexpectedToken hk => exact hsame hj hk
  | expectedIdentifier hj =>
    cases hk with
    | expectedIdentifier hk => exact hsame hj hk
  | edgeSourceMismatch hj _ _ =>
    cases hk with
    | edgeSourceMismatch hk _ _ => rw [hsame hj hk]
  | nestingTooDeep hj =>
    cases hk with
    | nestingTooDeep hk => exact hsame hj hk

namespace ParseState

/-- The token that is refused decides on the error, behind the tokens that led to the state. -/
theorem Refuses.decidedAt {s : ParseState} {xs : List Lexeme} {x : Lexeme} {e : SyntaxError}
    (h : s.Refuses x e) (hxs : ParseState.start.Reaches xs s) (zs : List Lexeme) :
    e.DecidedAt (xs ++ x :: zs) xs.length := by
  have hx : (xs ++ x :: zs)[xs.length]? = some x := by simp
  rcases step_eq_error h.1 with rfl | ⟨_, _, node, name, position, rfl, harrow, rfl⟩ |
    ⟨_, _, _, -, -, rfl⟩
  · cases s.wanted with
    | token t => exact .unexpectedToken hx
    | name => exact .expectedIdentifier hx
  · -- The state is not the first one, so the name stands in front of the arrow.
    rcases hxs.last_step with ⟨-, hstart⟩ | ⟨ys, y, t, rfl, -, hy⟩
    · cases hstart
    · rw [List.length_append] at hx ⊢
      refine .edgeSourceMismatch ?_ hx harrow
      rw [← hy.of_edgeArrow.2]
      simp
  · exact .nestingTooDeep hx

/-- What an error says was missing is what the grammar asks for. -/
theorem Refuses.wanted_eq {s : ParseState} {w : Wanted} {x found : Lexeme}
    (h : s.Refuses x (w.refuse found)) : s.wanted = w := by
  rcases step_eq_error h.1 with h | ⟨_, _, _, _, _, -, -, h⟩ | ⟨_, _, _, -, -, h⟩
  · exact (Wanted.eq_of_refuse_eq h).symm
  · cases w <;> cases h
  · cases w <;> cases h

end ParseState

/-- What stands in front of a token of a stream has no end of the input in it. -/
theorem TokenStream.prefix_words {s : TokenStream} {xs : List Lexeme} {x : Lexeme}
    (h : xs ++ [x] <+: s.toList) : xs <+: s.words := by
  rw [TokenStream.toList, List.prefix_concat_iff] at h
  rcases h with heq | hfront
  · obtain ⟨hwords, -⟩ := List.append_inj' heq rfl
    exact hwords ▸ List.prefix_rfl
  · exact (List.prefix_append xs [x]).trans hfront

/-- Tokens of a stream up to one that is not the end of the input are all words. -/
theorem TokenStream.Ended.prefix_words {s : TokenStream} {xs : List Lexeme} {x : Lexeme}
    (hs : s.Ended) (h : xs ++ [x] <+: s.toList) (hx : x.token ≠ .endOfInput) :
    xs ++ [x] <+: s.words := by
  rw [toList, List.prefix_concat_iff] at h
  rcases h with heq | hfront
  · obtain ⟨-, hstop⟩ := List.append_inj' heq rfl
    cases hstop
    exact absurd hs.stop_token hx
  · exact hfront

/-- A source that fails has one token that decides on the error. The tokens up to that one fix the
error, whatever follows them. The ones in front of it are the beginning of a source that is
accepted, and they stay so with the token that the error says was expected, or with any name where
it says that a name was. -/
theorem Diagram.parse_error_first {source : String} {e : SyntaxError}
    (h : Diagram.parse source = .error e) :
    let tokens := (TokenStream.ofString source).toList
    ∃ k, (∀ j, e.DecidedAt tokens j ↔ j = k) ∧
      Refused (tokens.take (k + 1)) e ∧
      Viable (tokens.take k) ∧
      (∀ expected found, e = .unexpectedToken expected found →
        ∃ x : Lexeme, x.token = expected ∧ Viable (tokens.take k ++ [x])) ∧
      ∀ found, e = .expectedIdentifier found → ∀ name, Token.isName name = true →
        ∃ x : Lexeme, x.token = .identifier name ∧ Viable (tokens.take k ++ [x]) := by
  intro tokens
  obtain ⟨xs, x, s, ⟨zs, hzs⟩, hxs, hrefuses⟩ := Diagram.parse_eq_error_iff.1 h
  have hwords : xs <+: (TokenStream.ofString source).words := TokenStream.prefix_words ⟨zs, hzs⟩
  have htake_succ : tokens.take (xs.length + 1) = xs ++ [x] := by
    rw [show tokens = xs ++ [x] ++ zs from hzs.symm]
    exact List.take_left' (by simp)
  rw [List.append_assoc, List.singleton_append] at hzs
  have htake : tokens.take xs.length = xs := by
    rw [show tokens = xs ++ x :: zs from hzs.symm, List.take_left]
  have hdecided : e.DecidedAt tokens xs.length := by
    rw [show tokens = xs ++ x :: zs from hzs.symm]
    exact hrefuses.decidedAt hxs zs
  have hnodup : tokens.Nodup := (Cursor.ofString source).stream_nodup
  have hviable : ∀ name, Token.isName name = true →
      ∃ y : Lexeme, y.token = s.wanted.sample name ∧ Viable (xs ++ [y]) :=
    fun name hname => exists_viable hname hxs hwords
  -- The deciding token is the refused one, so what led up to it is what the reader has taken.
  refine ⟨xs.length, fun j => ⟨fun hj => hj.unique hnodup hdecided, fun hj => hj ▸ hdecided⟩, ?_⟩
  rw [htake, htake_succ]
  refine ⟨fun source' hsource' => ?_, ?_, ?_, ?_⟩
  · exact Diagram.parse_eq_error_iff.2 ⟨xs, x, s, hsource', hxs, hrefuses⟩
  · obtain ⟨y, -, hy⟩ := hviable "a" (by decide)
    exact hy.of_prefix (List.prefix_append xs [y])
  · rintro expected found rfl
    obtain ⟨y, htoken, hy⟩ := hviable "a" (by decide)
    rw [hrefuses.wanted_eq (w := .token expected)] at htoken
    exact ⟨y, htoken, hy⟩
  · rintro found rfl name hname
    obtain ⟨y, htoken, hy⟩ := hviable name hname
    rw [hrefuses.wanted_eq (w := .name)] at htoken
    exact ⟨y, htoken, hy⟩

/-- In `node A { calls B -> C { } }` the arrow decides that `B` is no source: the six tokens up to
it fix the error, and the five in front of it are the beginning of a source that is accepted. -/
theorem Diagram.parse_error_first_arrow :
    let source := "node A \x7b calls B -> C \x7b \x7d \x7d"
    let tokens := (TokenStream.ofString source).toList
    let e : SyntaxError := .edgeSourceMismatch ⟨"A", Span.ofBounds 5 6⟩
      ⟨"B", Span.ofBounds 15 16⟩ (Position.ofCounts 1 16)
    Diagram.parse source = .error e ∧ Refused (tokens.take 6) e ∧ Viable (tokens.take 5) := by
  intro source tokens e
  have h : Diagram.parse source = .error e := by cbv
  have hname : tokens[4]? =
      some ⟨.identifier "B", Position.ofCounts 1 16, Span.ofBounds 15 16⟩ := by
    decide +kernel
  have harrow : tokens[5]? = some ⟨.arrow, Position.ofCounts 1 18, Span.ofBounds 17 19⟩ := by
    decide +kernel
  obtain ⟨k, hdecided, hrefused, hviable, -⟩ := parse_error_first h
  have hk : 5 = k := (hdecided 5).1 (.edgeSourceMismatch hname harrow rfl)
  subst hk
  exact ⟨h, hrefused, hviable⟩

end DiagramCheck
