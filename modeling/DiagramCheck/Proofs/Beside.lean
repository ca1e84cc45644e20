import DiagramCheck.Proofs.Descent

/-!
# The descent beside the machine

A reading by descent and the machine accept the same tokens, come to the same diagram or the same
fault, and agree on how many nodes are open, although the descent counts them and the machine reads
their number off its state.

`State.At` says that the descent has the place of the machine in a state, and `Ends` that a piece of
the descent ends either further on, beside the machine in a later state, or with the fault that the
machine comes to. A token is accepted where the machine takes it (`advance_ends`), each function of
the descent ends because its parts do (`Ends.bind`), a loop because its rounds advance
(`loop_ends`), and nested nodes by induction on the levels that are left (`readsNodes`).

The count is off by one for a moment: a node is counted before its keyword is accepted, and still
counted behind its closing brace. There the descent is beside the machine without agreeing on the
count (`State.Beside`).
-/

namespace DiagramCheck

/-! ## Tokens that are taken and refused -/

/-- Where a token can do nothing in a stage, the stage has no step. -/
theorem AttributeStage.step_eq_none {stage : AttributeStage} {x : Lexeme}
    (h : ∀ result, ¬stage.Takes x result) : stage.step x = none :=
  Option.eq_none_iff_forall_ne_some.2 fun result hresult => h result (step_eq_some_iff.1 hresult)

namespace ParseState

/-- The end of the input is never taken. -/
theorem Takes.token_ne_endOfInput {s s' : ParseState} {x : Lexeme} (h : s.Takes x s') :
    x.token ≠ .endOfInput := by
  cases h with
  | nodeKeyword _ _ _ kind h | edgeAttributeKeyword _ _ _ _ kind h =>
    cases kind <;> simp [h, AttributeKind.keyword]
  | nodeStage _ _ _ h | nodeAttribute _ _ _ h | edgeStage _ _ _ _ h | edgeAttribute _ _ _ _ h =>
    cases h <;> simp [*]
  | _ => simp [*]

/-- Where a token can do nothing, and it is neither an arrow behind the name of an edge nor the
keyword of a nested node, it is refused for what the grammar asks for. -/
theorem step_eq_refuse {s : ParseState} {x : Lexeme} (htakes : ∀ s', ¬s.Takes x s')
    (harrow : ∀ finished enclosing node name position,
      s = .inside finished enclosing (.edgeArrow node name position) → x.token ≠ .arrow)
    (hnode : ∀ finished enclosing node,
      s = .inside finished enclosing (.nodeBody node) → x.token ≠ .node) :
    s.step x = .error (s.wanted.refuse x) := by
  cases hstep : s.step x with
  | ok s' => exact absurd (step_eq_ok_iff.1 hstep) (htakes s')
  | error e =>
    rcases step_eq_error hstep with
      rfl | ⟨finished, enclosing, node, name, position, hs, hx, -⟩ |
        ⟨finished, enclosing, node, hs, hx, -⟩
    · rfl
    · exact absurd hx (harrow _ _ _ _ _ hs)
    · exact absurd hx (hnode _ _ _ hs)

/-- What neither closes the body of an edge nor begins an attribute is refused there. -/
theorem step_edgeBody_eq_error {finished enclosing : List Node} {node : Node} {edge : Edge}
    {x : Lexeme} (hclose : x.token ≠ .rbrace)
    (hkind : ∀ kind : AttributeKind, x.token ≠ kind.keyword) :
    step (.inside finished enclosing (.edgeBody node edge)) x =
      .error (.unexpectedToken .rbrace x) := by
  refine step_eq_refuse (fun s' htakes => ?_) nofun nofun
  cases htakes with
  | closeEdge _ _ _ _ h => exact hclose h
  | edgeAttributeKeyword _ _ _ _ kind h => exact hkind kind h

/-- What neither closes the body of a node nor begins an item of it is refused there. -/
theorem step_nodeBody_eq_error {finished enclosing : List Node} {node : Node} {x : Lexeme}
    (hclose : x.token ≠ .rbrace) (hkind : ∀ kind : AttributeKind, x.token ≠ kind.keyword)
    (hedge : x.token ≠ .edge) (hnode : x.token ≠ .node) :
    step (.inside finished enclosing (.nodeBody node)) x = .error (.unexpectedToken .rbrace x) := by
  refine step_eq_refuse (fun s' htakes => ?_) nofun fun _ _ _ _ => hnode
  cases htakes with
  | closeNode _ _ _ h => exact hclose h
  | openNested _ _ _ h _ => exact hnode h
  | nodeKeyword _ _ _ kind h => exact hkind kind h
  | edgeKeyword _ _ _ h => exact hedge h

end ParseState

namespace Descent

open ParseState

/-! ## A descent beside the machine -/

/-- Where a reading by descent, or a part of one, begins: the state of the descent, and the state of
the machine beside it. -/
structure Course where
  /-- The descent. -/
  start : State
  /-- The machine. -/
  origin : ParseState

/-- What the machine comes to from there on, behind the tokens that have been accepted before. -/
def Course.parse (c : Course) : Parse :=
  let ahead := c.origin.run c.start.upcoming.stop c.start.upcoming.words
  ⟨c.start.accepted ++ ahead.accepted, ahead.result⟩

variable {α β : Type} {c : Course} {s s' : ParseState} {r r' r'' : State}

/-- `r.Beside s c` says that the machine in the state `s` is where the descent `r` is, on a course:
it has come there over the tokens that have been accepted, and if it takes those that are still
unread, it comes to what the course comes to. -/
structure State.Beside (r : State) (s : ParseState) (c : Course) : Prop where
  /-- The descent is at some place of the source. -/
  liesIn : r.cursor.LiesIn r.source
  /-- The machine has come there over the tokens that have been accepted. -/
  reaches : ∃ xs, r.accepted = c.start.accepted ++ xs ∧ c.origin.Reaches xs s
  /-- The tokens that are accepted in all. -/
  accepted_eq : r.accepted ++ (s.run r.upcoming.stop r.upcoming.words).accepted = c.parse.accepted
  /-- What the reading comes to. -/
  result_eq : (s.run r.upcoming.stop r.upcoming.words).result = c.parse.result

/-- `r.At s c` says that the machine is where the descent is, and that the descent counts as many
nodes as open as the machine has open, if it did so at the start of the course. -/
structure State.At (r : State) (s : ParseState) (c : Course) : Prop extends r.Beside s c where
  /-- The count has changed as much as the depth of the machine. -/
  depth_eq : r.depth + c.origin.depth = c.start.depth + s.depth

/-- At any place of a source, a course may start with the machine in any state. -/
theorem State.at_start (h : r.cursor.LiesIn r.source) (s : ParseState) : r.At s ⟨r, s⟩ where
  liesIn := h
  reaches := ⟨[], (List.append_nil _).symm, .refl s⟩
  accepted_eq := rfl
  result_eq := rfl
  depth_eq := rfl

/-- The count agrees with the machine on from where it did so, if both have changed alike. -/
theorem State.At.onward (h : r.At s c) (h' : r'.Beside s' c)
    (hcount : r'.depth + s.depth = r.depth + s'.depth) : r'.At s' c := by
  refine ⟨h', ?_⟩
  have hdepth := h.depth_eq
  omega

/-- `r.ComesTo result c` says that the descent has this result, beside the machine. -/
structure State.ComesTo (r : State) (result : Except SyntaxError Diagram) (c : Course) : Prop where
  /-- The course comes to that result, and to the tokens that have been accepted. -/
  parse_eq : c.parse = ⟨r.accepted, result⟩
  /-- The machine is where the descent is. -/
  exists_at : ∃ s, r.At s c

/-- `r.Advances r'` says that a descent has come past some tokens, and has left as many nodes as it
has entered. -/
structure State.Advances (r r' : State) : Prop where
  /-- As many nodes are counted as open. -/
  depth_eq : r'.depth = r.depth
  /-- Fewer tokens are unread. -/
  unread_lt : r'.unread < r.unread

/-- A descent advances in two parts. -/
theorem State.Advances.trans (h : r.Advances r') (h' : r'.Advances r'') : r.Advances r'' :=
  ⟨h'.depth_eq.trans h.depth_eq, h'.unread_lt.trans h.unread_lt⟩

/-- `r.Keeps r'` says the same of a descent that may have come past no token. -/
structure State.Keeps (r r' : State) : Prop where
  /-- As many nodes are counted as open. -/
  depth_eq : r'.depth = r.depth
  /-- No more tokens are unread. -/
  unread_le : r'.unread ≤ r.unread

/-- A descent that advances keeps what it has to. -/
theorem State.Advances.keeps (h : r.Advances r') : r.Keeps r' :=
  ⟨h.depth_eq, Nat.le_of_lt h.unread_lt⟩

/-- A descent that has kept what it has to advances on. -/
theorem State.Keeps.advances (h : r.Keeps r') (h' : r'.Advances r'') : r.Advances r'' :=
  ⟨h'.depth_eq.trans h.depth_eq, Nat.lt_of_lt_of_le h'.unread_lt h.unread_le⟩

/-- `Ends c post result` says that a piece of a descent has one of two ends: a value, behind which
`post` holds, or the fault that the course `c` comes to. It has no other end. -/
def Ends (c : Course) (post : α → State → Prop) : EStateM.Result Stop State α → Prop
  | .ok a r => post a r
  | .error (.fault e) r => r.ComesTo (.error e) c
  | .error _ _ => False

/-- What holds behind a piece of a descent may be weakened. -/
theorem Ends.imp {post post' : α → State → Prop} {result : EStateM.Result Stop State α}
    (h : Ends c post result) (hpost : ∀ a r, post a r → post' a r) : Ends c post' result := by
  match result, h with
  | .ok a r, h => exact hpost a r h
  | .error (.fault e) r, h => exact h

/-- Two pieces of a descent, one behind the other. -/
theorem Ends.bind {m : Descent α} {f : α → Descent β} {post : α → State → Prop}
    {post' : β → State → Prop} (h : Ends c post (m.run r))
    (hf : ∀ a r', post a r' → Ends c post' ((f a).run r')) : Ends c post' ((m >>= f).run r) := by
  rw [EStateM.run_bind]
  match m.run r, h with
  | .ok a r', h => exact hf a r' h
  | .error (.fault e) r', h => exact h

/-- A piece of a descent that looks at the token that comes next. -/
theorem Ends.lookahead {f : Lexeme → Descent α} {post : α → State → Prop}
    (h : Ends c post ((f r.lookahead).run r)) : Ends c post ((Descent.lookahead >>= f).run r) :=
  h

/-- `RoundEnds c state post r` says what holds behind a round of a loop: it has advanced, and the
machine is in the state for what the round hands on, or it ends the loop on the spot. -/
def RoundEnds (c : Course) (state : α → ParseState) (post : β → State → Prop) (r : State) :
    α ⊕ β → State → Prop
  | .inl a, r' => r'.At (state a) c ∧ r.Advances r'
  | .inr b, r' => r' = r ∧ post b r

/-- A loop ends when its rounds do. -/
theorem loop_ends {round : α → Descent (α ⊕ β)} {state : α → ParseState} {post : β → State → Prop}
    (hround : ∀ a r', r'.depth = r.depth → r'.At (state a) c →
      Ends c (RoundEnds c state post r') ((round a).run r')) {a : α} (h : r.At (state a) c) :
    Ends c (fun b r' => post b r' ∧ r.Keeps r') (loop round a r) := by
  -- The induction is on the tokens that are unread in front of a round.
  suffices hloop : ∀ a r', r.Keeps r' → r'.At (state a) c →
      Ends c (fun b r' => post b r' ∧ r.Keeps r') (loop round a r') from
    hloop a r ⟨rfl, le_rfl⟩ h
  intro a r' hkeeps h
  induction hn : r'.unread using Nat.strong_induction_on generalizing a r' with
  | _ n ih =>
    have hend := hround a r' hkeeps.depth_eq h
    rw [loop]
    match (round a).run r', hend with
    | .ok (.inr b) _, ⟨rfl, hpost⟩ => exact ⟨hpost, hkeeps⟩
    | .ok (.inl a') r₁, ⟨h₁, hadv⟩ =>
      simp only [hadv.unread_lt, ↓reduceDIte]
      exact ih r₁.unread (hn ▸ hadv.unread_lt) a' r₁ (hkeeps.advances hadv).keeps h₁ rfl
    | .error (.fault e) _, hfault => exact hfault

/-! ## Tokens -/

/-- A descent that looks at the token at a place has the tokens from there on still to accept. -/
theorem upcoming_mk (source : String) (c : Cursor) (depth : Nat) (accepted : List Lexeme) :
    State.upcoming ⟨source, c.next.2, c.next.1, depth, accepted⟩ = c.stream := by
  rw [Cursor.stream.eq_def c, State.upcoming]
  split <;> rfl

/-- A token that the machine takes is accepted, and the count stays as it is. -/
theorem advance_beside (h : r.Beside s c) (hs : s.Takes r.lookahead s') :
    Ends c (fun _ r' => r'.Beside s' c ∧ r.Advances r') (advance.run r) := by
  have hupcoming : r.upcoming =
      ⟨r.lookahead :: r.cursor.stream.words, r.cursor.stream.stop⟩ :=
    if_neg hs.token_ne_endOfInput
  obtain ⟨xs, hxs, hreaches⟩ := h.reaches
  have haccepted := h.accepted_eq
  have hresult := h.result_eq
  rw [hupcoming, ParseState.run, step_eq_ok_iff.2 hs] at haccepted hresult
  rw [advance_run h.liesIn.next?_eq]
  refine ⟨⟨h.liesIn.next, ⟨xs ++ [r.lookahead], ?_, hreaches.snoc hs⟩, ?_, ?_⟩, rfl, ?_⟩
  · rw [hxs, List.append_assoc]
  · rw [upcoming_mk, List.append_assoc]
    exact haccepted
  · rw [upcoming_mk]
    exact hresult
  · rw [State.unread, State.unread, upcoming_mk, hupcoming]
    exact Nat.lt_succ_self _

/-- A token that changes the depth of the machine no more than the count is accepted. -/
theorem advance_ends (h : r.At s c) (hs : s.Takes r.lookahead s')
    (hneutral : r.lookahead.token.isNeutral = true) :
    Ends c (fun _ r' => r'.At s' c ∧ r.Advances r') (advance.run r) :=
  (advance_beside h.toBeside hs).imp fun _ _ ⟨h', hadv⟩ =>
    ⟨h.onward h' (by rw [hadv.depth_eq, hs.depth_eq hneutral]), hadv⟩

/-- Where the machine refuses the token that comes next, its error is what the reading comes to. -/
theorem State.At.comesTo_of_refused {e : SyntaxError} (h : r.At s c)
    (hstep : s.step r.lookahead = .error e)
    (hend : r.lookahead.token = .endOfInput → ∀ finished, s ≠ .outside finished) :
    r.ComesTo (.error e) c := by
  have hrun : s.run r.upcoming.stop r.upcoming.words = ⟨[], .error e⟩ := by
    by_cases hx : r.lookahead.token = .endOfInput
    · rw [State.upcoming, if_pos hx, ParseState.run,
        (finish_eq_error_iff hx).2 ⟨hstep, hend hx⟩]
    · rw [State.upcoming, if_neg hx, ParseState.run, hstep]
  have haccepted := h.accepted_eq
  have hresult := h.result_eq
  rw [hrun, List.append_nil] at haccepted
  rw [hrun] at hresult
  exact ⟨congrArg₂ Parse.mk haccepted.symm hresult.symm, s, h⟩

/-- `Expects s t x s'` says that the machine in the state `s`, where `x` comes next, needs the token
`t`, and goes on in the state `s'` if `x` is one. -/
structure Expects (s : ParseState) (t : Token) (x : Lexeme) (s' : ParseState) : Prop where
  /-- The token is taken. -/
  taken : x.token = t → s.Takes x s'
  /-- Any other token is refused. -/
  refused : x.token ≠ t → s.step x = .error (.unexpectedToken t x)
  /-- The state is inside of a node. -/
  inside : ∀ finished, s ≠ .outside finished

/-- A fixed token is accepted where the machine needs it, and the fault is that of the machine where
it stands for another one. -/
theorem expect_ends {t : Token} (h : r.At s c) (hs : Expects s t r.lookahead s')
    (ht : t.isNeutral = true) :
    Ends c (fun _ r' => r'.At s' c ∧ r.Advances r') ((expect t).run r) := by
  unfold expect
  refine .lookahead ?_
  split
  · next hx => exact advance_ends h (hs.taken hx) (hx ▸ ht)
  · next hx => exact h.comesTo_of_refused (hs.refused hx) fun _ => hs.inside

/-- A fixed token is accepted where it has been seen. -/
theorem expect_beside {t : Token} (h : r.Beside s c) (hx : r.lookahead.token = t)
    (hs : s.Takes r.lookahead s') :
    Ends c (fun _ r' => r'.Beside s' c ∧ r.Advances r') ((expect t).run r) := by
  unfold expect
  refine .lookahead ?_
  rw [if_pos hx]
  exact advance_beside h hs

/-- If the depth of the machine stays as it is, then the count agrees with it behind the token. -/
theorem expect_ends_of_token {t : Token} (h : r.At s c) (hx : r.lookahead.token = t)
    (hs : s.Takes r.lookahead s') (hdepth : s'.depth = s.depth) :
    Ends c (fun _ r' => r'.At s' c ∧ r.Advances r') ((expect t).run r) :=
  (expect_beside h.toBeside hx hs).imp fun _ _ ⟨h', hadv⟩ =>
    ⟨h.onward h' (by rw [hadv.depth_eq, hdepth]), hadv⟩

/-- `ExpectsName s x next` says that the machine in the state `s`, where `x` comes next, needs a
name, and goes on in the state that `next` has for it if `x` is one. -/
structure ExpectsName (s : ParseState) (x : Lexeme) (next : Spanned → ParseState) : Prop where
  /-- A name is taken. -/
  taken : ∀ name, x.token = .identifier name → s.Takes x (next ⟨name, x.span⟩)
  /-- Any other token is refused. -/
  refused : (∀ name, x.token ≠ .identifier name) → s.step x = .error (.expectedIdentifier x)
  /-- The state is inside of a node. -/
  inside : ∀ finished, s ≠ .outside finished

/-- A name is accepted where the machine needs one, and the fault is that of the machine where
something else comes. -/
theorem identifier_ends {next : Spanned → ParseState} (h : r.At s c)
    (hs : ExpectsName s r.lookahead next) :
    Ends c (fun name r' => r'.At (next name) c ∧ r.Advances r') (identifier.run r) := by
  unfold identifier
  refine .lookahead ?_
  cases hx : r.lookahead.token with
  | identifier name =>
    exact (advance_ends h (hs.taken name hx) (by rw [hx]; rfl)).bind fun _ _ h' => h'
  | _ =>
    have hname : ∀ name, r.lookahead.token ≠ .identifier name := by simp [hx]
    exact h.comesTo_of_refused (hs.refused hname) fun _ => hs.inside

/-! ## Attributes -/

/-- No keyword of an attribute opens a node or closes anything. -/
theorem isNeutral_keyword (kind : AttributeKind) : kind.keyword.isNeutral = true := by
  cases kind <;> rfl

/-- `AttributeFrame state done` says that the machine reads an attribute in the states `state`, by
its stages, and comes out of it in the states `done`. So it does in the body of a node, and in that
of an edge. -/
structure AttributeFrame (state : AttributeStage → ParseState) (done : Attribute → ParseState) :
    Prop where
  /-- A token inside the attribute. -/
  stage : ∀ {stage stage' x}, AttributeStage.Takes stage x (.inl stage') →
    (state stage).Takes x (state stage')
  /-- The last token of the attribute. -/
  done : ∀ {stage a x}, AttributeStage.Takes stage x (.inr a) → (state stage).Takes x (done a)
  /-- A token that has no place in the attribute. -/
  refuse : ∀ {stage x}, (∀ result, ¬AttributeStage.Takes stage x result) →
    (state stage).step x = .error (stage.wanted.refuse x)
  /-- The attribute is inside of a node. -/
  inside : ∀ stage finished, state stage ≠ .outside finished

/-- The attributes of a node. -/
theorem attributeFrame_node (finished enclosing : List Node) (node : Node) :
    AttributeFrame (fun stage => .inside finished enclosing (.nodeAttribute node stage))
      (fun a => .inside finished enclosing (.nodeBody (node.addAttribute a))) where
  stage h := .nodeStage _ _ _ h
  done h := .nodeAttribute _ _ _ h
  refuse h := by
    simp only [step, stepInside]
    rw [AttributeStage.step_eq_none h]
  inside := nofun

/-- The attributes of an edge. -/
theorem attributeFrame_edge (finished enclosing : List Node) (node : Node) (edge : Edge) :
    AttributeFrame (fun stage => .inside finished enclosing (.edgeAttribute node edge stage))
      (fun a => .inside finished enclosing (.edgeBody node (edge.addAttribute a))) where
  stage h := .edgeStage _ _ _ _ h
  done h := .edgeAttribute _ _ _ _ h
  refuse h := by
    simp only [step, stepInside]
    rw [AttributeStage.step_eq_none h]
  inside := nofun

section Attributes

variable {state : AttributeStage → ParseState} {done : Attribute → ParseState} {x : Lexeme}

/-- Behind its keyword, an attribute needs a colon. -/
theorem AttributeFrame.expects_colon (frame : AttributeFrame state done) (kind : AttributeKind) :
    Expects (state (.colon kind)) .colon x (state (.value kind)) where
  taken hx := frame.stage (.colon kind hx)
  refused hx := frame.refuse fun _ htakes => by
    cases htakes with
    | colon _ h => exact hx h
  inside := frame.inside _

/-- Behind its name, a label with quotes needs the closing one. -/
theorem AttributeFrame.expects_quote (frame : AttributeFrame state done) (text : Spanned) :
    Expects (state (.closing text)) .quote x (done ⟨.label, text⟩) where
  taken hx := frame.done (.closeQuote text hx)
  refused hx := frame.refuse fun _ htakes => by
    cases htakes with
    | closeQuote _ h => exact hx h
  inside := frame.inside _

/-- Behind its opening quote, a label needs a name. -/
theorem AttributeFrame.expectsName_quoted (frame : AttributeFrame state done) :
    ExpectsName (state .quoted) x fun text => state (.closing text) where
  taken _ hx := frame.stage (.quoted hx)
  refused hx := frame.refuse fun _ htakes => by
    cases htakes with
    | quoted h => exact hx _ h
  inside := frame.inside _

/-- The value of an attribute has to be a name, unless it is a label and opens with a quote. -/
theorem AttributeFrame.expectsName_value (frame : AttributeFrame state done) {kind : AttributeKind}
    (hquote : kind = .label → x.token ≠ .quote) :
    ExpectsName (state (.value kind)) x fun name => done ⟨kind, name⟩ where
  taken _ hx := frame.done (.bare kind hx)
  refused hx := frame.refuse fun _ htakes => by
    cases htakes with
    | bare _ h => exact hx _ h
    | openQuote h => exact hquote rfl h
  inside := frame.inside _

/-- The keyword of an attribute and the colon are read, and then its value. -/
theorem keyword_ends (kind : AttributeKind) {value : Descent Spanned}
    {post : Spanned → State → Prop} (frame : AttributeFrame state done) (h : r.At s c)
    (hx : r.lookahead.token = kind.keyword) (hs : s.Takes r.lookahead (state (.colon kind)))
    (hvalue : ∀ r', r'.At (state (.value kind)) c → r.Advances r' → Ends c post (value.run r')) :
    Ends c post ((do expect kind.keyword; expect .colon; value : Descent Spanned).run r) := by
  have hdepth : (state (.colon kind)).depth = s.depth :=
    hs.depth_eq (hx ▸ isNeutral_keyword kind)
  refine (expect_ends_of_token h hx hs hdepth).bind fun _ r₁ ⟨h₁, hadv₁⟩ => ?_
  refine (expect_ends h₁ (frame.expects_colon kind) rfl).bind fun _ r₂ ⟨h₂, hadv₂⟩ => ?_
  exact hvalue r₂ h₂ (hadv₁.trans hadv₂)

/-- A color is read as an attribute. -/
theorem colorValue_ends (frame : AttributeFrame state done) (h : r.At s c)
    (hx : r.lookahead.token = .color) (hs : s.Takes r.lookahead (state (.colon .color))) :
    Ends c (fun color r' => r'.At (done ⟨.color, color⟩) c ∧ r.Advances r') (colorValue.run r) := by
  refine keyword_ends .color frame h hx hs fun r₁ h₁ hadv₁ => ?_
  exact (identifier_ends h₁ (frame.expectsName_value nofun)).imp fun name r₂ ⟨h₂, hadv₂⟩ =>
    ⟨h₂, hadv₁.trans hadv₂⟩

/-- A label is read as an attribute, with quotes or without. -/
theorem labelValue_ends (frame : AttributeFrame state done) (h : r.At s c)
    (hx : r.lookahead.token = .label) (hs : s.Takes r.lookahead (state (.colon .label))) :
    Ends c (fun text r' => r'.At (done ⟨.label, text⟩) c ∧ r.Advances r') (labelValue.run r) := by
  refine keyword_ends .label frame h hx hs fun r₁ h₁ hadv₁ => ?_
  refine .lookahead ?_
  split
  · next hquote =>
    refine (advance_ends h₁ (frame.stage (.openQuote hquote)) (by rw [hquote]; rfl)).bind
      fun _ r₂ ⟨h₂, hadv₂⟩ => ?_
    refine (identifier_ends h₂ frame.expectsName_quoted).bind fun text r₃ ⟨h₃, hadv₃⟩ => ?_
    refine (expect_ends h₃ (frame.expects_quote text) rfl).bind fun _ r₄ ⟨h₄, hadv₄⟩ => ?_
    exact ⟨h₄, hadv₁.trans (hadv₂.trans (hadv₃.trans hadv₄))⟩
  · next hquote =>
    exact (identifier_ends h₁ (frame.expectsName_value fun _ => hquote)).imp
      fun name r₂ ⟨h₂, hadv₂⟩ => ⟨h₂, hadv₁.trans hadv₂⟩

end Attributes

/-! ## Edges -/

section Bodies

variable {finished enclosing : List Node} {node : Node} {x : Lexeme}

/-- Behind its keyword, an edge needs a name. -/
theorem expectsName_edgeName :
    ExpectsName (.inside finished enclosing (.edgeName node)) x
      fun name => .inside finished enclosing (.edgeArrow node name x.position) where
  taken _ hx := .edgeName _ _ _ hx
  refused hx := step_eq_refuse (fun _ htakes => by
    cases htakes with
    | edgeName _ _ _ h => exact hx _ h) nofun nofun
  inside := nofun

/-- Behind its arrow, an edge needs the name of its target. -/
theorem expectsName_edgeTarget :
    ExpectsName (.inside finished enclosing (.edgeTarget node)) x
      fun target => .inside finished enclosing (.edgeBrace node target) where
  taken _ hx := .edgeTarget _ _ _ hx
  refused hx := step_eq_refuse (fun _ htakes => by
    cases htakes with
    | edgeTarget _ _ _ h => exact hx _ h) nofun nofun
  inside := nofun

/-- Behind the target that follows an arrow, an edge needs its opening brace. -/
theorem expects_edgeBrace {target : Spanned} :
    Expects (.inside finished enclosing (.edgeBrace node target)) .lbrace x
      (.inside finished enclosing (.edgeBody node ⟨node.id, target, []⟩)) where
  taken hx := .openExplicit _ _ _ _ hx
  refused hx := step_eq_refuse (fun _ htakes => by
    cases htakes with
    | openExplicit _ _ _ _ h => exact hx h) nofun nofun
  inside := nofun

/-- Behind its first name, an edge without an arrow needs its opening brace. -/
theorem expects_edgeArrow {name : Spanned} {position : Position} (harrow : x.token ≠ .arrow) :
    Expects (.inside finished enclosing (.edgeArrow node name position)) .lbrace x
      (.inside finished enclosing (.edgeBody node ⟨node.id, name, []⟩)) where
  taken hx := .openImplicit _ _ _ _ _ hx
  refused hx := step_eq_refuse (fun _ htakes => by
    cases htakes with
    | openImplicit _ _ _ _ _ h => exact hx h
    | arrow _ _ _ _ _ h => exact harrow h) (fun _ _ _ _ _ _ => harrow) nofun
  inside := nofun

/-- The target of an edge is read with the arrow in front of it or as the first name, and then the
machine needs the brace that opens the body. -/
theorem edgeTarget_ends {name : Spanned} {position : Position}
    (h : r.At (.inside finished enclosing (.edgeArrow node name position)) c) :
    Ends c (fun target r' => r.Keeps r' ∧ ∃ s', r'.At s' c ∧
        Expects s' .lbrace r'.lookahead
          (.inside finished enclosing (.edgeBody node ⟨node.id, target, []⟩)))
      ((edgeTarget node.id name position).run r) := by
  unfold edgeTarget
  refine .lookahead ?_
  split
  · next harrow =>
    split
    · next hname =>
      refine (advance_ends h (.arrow _ _ _ _ _ harrow hname) (by rw [harrow]; rfl)).bind
        fun _ r₁ ⟨h₁, hadv₁⟩ => ?_
      exact (identifier_ends h₁ expectsName_edgeTarget).imp fun target r₂ ⟨h₂, hadv₂⟩ =>
        ⟨(hadv₁.trans hadv₂).keeps, _, h₂, expects_edgeBrace⟩
    · next hname =>
      refine h.comesTo_of_refused ?_ fun _ => nofun
      simp [step, stepInside, harrow, hname]
  · next harrow => exact ⟨⟨rfl, le_rfl⟩, _, h, expects_edgeArrow harrow⟩

/-- A round over the body of an edge reads an attribute, or ends at the closing brace. -/
theorem edgeRound_ends {edge : Edge}
    (h : r.At (.inside finished enclosing (.edgeBody node edge)) c) :
    Ends c (RoundEnds c (fun e => .inside finished enclosing (.edgeBody node e))
        (fun e r' => r'.At (.inside finished enclosing (.edgeBody node e)) c ∧
          r'.lookahead.token = .rbrace) r)
      ((edgeRound edge).run r) := by
  have hrefused : r.lookahead.token ≠ .rbrace →
      (∀ kind : AttributeKind, r.lookahead.token ≠ kind.keyword) →
      r.ComesTo (.error (.unexpectedToken .rbrace r.lookahead)) c :=
    fun hclose hkind => h.comesTo_of_refused (step_edgeBody_eq_error hclose hkind) fun _ => nofun
  unfold edgeRound
  refine .lookahead ?_
  cases hx : r.lookahead.token with
  | rbrace => exact ⟨rfl, h, hx⟩
  | color =>
    exact (colorValue_ends (attributeFrame_edge _ _ _ _) h hx
      (.edgeAttributeKeyword _ _ _ _ .color hx)).bind fun _ _ h' => h'
  | label =>
    exact (labelValue_ends (attributeFrame_edge _ _ _ _) h hx
      (.edgeAttributeKeyword _ _ _ _ .label hx)).bind fun _ _ h' => h'
  | _ =>
    refine hrefused (by simp [hx]) fun kind => ?_
    cases kind <;> simp [hx, AttributeKind.keyword]

/-- An edge is read as an item of the body of the node that it is declared in. -/
theorem edgeDecl_ends (h : r.At (.inside finished enclosing (.nodeBody node)) c)
    (hx : r.lookahead.token = .edge) :
    Ends c (fun e r' => r'.At (.inside finished enclosing (.nodeBody (node.addEdge e))) c ∧
        r.Advances r')
      ((edgeDecl node.id).run r) := by
  refine (expect_ends_of_token h hx (.edgeKeyword _ _ _ hx) rfl).bind
    fun _ r₁ ⟨h₁, hadv₁⟩ => ?_
  refine .lookahead ?_
  refine (identifier_ends h₁ expectsName_edgeName).bind fun name r₂ ⟨h₂, hadv₂⟩ => ?_
  refine (edgeTarget_ends h₂).bind fun target r₃ ⟨hkeeps₃, s₃, h₃, hs₃⟩ => ?_
  refine (expect_ends h₃ hs₃ rfl).bind fun _ r₄ ⟨h₄, hadv₄⟩ => ?_
  refine (loop_ends (fun e r' _ h' => edgeRound_ends h') h₄).bind
    fun e r₅ ⟨⟨h₅, hclose⟩, hkeeps₅⟩ => ?_
  refine (expect_ends_of_token h₅ hclose (.closeEdge _ _ _ _ hclose) rfl).bind
    fun _ r₆ ⟨h₆, hadv₆⟩ => ?_
  have hhead : r.Advances r₄ := hadv₁.trans (hadv₂.trans (hkeeps₃.advances hadv₄))
  exact ⟨h₆, hhead.trans (hkeeps₅.advances hadv₆)⟩

/-! ## Nodes -/

/-- What a descent counts as open has to do with no token. -/
theorem State.Beside.withDepth (h : r.Beside s c) (depth : Nat) :
    State.Beside { r with depth := depth } s c :=
  ⟨h.liesIn, h.reaches, h.accepted_eq, h.result_eq⟩

/-- A node is entered, or its keyword is one too many. -/
theorem enter_ends (h : r.At s c) (hx : r.lookahead.token = .node)
    (hdeep : r.depth = maxNesting → s.step r.lookahead = .error (.nestingTooDeep r.lookahead)) :
    Ends c (fun _ r' => r.depth ≠ maxNesting ∧ r' = { r with depth := r.depth + 1 })
      (enter.run r) := by
  show Ends c _ ((if r.depth = maxNesting then throw (Stop.fault (.nestingTooDeep r.lookahead))
    else set { r with depth := r.depth + 1 } : Descent Unit).run r)
  split
  · next hfull =>
    have hend : r.lookahead.token ≠ .endOfInput := by simp [hx]
    exact h.comesTo_of_refused (hdeep hfull) fun h => absurd h hend
  · next hlevel => exact ⟨hlevel, rfl⟩

/-- A node is left that is counted as open. -/
theorem leave_ends {depth : Nat} (hdepth : r.depth = depth + 1) :
    Ends c (fun _ r' => r' = { r with depth := depth }) (leave.run r) := by
  show Ends c _ ((if r.depth = 0 then throw Stop.underflow
    else set { r with depth := r.depth - 1 } : Descent Unit).run r)
  rw [if_neg (hdepth ▸ Nat.succ_ne_zero depth), hdepth, Nat.add_sub_cancel]
  rfl

/-- Behind its keyword, a node needs a name. -/
theorem expectsName_nodeName :
    ExpectsName (.inside finished enclosing .nodeName) x
      fun id => .inside finished enclosing (.nodeBrace id) where
  taken _ hx := .nodeName _ _ hx
  refused hx := step_eq_refuse (fun _ htakes => by
    cases htakes with
    | nodeName _ _ h => exact hx _ h) nofun nofun
  inside := nofun

/-- Behind its name, a node needs its opening brace. -/
theorem expects_nodeBrace {id : Spanned} :
    Expects (.inside finished enclosing (.nodeBrace id)) .lbrace x
      (.inside finished enclosing (.nodeBody (.ofId id))) where
  taken hx := .openNode _ _ _ hx
  refused hx := step_eq_refuse (fun _ htakes => by
    cases htakes with
    | openNode _ _ _ h => exact hx h) nofun nofun
  inside := nofun

/-- `ReadsNodes levels` says that nodes are read as the machine reads them when `levels` bodies may
still be entered: from the keyword on, which it takes unless there is no level left, to the state
behind the brace that closes the node. The machine has the nodes around it open, and the descent
counts these. -/
def ReadsNodes (levels : Nat) : Prop :=
  ∀ {c : Course} {s : ParseState} {r : State} (finished enclosing : List Node), r.At s c →
    r.lookahead.token = .node → s.depth = enclosing.length → r.depth = enclosing.length →
    r.depth + levels = maxNesting →
    (r.depth ≠ maxNesting → s.Takes r.lookahead (.inside finished enclosing .nodeName)) →
    (r.depth = maxNesting → s.step r.lookahead = .error (.nestingTooDeep r.lookahead)) →
    Ends c (fun n r' => r'.At (close finished enclosing n) c ∧ r.Advances r')
      ((nodeDecl levels).run r)

/-- A round over the body of a node reads one of its items, or ends at the closing brace. -/
theorem nodeRound_ends {levels : Nat} (hchild : ReadsNodes levels)
    (h : r.At (.inside finished enclosing (.nodeBody node)) c)
    (hdepth : r.depth = enclosing.length + 1) (hlevels : r.depth + levels = maxNesting) :
    Ends c (RoundEnds c (fun n => .inside finished enclosing (.nodeBody n))
        (fun n r' => r'.At (.inside finished enclosing (.nodeBody n)) c ∧
          r'.lookahead.token = .rbrace) r)
      ((nodeRound (nodeDecl levels) node).run r) := by
  have hrefused : r.lookahead.token ≠ .rbrace →
      (∀ kind : AttributeKind, r.lookahead.token ≠ kind.keyword) → r.lookahead.token ≠ .edge →
      r.lookahead.token ≠ .node →
      r.ComesTo (.error (.unexpectedToken .rbrace r.lookahead)) c :=
    fun hclose hkind hedge hnode =>
      h.comesTo_of_refused (step_nodeBody_eq_error hclose hkind hedge hnode) fun _ => nofun
  unfold nodeRound
  refine .lookahead ?_
  cases hx : r.lookahead.token with
  | rbrace => exact ⟨rfl, h, hx⟩
  | color =>
    exact (colorValue_ends (attributeFrame_node _ _ _) h hx (.nodeKeyword _ _ _ .color hx)).bind
      fun _ _ h' => h'
  | label =>
    exact (labelValue_ends (attributeFrame_node _ _ _) h hx (.nodeKeyword _ _ _ .label hx)).bind
      fun _ _ h' => h'
  | edge => exact (edgeDecl_ends h hx).bind fun _ _ h' => h'
  | node =>
    have hopen : r.depth ≠ maxNesting → enclosing.length + 1 < maxNesting := by omega
    have hfull : r.depth = maxNesting → maxNesting ≤ enclosing.length + 1 := by omega
    refine (hchild finished (node :: enclosing) h hx rfl hdepth hlevels
      (fun hlevel => .openNested _ _ _ hx (hopen hlevel))
      (fun hdeep => step_eq_nestingTooDeep_iff.2 ⟨hx, hfull hdeep⟩)).bind fun _ _ h' => h'
  | _ =>
    exact hrefused (by simp [hx]) (fun kind => by cases kind <;> simp [hx, AttributeKind.keyword])
      (by simp [hx]) (by simp [hx])

end Bodies

/-- Nodes are read as the machine reads them, whatever the levels that are left. -/
theorem readsNodes (levels : Nat) : ReadsNodes levels := by
  -- The body of a node is read with one level less than there is for the node itself.
  induction levels with
  | zero =>
    -- As many nodes are open as there may be, so this one is not entered.
    intro c s r finished enclosing h hx _ _ hlevels _ hdeep
    refine (enter_ends h hx hdeep).bind ?_
    rintro _ _ ⟨hlevel, -⟩
    exact absurd hlevels hlevel
  | succ levels ih =>
    intro c s r finished enclosing h hx hs hdepth hlevels hopen hdeep
    refine (enter_ends h hx hdeep).bind ?_
    rintro _ r₁ ⟨hlevel, hr₁⟩
    have h₁ : r₁.Beside s c := hr₁ ▸ h.toBeside.withDepth _
    have hx₁ : r₁.lookahead = r.lookahead := by rw [hr₁]
    have hdepth₁ : r₁.depth = enclosing.length + 1 := by rw [hr₁, ← hdepth]
    refine (expect_beside h₁ (hx₁ ▸ hx) (hx₁ ▸ hopen hlevel)).bind ?_
    rintro _ r₂ ⟨hb₂, hadv₂⟩
    -- Behind the keyword the machine has the node open as well.
    have h₂ : r₂.At (.inside finished enclosing .nodeName) c :=
      h.onward hb₂ (by rw [hadv₂.depth_eq, hdepth₁, hdepth, hs, depth, Nat.add_comm])
    refine (identifier_ends h₂ expectsName_nodeName).bind ?_
    rintro id r₃ ⟨h₃, hadv₃⟩
    refine (expect_ends h₃ expects_nodeBrace rfl).bind ?_
    rintro _ r₄ ⟨h₄, hadv₄⟩
    have hhead : r₁.Advances r₄ := hadv₂.trans (hadv₃.trans hadv₄)
    have hdepth₄ : r₄.depth = enclosing.length + 1 := hhead.depth_eq.trans hdepth₁
    refine (loop_ends (fun n r' hr' h' => nodeRound_ends ih h' (hr'.trans hdepth₄) (by omega))
      h₄).bind ?_
    rintro n r₅ ⟨⟨h₅, hclose⟩, hkeeps₅⟩
    refine (expect_beside h₅.toBeside hclose (.closeNode _ _ _ hclose)).bind ?_
    rintro _ r₆ ⟨hb₆, hadv₆⟩
    have hbody : r₁.Advances r₆ := hhead.trans (hkeeps₅.advances hadv₆)
    refine (leave_ends (hbody.depth_eq.trans hdepth₁)).bind ?_
    rintro _ r₇ hr₇
    -- Behind the brace the machine has closed it as well.
    have hdepth₇ : r₇.depth = r.depth := by rw [hr₇, hdepth]
    have h₇ : r₇.At (close finished enclosing n) c :=
      h.onward (hr₇ ▸ hb₆.withDepth _) (by rw [hdepth₇, hs, depth_close])
    -- To enter and to leave the node changes nothing but the count.
    have hbefore : r₁.unread = r.unread := by rw [hr₁]; rfl
    have hbehind : r₇.unread = r₆.unread := by rw [hr₇]; rfl
    have hunread : r₇.unread < r.unread := hbehind ▸ hbefore ▸ hbody.unread_lt
    exact ⟨h₇, hdepth₇, hunread⟩

/-! ## Diagrams -/

/-- A round over the top-level nodes reads one of them, or ends at the end of the input with the
diagram that the machine comes to. -/
theorem topRound_ends {nodes : List Node} (h : r.At (.outside nodes) c) (hdepth : r.depth = 0) :
    Ends c (RoundEnds c .outside (fun d r' => r'.ComesTo (.ok d) c) r)
      ((topRound nodes).run r) := by
  have hrefused : r.lookahead.token ≠ .endOfInput → r.lookahead.token ≠ .node →
      r.ComesTo (.error (.unexpectedToken .node r.lookahead)) c := by
    intro hend hnode
    refine h.comesTo_of_refused (step_eq_refuse ?_ nofun nofun) fun hx => absurd hx hend
    rintro _ ⟨⟩
    exact hnode ‹_›
  unfold topRound
  refine .lookahead ?_
  cases hx : r.lookahead.token with
  | endOfInput =>
    -- Nothing is unread, so the machine comes to what it has read already.
    have haccepted := h.accepted_eq
    have hresult := h.result_eq
    rw [State.upcoming, if_pos hx, ParseState.run] at haccepted hresult
    rw [List.append_nil] at haccepted
    exact ⟨rfl, congrArg₂ Parse.mk haccepted.symm hresult.symm, _, h⟩
  | node =>
    refine (readsNodes maxNesting nodes [] h hx rfl hdepth (by omega)
      (fun _ => .openTop _ hx) (fun hdeep => ?_)).bind fun _ _ h' => h'
    rw [hdepth] at hdeep
    cases hdeep
  | _ => exact hrefused (by simp [hx]) (by simp [hx])

/-- A diagram is read as the machine reads it, and behind it no node is counted as open. -/
theorem diagram_ends (h : r.At .start c) (hdepth : r.depth = 0) :
    Ends c (fun d r' => r'.ComesTo (.ok d) c ∧ r'.depth = 0) (diagram.run r) :=
  (loop_ends (fun _ _ hr' h' => topRound_ends h' (hr'.trans hdepth)) h).imp
    fun _ _ ⟨h', hkeeps⟩ => ⟨h', hkeeps.depth_eq.trans hdepth⟩

end Descent

/-- Reading by descent comes to what the machine comes to, and accepts the same tokens. -/
theorem Lexer.descend_eq {l : Lexer} {source : String} (h : l.cursor.LiesIn source) :
    l.descend source =
      (l.parse.mapError Descent.Stop.fault, l.cursor.stream.parse.accepted) := by
  have hstart : Descent.State.At ⟨source, l.cursor.next.2, l.cursor.next.1, 0, []⟩ .start
      ⟨_, .start⟩ := Descent.State.at_start h.next .start
  have hcourse : Descent.Course.parse ⟨⟨source, l.cursor.next.2, l.cursor.next.1, 0, []⟩, .start⟩ =
      l.cursor.stream.parse := by
    rw [Descent.Course.parse, Descent.upcoming_mk]
    rfl
  have hend := Descent.diagram_ends hstart rfl
  rw [Lexer.descend, h.next?_eq, parse]
  cases hrun : Descent.diagram.run ⟨source, l.cursor.next.2, l.cursor.next.1, 0, []⟩ with
  | ok d r' =>
    rw [hrun] at hend
    have hparse : l.cursor.stream.parse = ⟨r'.accepted, .ok d⟩ := hcourse ▸ hend.1.parse_eq
    simp only [hrun, hparse]
    rfl
  | error stop r' =>
    rw [hrun] at hend
    cases stop with
    | fault e =>
      have hparse : l.cursor.stream.parse = ⟨r'.accepted, .error e⟩ := hcourse ▸ hend.parse_eq
      simp only [hrun, hparse]
      rfl
    | _ => exact hend.elim

end DiagramCheck
