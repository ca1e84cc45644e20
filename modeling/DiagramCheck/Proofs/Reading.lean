import DiagramCheck.Diagram.Parser

/-!
# How the reading of a diagram proceeds

`ParseState.Takes` lists everything that one token can do: a constructor for each way in which a
state takes a token and goes on. It is `ParseState.step` read backwards (`step_eq_ok_iff`), and
`step_eq_error` lists the ways in which a token is refused. Proofs about the reading go by cases on
these, and never open the step itself.

`ParseState.Reaches` is a run of steps. `ParseState.run_eq_ok_iff` and
`ParseState.run_eq_error_iff` say what a reading of all tokens is in terms of runs: it passes when a
run over them ends outside of all nodes, and it fails where a run comes to a token, the end of the
input included, that the grammar has no place for.
-/

namespace DiagramCheck

/-- The keyword of an attribute. -/
def AttributeKind.keyword : AttributeKind → Token
  | .color => .color
  | .label => .label

/-! ## One step inside an attribute -/

/-- Everything that one token can do inside an attribute. -/
inductive AttributeStage.Takes : AttributeStage → Lexeme → AttributeStage ⊕ Attribute → Prop
  /-- The colon behind the keyword. -/
  | colon {x : Lexeme} (kind : AttributeKind) (h : x.token = .colon) :
    Takes (.colon kind) x (.inl (.value kind))
  /-- A name as the value. -/
  | bare {x : Lexeme} {name : String} (kind : AttributeKind) (h : x.token = .identifier name) :
    Takes (.value kind) x (.inr ⟨kind, ⟨name, x.span⟩⟩)
  /-- The quote before a label. -/
  | openQuote {x : Lexeme} (h : x.token = .quote) : Takes (.value .label) x (.inl .quoted)
  /-- The name of a quoted label. -/
  | quoted {x : Lexeme} {name : String} (h : x.token = .identifier name) :
    Takes .quoted x (.inl (.closing ⟨name, x.span⟩))
  /-- The quote behind a label. -/
  | closeQuote {x : Lexeme} (text : Spanned) (h : x.token = .quote) :
    Takes (.closing text) x (.inr ⟨.label, text⟩)

/-- The steps inside an attribute are the ones listed. -/
theorem AttributeStage.step_eq_some_iff {stage : AttributeStage} {x : Lexeme}
    {r : AttributeStage ⊕ Attribute} : stage.step x = some r ↔ stage.Takes x r := by
  constructor
  · intro h
    unfold step at h
    split at h
    all_goals cases h
    · next hx => exact .colon _ hx
    · next hx => exact .bare _ hx
    · next hx => exact .openQuote hx
    · next hx => exact .quoted hx
    · next hx => exact .closeQuote _ hx
  · intro h
    cases h with
    | bare kind h => cases kind <;> simp [step, h]
    | _ => simp [step, *]

/-- The node whose body has been opened last, if the declaration at hand is inside of it. -/
def Focus.node? : Focus → Option Node
  | .nodeName => none
  | .nodeBrace _ => none
  | .nodeBody node => some node
  | .nodeAttribute node _ => some node
  | .edgeName node => some node
  | .edgeArrow node _ _ => some node
  | .edgeTarget node => some node
  | .edgeBrace node _ => some node
  | .edgeBody node _ => some node
  | .edgeAttribute node _ _ => some node

namespace ParseState

/-! ## One step -/

/-- Everything that one token can do: `s.Takes x s'` says that the grammar has a place for `x` in
the state `s`, and goes on in the state `s'`. -/
inductive Takes : ParseState → Lexeme → ParseState → Prop
  /-- The keyword of a top-level node. -/
  | openTop {x : Lexeme} (finished : List Node) (h : x.token = .node) :
    Takes (.outside finished) x (.inside finished [] .nodeName)
  /-- The name of a node. -/
  | nodeName {x : Lexeme} {name : String} (finished enclosing : List Node)
    (h : x.token = .identifier name) :
    Takes (.inside finished enclosing .nodeName) x
      (.inside finished enclosing (.nodeBrace ⟨name, x.span⟩))
  /-- The brace that opens a node. -/
  | openNode {x : Lexeme} (finished enclosing : List Node) (id : Spanned) (h : x.token = .lbrace) :
    Takes (.inside finished enclosing (.nodeBrace id)) x
      (.inside finished enclosing (.nodeBody (.ofId id)))
  /-- The brace that closes a node. -/
  | closeNode {x : Lexeme} (finished enclosing : List Node) (node : Node) (h : x.token = .rbrace) :
    Takes (.inside finished enclosing (.nodeBody node)) x (close finished enclosing node)
  /-- The keyword of a nested node. -/
  | openNested {x : Lexeme} (finished enclosing : List Node) (node : Node) (h : x.token = .node)
    (hdepth : enclosing.length + 1 < maxNesting) :
    Takes (.inside finished enclosing (.nodeBody node)) x
      (.inside finished (node :: enclosing) .nodeName)
  /-- The keyword of an attribute of a node. -/
  | nodeKeyword {x : Lexeme} (finished enclosing : List Node) (node : Node) (kind : AttributeKind)
    (h : x.token = kind.keyword) :
    Takes (.inside finished enclosing (.nodeBody node)) x
      (.inside finished enclosing (.nodeAttribute node (.colon kind)))
  /-- A token inside an attribute of a node. -/
  | nodeStage {x : Lexeme} {stage stage' : AttributeStage} (finished enclosing : List Node)
    (node : Node) (h : stage.Takes x (.inl stage')) :
    Takes (.inside finished enclosing (.nodeAttribute node stage)) x
      (.inside finished enclosing (.nodeAttribute node stage'))
  /-- The last token of an attribute of a node. -/
  | nodeAttribute {x : Lexeme} {stage : AttributeStage} {a : Attribute}
    (finished enclosing : List Node) (node : Node) (h : stage.Takes x (.inr a)) :
    Takes (.inside finished enclosing (.nodeAttribute node stage)) x
      (.inside finished enclosing (.nodeBody (node.addAttribute a)))
  /-- The keyword of an edge. -/
  | edgeKeyword {x : Lexeme} (finished enclosing : List Node) (node : Node) (h : x.token = .edge) :
    Takes (.inside finished enclosing (.nodeBody node)) x
      (.inside finished enclosing (.edgeName node))
  /-- The first name of an edge. -/
  | edgeName {x : Lexeme} {name : String} (finished enclosing : List Node) (node : Node)
    (h : x.token = .identifier name) :
    Takes (.inside finished enclosing (.edgeName node)) x
      (.inside finished enclosing (.edgeArrow node ⟨name, x.span⟩ x.position))
  /-- The brace behind the only name of an edge. -/
  | openImplicit {x : Lexeme} (finished enclosing : List Node) (node : Node) (name : Spanned)
    (position : Position) (h : x.token = .lbrace) :
    Takes (.inside finished enclosing (.edgeArrow node name position)) x
      (.inside finished enclosing (.edgeBody node ⟨node.id, name, []⟩))
  /-- The arrow behind the source of an edge, which is the enclosing node. -/
  | arrow {x : Lexeme} (finished enclosing : List Node) (node : Node) (name : Spanned)
    (position : Position) (h : x.token = .arrow) (hname : name.agrees node.id = true) :
    Takes (.inside finished enclosing (.edgeArrow node name position)) x
      (.inside finished enclosing (.edgeTarget node))
  /-- The target of an edge behind the arrow. -/
  | edgeTarget {x : Lexeme} {name : String} (finished enclosing : List Node) (node : Node)
    (h : x.token = .identifier name) :
    Takes (.inside finished enclosing (.edgeTarget node)) x
      (.inside finished enclosing (.edgeBrace node ⟨name, x.span⟩))
  /-- The brace behind source and target of an edge. -/
  | openExplicit {x : Lexeme} (finished enclosing : List Node) (node : Node) (target : Spanned)
    (h : x.token = .lbrace) :
    Takes (.inside finished enclosing (.edgeBrace node target)) x
      (.inside finished enclosing (.edgeBody node ⟨node.id, target, []⟩))
  /-- The brace that closes an edge. -/
  | closeEdge {x : Lexeme} (finished enclosing : List Node) (node : Node) (edge : Edge)
    (h : x.token = .rbrace) :
    Takes (.inside finished enclosing (.edgeBody node edge)) x
      (.inside finished enclosing (.nodeBody (node.addEdge edge)))
  /-- The keyword of an attribute of an edge. -/
  | edgeAttributeKeyword {x : Lexeme} (finished enclosing : List Node) (node : Node) (edge : Edge)
    (kind : AttributeKind) (h : x.token = kind.keyword) :
    Takes (.inside finished enclosing (.edgeBody node edge)) x
      (.inside finished enclosing (.edgeAttribute node edge (.colon kind)))
  /-- A token inside an attribute of an edge. -/
  | edgeStage {x : Lexeme} {stage stage' : AttributeStage} (finished enclosing : List Node)
    (node : Node) (edge : Edge) (h : stage.Takes x (.inl stage')) :
    Takes (.inside finished enclosing (.edgeAttribute node edge stage)) x
      (.inside finished enclosing (.edgeAttribute node edge stage'))
  /-- The last token of an attribute of an edge. -/
  | edgeAttribute {x : Lexeme} {stage : AttributeStage} {a : Attribute}
    (finished enclosing : List Node) (node : Node) (edge : Edge) (h : stage.Takes x (.inr a)) :
    Takes (.inside finished enclosing (.edgeAttribute node edge stage)) x
      (.inside finished enclosing (.edgeBody node (edge.addAttribute a)))

/-- A step that succeeds is one of those listed. -/
theorem Takes.of_step {s s' : ParseState} {x : Lexeme} (h : s.step x = .ok s') : s.Takes x s' := by
  cases s with
  | outside finished =>
    simp only [step, stepOutside] at h
    split at h
    · next hx =>
      cases h
      exact .openTop finished hx
    · cases h
  | inside finished enclosing focus =>
    -- The goals are the equations of the step, in their order.
    simp only [step, stepInside] at h
    split at h
    · next hx => cases h; exact .nodeName _ _ hx
    · next hx => cases h; exact .openNode _ _ _ hx
    · next hx => cases h; exact .closeNode _ _ _ hx
    · next hx => cases h; exact .nodeKeyword _ _ _ .color hx
    · next hx => cases h; exact .nodeKeyword _ _ _ .label hx
    · next hx => cases h; exact .edgeKeyword _ _ _ hx
    · next hx =>
      split at h
      · next hdepth => cases h; exact .openNested _ _ _ hx hdepth
      · cases h
    · split at h
      · next hstage => cases h; exact .nodeStage _ _ _ (AttributeStage.step_eq_some_iff.1 hstage)
      · next hstage =>
        cases h
        exact .nodeAttribute _ _ _ (AttributeStage.step_eq_some_iff.1 hstage)
      · cases h
    · next hx => cases h; exact .edgeName _ _ _ hx
    · next hx => cases h; exact .openImplicit _ _ _ _ _ hx
    · next hx =>
      split at h
      · next hname => cases h; exact .arrow _ _ _ _ _ hx hname
      · cases h
    · next hx => cases h; exact .edgeTarget _ _ _ hx
    · next hx => cases h; exact .openExplicit _ _ _ _ hx
    · next hx => cases h; exact .closeEdge _ _ _ _ hx
    · next hx => cases h; exact .edgeAttributeKeyword _ _ _ _ .color hx
    · next hx => cases h; exact .edgeAttributeKeyword _ _ _ _ .label hx
    · split at h
      · next hstage =>
        cases h
        exact .edgeStage _ _ _ _ (AttributeStage.step_eq_some_iff.1 hstage)
      · next hstage =>
        cases h
        exact .edgeAttribute _ _ _ _ (AttributeStage.step_eq_some_iff.1 hstage)
      · cases h
    · cases h

/-- The steps that succeed are exactly those listed. -/
theorem step_eq_ok_iff {s s' : ParseState} {x : Lexeme} : s.step x = .ok s' ↔ s.Takes x s' := by
  refine ⟨Takes.of_step, fun h => ?_⟩
  cases h with
  | nodeKeyword _ _ _ kind h | edgeAttributeKeyword _ _ _ _ kind h =>
    cases kind <;> simp [step, stepInside, h, AttributeKind.keyword]
  | nodeStage _ _ _ h | nodeAttribute _ _ _ h | edgeStage _ _ _ _ h | edgeAttribute _ _ _ _ h =>
    simp [step, stepInside, AttributeStage.step_eq_some_iff.2 h]
  | _ => simp [step, stepInside, stepOutside, *]

/-- The state behind the keyword of an edge has been reached by that keyword, from the body of the
node. -/
theorem Takes.of_edgeName {s : ParseState} {x : Lexeme} {finished enclosing : List Node}
    {node : Node} (h : s.Takes x (.inside finished enclosing (.edgeName node))) :
    s = .inside finished enclosing (.nodeBody node) ∧ x.token = .edge := by
  generalize hs' : ParseState.inside finished enclosing (.edgeName node) = s' at h
  cases h with
  | edgeKeyword _ _ _ h =>
    cases hs'
    exact ⟨rfl, h⟩
  | closeNode _ enclosing' _ _ =>
    cases enclosing' <;> cases hs'
  | _ => cases hs'

/-- A state behind the first name of an edge has been reached from the one behind the keyword. -/
theorem Takes.of_edgeArrow {s : ParseState} {x : Lexeme} {finished enclosing : List Node}
    {node : Node} {name : Spanned} {position : Position}
    (h : s.Takes x (.inside finished enclosing (.edgeArrow node name position))) :
    s = .inside finished enclosing (.edgeName node) ∧
      x = ⟨.identifier name.text, position, name.span⟩ := by
  generalize hs' : ParseState.inside finished enclosing (.edgeArrow node name position) = s' at h
  cases h with
  | edgeName _ _ _ h =>
    cases hs'
    exact ⟨rfl, by rw [← h]⟩
  | closeNode _ enclosing' _ _ =>
    cases enclosing' <;> cases hs'
  | _ => cases hs'

/-- A token is refused in one of three ways: it is not what the grammar asks for, it is the arrow
behind a name that is not that of the enclosing node, or it opens a node too deep. -/
theorem step_eq_error {s : ParseState} {x : Lexeme} {e : SyntaxError} (h : s.step x = .error e) :
    e = s.wanted.refuse x ∨
      (∃ finished enclosing node name position,
        s = .inside finished enclosing (.edgeArrow node name position) ∧ x.token = .arrow ∧
          e = .edgeSourceMismatch node.id name position) ∨
      (∃ finished enclosing node, s = .inside finished enclosing (.nodeBody node) ∧
        x.token = .node ∧ e = .nestingTooDeep x) := by
  cases s with
  | outside finished =>
    simp only [step, stepOutside] at h
    split at h
    · cases h
    · cases h
      exact .inl rfl
  | inside finished enclosing focus =>
    simp only [step, stepInside] at h
    split at h
    -- The keyword of a nested node.
    case h_7 hx =>
      split at h
      · cases h
      · cases h
        exact .inr (.inr ⟨_, _, _, rfl, hx, rfl⟩)
    -- The arrow of an edge.
    case h_11 hx =>
      split at h
      · cases h
      · cases h
        exact .inr (.inl ⟨_, _, _, _, _, rfl, hx, rfl⟩)
    -- A token inside an attribute.
    case h_8 | h_17 =>
      split at h
      · cases h
      · cases h
      · cases h
        exact .inl rfl
    -- Whatever else has no place.
    case h_18 =>
      cases h
      exact .inl rfl
    all_goals cases h

/-- The end of the input is refused inside of a node, and nowhere else. -/
theorem finish_eq_error_iff {s : ParseState} {stop : Lexeme} {e : SyntaxError}
    (hstop : stop.token = .endOfInput) :
    s.finish stop = .error e ↔ s.step stop = .error e ∧ ∀ finished, s ≠ .outside finished := by
  cases s with
  | outside finished => simp [finish]
  | inside finished enclosing focus =>
    -- No constructor of a step takes the end of the input, and the arrow and the keyword of a node
    -- are not it either, so what is left is that the grammar asks for something else.
    have hstep : step (.inside finished enclosing focus) stop =
        .error (focus.wanted.refuse stop) := by
      cases hresult : step (.inside finished enclosing focus) stop with
      | ok s' =>
        rw [step_eq_ok_iff] at hresult
        cases hresult with
        | nodeKeyword _ _ _ kind h | edgeAttributeKeyword _ _ _ _ kind h =>
          cases kind <;> simp [AttributeKind.keyword, hstop] at h
        | nodeStage _ _ _ h | nodeAttribute _ _ _ h | edgeStage _ _ _ _ h
        | edgeAttribute _ _ _ _ h => cases h <;> simp_all
        | _ => simp_all
      | error e' =>
        rcases step_eq_error hresult with rfl | ⟨_, _, _, _, _, _, h, _⟩ | ⟨_, _, _, _, h, _⟩
        · rfl
        · simp [hstop] at h
        · simp [hstop] at h
    simp [finish, hstep]

/-! ## Runs of steps -/

/-- `s.Reaches xs s'` says that the tokens `xs` lead from the state `s` to the state `s'`. -/
inductive Reaches : ParseState → List Lexeme → ParseState → Prop
  /-- No token leads to the same state. -/
  | refl (s : ParseState) : Reaches s [] s
  /-- A token that is taken, then more. -/
  | cons {s s' s'' : ParseState} {x : Lexeme} {xs : List Lexeme} (h : s.Takes x s')
    (hrest : Reaches s' xs s'') : Reaches s (x :: xs) s''

/-- Two runs, one behind the other. -/
theorem Reaches.trans {s s' s'' : ParseState} {xs ys : List Lexeme} (h : s.Reaches xs s')
    (h' : s'.Reaches ys s'') : s.Reaches (xs ++ ys) s'' := by
  induction h with
  | refl => exact h'
  | cons h _ ih => exact .cons h (ih h')

/-- A run that ends with one more step. -/
theorem Reaches.snoc {s s' s'' : ParseState} {xs : List Lexeme} {x : Lexeme} (h : s.Reaches xs s')
    (h' : s'.Takes x s'') : s.Reaches (xs ++ [x]) s'' :=
  h.trans (.cons h' (.refl s''))

/-- A run over tokens that stand one behind the other comes past a state between them. -/
theorem Reaches.exists_of_append {s s'' : ParseState} {xs ys : List Lexeme}
    (h : s.Reaches (xs ++ ys) s'') : ∃ s', s.Reaches xs s' ∧ s'.Reaches ys s'' := by
  induction xs generalizing s with
  | nil => exact ⟨s, .refl s, h⟩
  | cons x xs ih =>
    cases h with
    | cons hx hrest =>
      obtain ⟨s', hxs, hys⟩ := ih hrest
      exact ⟨s', .cons hx hxs, hys⟩

/-- The tokens of a run that is not empty end with the one that led to the last state. -/
theorem Reaches.last_step {s s' : ParseState} {xs : List Lexeme} (h : s.Reaches xs s') :
    xs = [] ∧ s = s' ∨ ∃ ys x t, xs = ys ++ [x] ∧ s.Reaches ys t ∧ t.Takes x s' := by
  induction h with
  | refl s => exact .inl ⟨rfl, rfl⟩
  | @cons s s' s'' x xs h _ ih =>
    rcases ih with ⟨rfl, rfl⟩ | ⟨ys, y, t, rfl, hys, hy⟩
    · exact .inr ⟨[], x, s, rfl, .refl s, h⟩
    · exact .inr ⟨x :: ys, y, t, rfl, .cons h hys, hy⟩

/-- The tokens of a run are accepted, and the reading goes on behind them. -/
theorem Reaches.run_eq {s s' : ParseState} {xs : List Lexeme} (h : s.Reaches xs s') (stop : Lexeme)
    (ys : List Lexeme) :
    s.run stop (xs ++ ys) =
      ⟨xs ++ (s'.run stop ys).accepted, (s'.run stop ys).result⟩ := by
  induction h with
  | refl => rfl
  | cons h _ ih =>
    rw [List.cons_append, run, step_eq_ok_iff.2 h]
    simp [ih]

/-- A reading passes exactly when its tokens lead out of all nodes. -/
theorem run_eq_ok_iff {s : ParseState} {stop : Lexeme} {xs : List Lexeme} {d : Diagram} :
    (s.run stop xs).result = .ok d ↔ s.Reaches xs (.outside d.topLevel) := by
  constructor
  · intro h
    induction xs generalizing s with
    | nil =>
      cases s with
      | outside finished =>
        cases h
        exact .refl _
      | inside finished enclosing focus => cases h
    | cons x xs ih =>
      rw [run] at h
      split at h
      · next hstep => exact .cons (step_eq_ok_iff.1 hstep) (ih h)
      · cases h
  · intro h
    have hrun := h.run_eq stop []
    rw [List.append_nil] at hrun
    rw [hrun]
    rfl

/-- A reading fails exactly when its tokens lead to one that is refused, or to the end of the input
inside of a node. -/
theorem run_eq_error_iff {s : ParseState} {stop : Lexeme} {xs : List Lexeme} {e : SyntaxError} :
    (s.run stop xs).result = .error e ↔
      (∃ ys x zs t, xs = ys ++ x :: zs ∧ s.Reaches ys t ∧ t.step x = .error e) ∨
        ∃ t, s.Reaches xs t ∧ t.finish stop = .error e := by
  constructor
  · -- The first token that is refused comes now, later, or never.
    intro h
    induction xs generalizing s with
    | nil => exact .inr ⟨s, .refl s, h⟩
    | cons x xs ih =>
      rw [run] at h
      split at h
      · next s' hstep =>
        have htakes := step_eq_ok_iff.1 hstep
        rcases ih h with ⟨ys, y, zs, t, rfl, hys, hy⟩ | ⟨t, hxs, ht⟩
        · exact .inl ⟨x :: ys, y, zs, t, rfl, .cons htakes hys, hy⟩
        · exact .inr ⟨t, .cons htakes hxs, ht⟩
      · next e' hstep =>
        cases h
        exact .inl ⟨[], x, xs, s, rfl, .refl s, hstep⟩
  · rintro (⟨ys, x, zs, t, rfl, hys, hx⟩ | ⟨t, hxs, ht⟩)
    · rw [hys.run_eq, run, hx]
    · have hrun := hxs.run_eq stop []
      rw [List.append_nil] at hrun
      rw [hrun]
      exact ht

end ParseState

/-- A source is accepted exactly when its tokens lead out of all nodes. -/
theorem Diagram.parse_eq_ok_iff {source : String} {d : Diagram} :
    Diagram.parse source = .ok d ↔
      ParseState.start.Reaches (TokenStream.ofString source).words (.outside d.topLevel) :=
  ParseState.run_eq_ok_iff

end DiagramCheck
