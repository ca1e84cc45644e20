import DiagramCheck.Proofs.Grammar.Ledger
import DiagramCheck.Proofs.Reading

/-!
# Which bodies are open

Braces say which nodes a token stands in. `OpenBodies xs ids` says it of what follows the lexemes
`xs`: the bodies of the nodes `ids`, from the inside out, have been opened and not been closed. It
speaks of lexemes only: each of these bodies begins with a brace behind the keyword and the name of
its node, and all other braces are in pairs (`Balanced`).

The nodes that the reader has open are these (`ParseState.Reaches.openedBy`), so the node that it
takes for the enclosing one is the one that the braces say.
-/

namespace DiagramCheck

/-! ## Braces -/

/-- Lexemes whose braces are in pairs. -/
inductive Balanced : List Lexeme → Prop
  /-- No lexeme. -/
  | nil : Balanced []
  /-- A lexeme that is no brace. -/
  | single {x : Lexeme} (hl : x.token ≠ .lbrace) (hr : x.token ≠ .rbrace) : Balanced [x]
  /-- A pair of braces, and what is between them. -/
  | braces {o c : Lexeme} {body : List Lexeme} (ho : o.token = .lbrace) (hbody : Balanced body)
    (hc : c.token = .rbrace) : Balanced (o :: (body ++ [c]))
  /-- One behind the other. -/
  | append {xs ys : List Lexeme} (h : Balanced xs) (h' : Balanced ys) : Balanced (xs ++ ys)

/-- `OpenBodies xs ids` says that behind the lexemes `xs` the bodies of the nodes `ids` are open,
given from the inside out, and no others. -/
inductive OpenBodies : List Lexeme → List Spanned → Prop
  /-- No body is open. -/
  | nil {xs : List Lexeme} (h : Balanced xs) : OpenBodies xs []
  /-- A body is open inside of others: behind the keyword, the name and the opening brace of its
  node, all braces are in pairs. -/
  | cons {xs body : List Lexeme} {k x o : Lexeme} {id : Spanned} {ids : List Spanned}
    (houter : OpenBodies xs ids) (hk : k.token = .node) (hx : x.name? = some id)
    (ho : o.token = .lbrace) (hbody : Balanced body) :
    OpenBodies (xs ++ k :: x :: o :: body) (id :: ids)

namespace OpenBodies

variable {xs ys : List Lexeme} {x : Lexeme} {id : Spanned} {ids : List Spanned}

/-- Braces in pairs leave all bodies as they are. -/
theorem append (h : OpenBodies xs ids) (hys : Balanced ys) : OpenBodies (xs ++ ys) ids := by
  cases h with
  | nil h => exact .nil (h.append hys)
  | cons houter hk hx ho hbody =>
    rw [List.append_assoc]
    exact .cons houter hk hx ho (hbody.append hys)

/-- A lexeme that is no brace leaves all bodies as they are. -/
theorem snoc (h : OpenBodies xs ids) (hl : x.token ≠ .lbrace) (hr : x.token ≠ .rbrace) :
    OpenBodies (xs ++ [x]) ids :=
  h.append (.single hl hr)

/-- A closing brace closes the innermost body. -/
theorem close (h : OpenBodies xs (id :: ids)) (hx : x.token = .rbrace) :
    OpenBodies (xs ++ [x]) ids := by
  cases h with
  | @cons front body k y o _ _ houter hk hy ho hbody =>
    obtain ⟨hname, -⟩ := Lexeme.eq_of_name? hy
    -- From the keyword on, all braces are in pairs now.
    have hkeyword : Balanced [k] := .single (by simp [hk]) (by simp [hk])
    have hid : Balanced [y] := .single (by simp [hname]) (by simp [hname])
    have hnode := hkeyword.append (hid.append (.braces ho hbody hx))
    have hall := houter.append hnode
    simpa using hall

/-- The names of the nodes whose bodies are open are among the names that have been read. -/
theorem mem_names (h : OpenBodies xs ids) : ∀ v ∈ ids, v ∈ names xs := by
  induction h with
  | nil => nofun
  | cons _ _ hx _ _ ih =>
    refine List.forall_mem_cons.2 ⟨?_, fun v hv => ?_⟩
    · exact List.mem_filterMap.2 ⟨_, by simp, hx⟩
    · rw [names_append]
      exact List.mem_append_left _ (ih v hv)

end OpenBodies

/-! ## The reader -/

/-- What has been read of the innermost node since the last time that its body was left or gone on
with: the start of a nested declaration, or the body of an edge. -/
def Focus.Begun : Focus → List Lexeme → Prop
  | .nodeName, rest => ∃ k, rest = [k] ∧ k.token = .node
  | .nodeBrace id, rest => ∃ k x, rest = [k, x] ∧ k.token = .node ∧ x.name? = some id
  | .edgeBody .., rest => ∃ o body, rest = o :: body ∧ o.token = .lbrace ∧ Balanced body
  | .edgeAttribute .., rest => ∃ o body, rest = o :: body ∧ o.token = .lbrace ∧ Balanced body
  | _, rest => rest = []

/-- The ids of the nodes whose bodies are open, from the inside out. -/
def Focus.openIds (focus : Focus) (enclosing : List Node) : List Spanned :=
  (focus.node?.toList ++ enclosing).map Node.id

namespace ParseState

/-- `s.OpenedBy xs` says that the nodes that are open in the state `s` are those whose bodies are
open behind the lexemes `xs`, up to the declaration at hand. -/
def OpenedBy : ParseState → List Lexeme → Prop
  | .outside _, xs => OpenBodies xs []
  | .inside _ enclosing focus, xs =>
    ∃ front rest, xs = front ++ rest ∧ OpenBodies front (focus.openIds enclosing) ∧
      focus.Begun rest

variable {finished enclosing : List Node} {xs : List Lexeme} {x : Lexeme}

/-- A closing brace closes the innermost node. -/
theorem openedBy_close {node : Node} (h : OpenBodies xs (node.id :: enclosing.map Node.id))
    (hx : x.token = .rbrace) : (close finished enclosing node).OpenedBy (xs ++ [x]) := by
  have hclosed := h.close hx
  cases enclosing with
  | nil => exact hclosed
  | cons outer others => exact ⟨xs ++ [x], [], (List.append_nil _).symm, hclosed, rfl⟩

/-- A lexeme that is no brace goes on inside of the innermost node. -/
theorem openedBy_snoc {focus : Focus} (h : OpenBodies xs (focus.openIds enclosing))
    (hl : x.token ≠ .lbrace) (hr : x.token ≠ .rbrace) (hfocus : focus.Begun []) :
    (inside finished enclosing focus).OpenedBy (xs ++ [x]) :=
  ⟨xs ++ [x], [], (List.append_nil _).symm, h.snoc hl hr, hfocus⟩

/-- A lexeme that is no brace goes on inside of an edge. -/
theorem openedBy_snoc_edge {focus : Focus} {front body : List Lexeme} {o : Lexeme}
    (h : OpenBodies front (focus.openIds enclosing)) (hbody : Balanced body)
    (hl : x.token ≠ .lbrace) (hr : x.token ≠ .rbrace)
    (hfocus : ∀ body', Balanced body' → focus.Begun (o :: body')) :
    (inside finished enclosing focus).OpenedBy (front ++ o :: body ++ [x]) := by
  refine ⟨front, o :: (body ++ [x]), ?_, h, hfocus _ (hbody.append (.single hl hr))⟩
  rw [List.append_assoc, List.cons_append]

end ParseState

/-- There are no braces in an attribute. -/
theorem AttributeStage.Takes.ne_brace {stage : AttributeStage} {x : Lexeme}
    {r : AttributeStage ⊕ Attribute} (h : stage.Takes x r) :
    x.token ≠ .lbrace ∧ x.token ≠ .rbrace := by
  cases h <;> simp_all

/-- The keyword of an attribute is no brace. -/
theorem AttributeKind.keyword_ne_brace (kind : AttributeKind) :
    kind.keyword ≠ .lbrace ∧ kind.keyword ≠ .rbrace := by
  cases kind <;> exact ⟨nofun, nofun⟩

namespace ParseState

/-- Every step keeps the open nodes and the open bodies together. -/
theorem Takes.openedBy {s s' : ParseState} {x : Lexeme} {xs : List Lexeme} (h : s.Takes x s')
    (hs : s.OpenedBy xs) : s'.OpenedBy (xs ++ [x]) := by
  cases h with
  | openTop finished hx => exact ⟨xs, [x], rfl, hs, x, rfl, hx⟩
  | nodeName finished enclosing hx =>
    obtain ⟨front, _, rfl, hopen, k, rfl, hk⟩ := hs
    exact ⟨front, [k, x], by simp, hopen, k, x, rfl, hk, Lexeme.name?_of_identifier hx⟩
  | openNode finished enclosing id hx =>
    obtain ⟨front, _, rfl, hopen, k, y, rfl, hk, hy⟩ := hs
    exact ⟨front ++ [k, y, x], [], by simp, .cons hopen hk hy hx .nil, rfl⟩
  | closeNode finished enclosing node hx =>
    obtain ⟨front, _, rfl, hopen, rfl⟩ := hs
    rw [List.append_nil]
    exact openedBy_close hopen hx
  | openNested finished enclosing node hx hdepth =>
    obtain ⟨front, _, rfl, hopen, rfl⟩ := hs
    exact ⟨front, [x], by simp, hopen, x, rfl, hx⟩
  | nodeKeyword finished enclosing node kind hx =>
    obtain ⟨front, _, rfl, hopen, rfl⟩ := hs
    obtain ⟨hl, hr⟩ := kind.keyword_ne_brace
    rw [List.append_nil]
    exact openedBy_snoc hopen (hx ▸ hl) (hx ▸ hr) rfl
  | nodeStage finished enclosing node hx | nodeAttribute finished enclosing node hx =>
    obtain ⟨front, _, rfl, hopen, rfl⟩ := hs
    obtain ⟨hl, hr⟩ := hx.ne_brace
    rw [List.append_nil]
    exact openedBy_snoc hopen hl hr rfl
  | edgeKeyword finished enclosing node hx | edgeName finished enclosing node hx
  | arrow finished enclosing node _ _ hx | edgeTarget finished enclosing node hx =>
    obtain ⟨front, _, rfl, hopen, rfl⟩ := hs
    rw [List.append_nil]
    exact openedBy_snoc hopen (by simp [hx]) (by simp [hx]) rfl
  | openImplicit finished enclosing node _ _ hx | openExplicit finished enclosing node _ hx =>
    obtain ⟨front, _, rfl, hopen, rfl⟩ := hs
    exact ⟨front, [x], by simp, hopen, x, [], rfl, hx, .nil⟩
  | closeEdge finished enclosing node edge hx =>
    -- The body of the edge becomes a pair of braces in that of the node.
    obtain ⟨front, _, rfl, hopen, o, body, rfl, ho, hbody⟩ := hs
    exact ⟨front ++ o :: (body ++ [x]), [], by simp, hopen.append (.braces ho hbody hx), rfl⟩
  | edgeAttributeKeyword finished enclosing node edge kind hx =>
    obtain ⟨front, _, rfl, hopen, o, body, rfl, ho, hbody⟩ := hs
    obtain ⟨hl, hr⟩ := kind.keyword_ne_brace
    exact openedBy_snoc_edge hopen hbody (hx ▸ hl) (hx ▸ hr) fun _ h => ⟨o, _, rfl, ho, h⟩
  | edgeStage finished enclosing node edge hx | edgeAttribute finished enclosing node edge hx =>
    obtain ⟨front, _, rfl, hopen, o, body, rfl, ho, hbody⟩ := hs
    obtain ⟨hl, hr⟩ := hx.ne_brace
    exact openedBy_snoc_edge hopen hbody hl hr fun _ h => ⟨o, _, rfl, ho, h⟩

/-- The nodes that are open in a state are those whose bodies have been opened by the lexemes that
led there. -/
theorem Reaches.openedBy {s s' : ParseState} {xs ys : List Lexeme} (h : s.Reaches ys s')
    (hs : s.OpenedBy xs) : s'.OpenedBy (xs ++ ys) := by
  induction h generalizing xs with
  | refl => rwa [List.append_nil]
  | cons h _ ih =>
    rw [List.append_cons]
    exact ih (h.openedBy hs)

/-- The first name of an edge stands behind the keyword, and in front of that the innermost open
body is that of the node at hand. -/
theorem Reaches.exists_of_edgeArrow {finished enclosing : List Node} {node : Node} {name : Spanned}
    {position : Position} {xs : List Lexeme}
    (h : start.Reaches xs (.inside finished enclosing (.edgeArrow node name position))) :
    ∃ ys keyword, xs = ys ++ [keyword, ⟨.identifier name.text, position, name.span⟩] ∧
      keyword.token = .edge ∧ OpenBodies ys (node.id :: enclosing.map Node.id) := by
  -- The last two steps to this state are known, and the one in front of them is in a body.
  rcases h.last_step with ⟨-, hstart⟩ | ⟨zs, x, t, rfl, hzs, hx⟩
  · cases hstart
  obtain ⟨rfl, rfl⟩ := hx.of_edgeArrow
  rcases hzs.last_step with ⟨-, hstart⟩ | ⟨ys, keyword, t, rfl, hys, hkeyword⟩
  · cases hstart
  obtain ⟨rfl, htoken⟩ := hkeyword.of_edgeName
  have hstart : start.OpenedBy [] := .nil .nil
  obtain ⟨front, _, hfront, hopen, rfl⟩ := hys.openedBy hstart
  rw [List.nil_append, List.append_nil] at hfront
  exact ⟨ys, keyword, by simp, htoken, hfront ▸ hopen⟩

end ParseState

end DiagramCheck
