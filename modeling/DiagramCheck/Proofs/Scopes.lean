import DiagramCheck.Proofs.Reading

/-!
# Which declarations are open

Tokens say by themselves which declarations of nodes and edges they leave open: `Opened.behind`
takes them one after the other and keeps the open declarations in a list, the innermost one first.
The keyword of a node or an edge begins a declaration, and a closing brace ends the innermost one.

The states of the reader are compared with this. Every step changes the declarations that a state
has open in the same way as the token does (`ParseState.Takes.opened_eq`), so the two are the same
all along a run (`ParseState.Reaches.opened_eq`).
-/

namespace DiagramCheck

/-! ## Tokens -/

/-- A declaration that has been begun and not been ended. -/
inductive Opened
  /-- The declaration of a node, with its name if that has been read. -/
  | node (name : Option String)
  /-- The declaration of an edge. -/
  | edge
  deriving DecidableEq

namespace Opened

/-- The open declarations behind one more token, where those in front of it are given from the
inside out. -/
def next : List Opened → Token → List Opened
  | os, .node => .node none :: os
  | os, .edge => .edge :: os
  | .node none :: os, .identifier name => .node (some name) :: os
  | _ :: os, .rbrace => os
  | os, _ => os

/-- The declarations that tokens leave open, from the inside out. -/
def behind (ts : List Token) : List Opened :=
  ts.foldl next []

/-- Whether a declaration is that of a node. -/
def isNode : Opened → Bool
  | .node _ => true
  | .edge => false

/-- A declaration of an edge, or of a node with a name, is changed by keywords and closing braces
only. -/
theorem next_eq_self {o : Opened} {os : List Opened} {t : Token} (ho : o ≠ .node none)
    (hnode : t ≠ .node) (hedge : t ≠ .edge) (hbrace : t ≠ .rbrace) :
    next (o :: os) t = o :: os := by
  unfold next
  split <;> simp_all

end Opened

/-- The number of the declarations of nodes that tokens leave open. -/
def openNodes (ts : List Token) : Nat :=
  (Opened.behind ts).countP Opened.isNode

/-- Whether a token neither opens a node nor closes anything. -/
def Token.isNeutral : Token → Bool
  | .node | .rbrace => false
  | _ => true

/-- Such a token leaves as many nodes open as there are. -/
theorem Opened.countP_next {os : List Opened} {t : Token} (ht : t.isNeutral = true) :
    (next os t).countP isNode = os.countP isNode := by
  unfold next
  split
  · cases ht
  · rfl
  · rfl
  · cases ht
  · rfl

/-! ## States -/

/-- The declaration of a node whose name has been read. -/
def Node.opened (n : Node) : Opened :=
  .node (some n.id.text)

/-- The innermost open node, and the edge in it that is open, if there is one. -/
def Focus.opened : Focus → List Opened
  | .nodeName => [.node none]
  | .nodeBrace id => [.node (some id.text)]
  | .nodeBody node => [node.opened]
  | .nodeAttribute node _ => [node.opened]
  | .edgeName node => [.edge, node.opened]
  | .edgeArrow node _ _ => [.edge, node.opened]
  | .edgeTarget node => [.edge, node.opened]
  | .edgeBrace node _ => [.edge, node.opened]
  | .edgeBody node _ => [.edge, node.opened]
  | .edgeAttribute node _ _ => [.edge, node.opened]

/-- There are no keywords of declarations in an attribute, and no braces. -/
theorem AttributeStage.Takes.next_eq_self {stage : AttributeStage} {x : Lexeme}
    {r : AttributeStage ⊕ Attribute} (h : stage.Takes x r) {o : Opened} {os : List Opened}
    (ho : o ≠ .node none) : Opened.next (o :: os) x.token = o :: os := by
  apply Opened.next_eq_self ho <;> cases h <;> simp_all

namespace ParseState

/-- The declarations that are open in a state, from the inside out. -/
def opened : ParseState → List Opened
  | .outside _ => []
  | .inside _ enclosing focus => focus.opened ++ enclosing.map Node.opened

/-- The open declarations of nodes are counted by the depth of a state. -/
theorem countP_isNode_opened (s : ParseState) : s.opened.countP Opened.isNode = s.depth := by
  have henclosing : ∀ ns : List Node, (ns.map Node.opened).countP Opened.isNode = ns.length := by
    intro ns
    rw [List.countP_map, List.countP_eq_length]
    exact fun n _ => rfl
  cases s with
  | outside finished => rfl
  | inside finished enclosing focus =>
    have hfocus : focus.opened.countP Opened.isNode = 1 := by
      cases focus <;> rfl
    rw [opened, List.countP_append, hfocus, henclosing, depth, Nat.add_comm]

/-- Closing the innermost node leaves the nodes around it open. -/
theorem opened_close (finished enclosing : List Node) (node : Node) :
    (close finished enclosing node).opened = enclosing.map Node.opened := by
  cases enclosing with
  | nil => rfl
  | cons outer others => rfl

/-- Closing the innermost node leaves the depth of the nodes around it. -/
theorem depth_close (finished enclosing : List Node) (node : Node) :
    (close finished enclosing node).depth = enclosing.length := by
  cases enclosing <;> rfl

/-- Every step changes the open declarations as its token does. -/
theorem Takes.opened_eq {s s' : ParseState} {x : Lexeme} (h : s.Takes x s') :
    s'.opened = Opened.next s.opened x.token := by
  have hnamed : ∀ name, Opened.node (some name) ≠ .node none := fun name => nofun
  have hedge : Opened.edge ≠ .node none := nofun
  cases h with
  | closeNode finished enclosing node hx =>
    rw [opened_close, hx]
    rfl
  | nodeKeyword finished enclosing node kind hx =>
    rw [hx]
    cases kind <;> rfl
  | edgeAttributeKeyword finished enclosing node edge kind hx =>
    rw [hx]
    cases kind <;> rfl
  | nodeStage _ _ node hx | nodeAttribute _ _ node hx =>
    exact (hx.next_eq_self (hnamed node.id.text)).symm
  | edgeStage _ _ _ _ hx | edgeAttribute _ _ _ _ hx => exact (hx.next_eq_self hedge).symm
  | openTop _ hx | nodeName _ _ hx | openNode _ _ _ hx | openNested _ _ _ hx
  | edgeKeyword _ _ _ hx | edgeName _ _ _ hx | openImplicit _ _ _ _ _ hx | arrow _ _ _ _ _ hx
  | edgeTarget _ _ _ hx | openExplicit _ _ _ _ hx | closeEdge _ _ _ _ hx =>
    rw [hx]
    rfl

/-- Only the keyword of a node and a closing brace change the depth. -/
theorem Takes.depth_eq {s s' : ParseState} {x : Lexeme} (h : s.Takes x s')
    (hx : x.token.isNeutral = true) : s'.depth = s.depth := by
  rw [← s'.countP_isNode_opened, ← s.countP_isNode_opened, h.opened_eq, Opened.countP_next hx]

/-- A run changes the open declarations as its tokens do. -/
theorem Reaches.opened_eq {s s' : ParseState} {xs : List Lexeme} (h : s.Reaches xs s') :
    s'.opened = (xs.map Lexeme.token).foldl Opened.next s.opened := by
  -- The fold starts from what the present state has open.
  induction h with
  | refl => rfl
  | cons h _ ih => rw [ih, h.opened_eq, List.map_cons, List.foldl_cons]

/-- The declarations that are open in a state are those that the tokens read so far leave open. -/
theorem Reaches.opened_eq_behind {s : ParseState} {xs : List Lexeme} (h : start.Reaches xs s) :
    s.opened = Opened.behind (xs.map Lexeme.token) :=
  h.opened_eq

/-- The depth of a state is the number of the declarations of nodes that the tokens leave open. -/
theorem Reaches.depth_eq {s : ParseState} {xs : List Lexeme} (h : start.Reaches xs s) :
    s.depth = openNodes (xs.map Lexeme.token) := by
  rw [← s.countP_isNode_opened, h.opened_eq_behind, openNodes]

end ParseState

end DiagramCheck
