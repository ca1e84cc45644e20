import DiagramCheck.Diagram.Traversal
import Mathlib.Data.List.Basic

/-!
# Traversals as folds

A traversal meets the nodes of a diagram in pre-order, each with its name, its attributes and its
edges before the nodes nested in it. So it is a fold over `Diagram.nodes`: `Visitor.visitOwn` is
what it does with a single node, and `Visitor.run_eq_foldl` says that no nesting is left to speak
of. A visitor that meets only names is a fold over the ids (`Visitor.run_eq_foldl_ids`), and one
that meets only targets a fold over the edges (`Visitor.run_eq_foldl_edges`), at every depth.
-/

namespace DiagramCheck

/-! ## Nodes in pre-order -/

/-- A forest is in the order of its pre-order. -/
theorem Node.sublist_preOrderAll (ns : List Node) : ns.Sublist (preOrderAll ns) := by
  induction ns with
  | nil => exact .slnil
  | cons n rest ih =>
    rw [preOrderAll_cons]
    exact (ih.trans (List.sublist_append_right _ _)).cons_cons n

/-- The nodes nested in one of a forest are in the order of its pre-order. -/
theorem Node.children_sublist_preOrderAll {ns : List Node} {n : Node} (h : n ∈ preOrderAll ns) :
    n.children.Sublist (preOrderAll ns) := by
  induction ns using Node.forest_induction with
  | nil => cases h
  | cons m rest ihChildren ihRest =>
    rw [preOrderAll_cons] at h ⊢
    refine .cons m ?_
    rcases List.mem_cons.1 h with rfl | h
    · exact (sublist_preOrderAll n.children).trans (List.sublist_append_left _ _)
    rcases List.mem_append.1 h with h | h
    · exact (ihChildren h).trans (List.sublist_append_left _ _)
    · exact (ihRest h).trans (List.sublist_append_right _ _)

/-! ## Folds -/

/-- The names of all nodes, in pre-order. -/
def Diagram.ids (d : Diagram) : List Spanned :=
  d.nodes.map Node.id

namespace Visitor

variable {σ : Type}

/-- Meets what a node has of its own: its name, its attributes and its edges. -/
def visitOwn (v : Visitor σ) (s : σ) (n : Node) : σ :=
  n.edges.foldl v.visitEdge (n.attributes.foldl v.nodeAttribute (v.nodeId s n.id))

/-- A node is met before the nodes nested in it. -/
theorem visitNode_eq (v : Visitor σ) (s : σ) (n : Node) :
    v.visitNode s n = v.visitNodes (v.visitOwn s n) n.children := by
  cases n
  rfl

/-- The nodes of a forest are met one by one in pre-order. -/
theorem visitNodes_eq_foldl (v : Visitor σ) (s : σ) (ns : List Node) :
    v.visitNodes s ns = (Node.preOrderAll ns).foldl v.visitOwn s := by
  -- The induction follows the pre-order: a node, the forest nested in it, and the forest behind it.
  induction ns using Node.forest_induction generalizing s with
  | nil => rfl
  | cons n rest ihchildren ihrest =>
    rw [Node.preOrderAll_cons, List.foldl_cons, List.foldl_append, ← ihchildren, ← ihrest]
    rw [visitNodes, visitNode_eq]

/-- A traversal is a fold over the nodes of the diagram. -/
theorem run_eq_foldl (v : Visitor σ) (s : σ) (d : Diagram) :
    v.run s d = d.nodes.foldl v.visitOwn s :=
  v.visitNodes_eq_foldl s d.topLevel

/-- A visitor that meets only names meets all of them, in pre-order. -/
theorem run_eq_foldl_ids (f : σ → Spanned → σ) (s : σ) (d : Diagram) :
    run { nodeId := f } s d = d.ids.foldl f s := by
  have hedge : visitEdge { nodeId := f } = fun s _ => s := by
    funext s e
    exact List.foldl_fixed e.attributes
  have hown : visitOwn { nodeId := f } = fun s n => f s n.id := by
    funext s n
    simp only [visitOwn, hedge, List.foldl_fixed]
  rw [run_eq_foldl, hown, Diagram.ids, List.foldl_map]

/-- A visitor that meets only targets meets those of all edges, in pre-order of their nodes. -/
theorem run_eq_foldl_edges (f : σ → Edge → Spanned → σ) (s : σ) (d : Diagram) :
    run { edgeTarget := f } s d = d.edges.foldl (fun s e => f s e e.target) s := by
  have hedge : visitEdge { edgeTarget := f } = fun s e => f s e e.target := by
    funext s e
    exact List.foldl_fixed e.attributes
  have hown : visitOwn { edgeTarget := f } =
      fun s n => n.edges.foldl (fun s e => f s e e.target) s := by
    funext s n
    simp only [visitOwn, hedge, List.foldl_fixed]
  rw [run_eq_foldl, hown, Diagram.edges, List.foldl_flatMap]

end Visitor

end DiagramCheck
