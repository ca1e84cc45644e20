import DiagramCheck.Diagram

/-!
# Traversals

A `Visitor` says what to do with the parts of a diagram, and `Visitor.run` meets all of them in
order: a node's name, its attributes, its edges and only then the nodes nested in it; of an edge,
its target and then its attributes. A visitor that leaves a part out carries its state past it, and
still meets all others at every depth.

`Diagram.events` is the list of all parts in that order.
-/

namespace DiagramCheck

/-- What to do with each part of a diagram, given the state so far. By default the state is kept. -/
structure Visitor (σ : Type) where
  /-- Meets the name of a node. -/
  nodeId : σ → Spanned → σ := fun s _ => s
  /-- Meets an attribute of a node. -/
  nodeAttribute : σ → Attribute → σ := fun s _ => s
  /-- Meets the target of an edge. -/
  edgeTarget : σ → Edge → Spanned → σ := fun s _ _ => s
  /-- Meets an attribute of an edge. -/
  edgeAttribute : σ → Attribute → σ := fun s _ => s

namespace Visitor

variable {σ : Type}

/-- Meets the target and the attributes of an edge. -/
def visitEdge (v : Visitor σ) (s : σ) (e : Edge) : σ :=
  e.attributes.foldl v.edgeAttribute (v.edgeTarget s e e.target)

mutual

/-- Meets a node, its attributes and its edges, and then the nodes nested in it. -/
def visitNode (v : Visitor σ) : σ → Node → σ
  | s, ⟨id, attributes, edges, children⟩ =>
    v.visitNodes (edges.foldl v.visitEdge (attributes.foldl v.nodeAttribute (v.nodeId s id)))
      children

/-- Meets the nodes of a forest one after the other. -/
def visitNodes (v : Visitor σ) : σ → List Node → σ
  | s, [] => s
  | s, n :: rest => v.visitNodes (v.visitNode s n) rest

end

/-- Meets every part of a diagram. -/
def run (v : Visitor σ) (s : σ) (d : Diagram) : σ :=
  v.visitNodes s d.topLevel

end Visitor

/-- A part of a diagram, as a traversal meets it. -/
inductive Event
  /-- The name of a node. -/
  | nodeId (id : Spanned)
  /-- An attribute of a node. -/
  | nodeAttribute (a : Attribute)
  /-- An edge and the id that it points at. -/
  | edgeTarget (edge : Edge) (target : Spanned)
  /-- An attribute of an edge. -/
  | edgeAttribute (a : Attribute)
  deriving DecidableEq

/-- The visitor that writes down every part that it meets. -/
def Visitor.recorder : Visitor (List Event) where
  nodeId events id := events ++ [.nodeId id]
  nodeAttribute events a := events ++ [.nodeAttribute a]
  edgeTarget events edge target := events ++ [.edgeTarget edge target]
  edgeAttribute events a := events ++ [.edgeAttribute a]

/-- The parts of a diagram in the order in which a traversal meets them. -/
def Diagram.events (d : Diagram) : List Event :=
  Visitor.recorder.run [] d

end DiagramCheck
