import DiagramCheck.Source.Span

/-!
# Diagrams

A diagram is a forest of named nodes. A node carries attributes, outgoing edges and nested nodes,
each in the order in which they were declared. Every name and every attribute value keeps the span
that it was read from.

`Diagram.nodes` lists all nodes in pre-order: a node before the nodes nested in it. `Node.ofId`,
`Node.addAttribute`, `Node.addEdge` and `Node.addChild` build a node up from its name.
`Node.forest_induction` is the induction principle that goes with the recursive functions on lists
of nodes: a statement holds of a list when it holds of the first node's nested nodes and of the
remaining list.
-/

namespace DiagramCheck

/-- The two kinds of attributes. -/
inductive AttributeKind
  /-- The color of a node or an edge. -/
  | color
  /-- The label of an edge, or the description of a node. -/
  | label
  deriving DecidableEq

/-- An attribute of a node or an edge. -/
structure Attribute where
  /-- What the attribute sets. -/
  kind : AttributeKind
  /-- The name that it is set to. -/
  value : Spanned
  deriving DecidableEq

/-- An edge, declared in the node that it starts at. -/
structure Edge where
  /-- The id of the node that the edge starts at. -/
  source : Spanned
  /-- The id that the edge points at. -/
  target : Spanned
  /-- The attributes of the edge. -/
  attributes : List Attribute
  deriving DecidableEq

/-- The span of an edge is that of its target. -/
def Edge.span (e : Edge) : Span :=
  e.target.span

/-- Declares one more attribute in the body of an edge. -/
def Edge.addAttribute (e : Edge) (a : Attribute) : Edge :=
  ⟨e.source, e.target, e.attributes ++ [a]⟩

/-- A node, with everything that its body declares. -/
structure Node where
  /-- The name of the node. -/
  id : Spanned
  /-- The attributes of the node. -/
  attributes : List Attribute
  /-- The edges that start at the node. -/
  edges : List Edge
  /-- The nodes nested in the node. -/
  children : List Node

namespace Node

/-- The span of a node is that of its name. -/
def span (n : Node) : Span :=
  n.id.span

/-- A node with an empty body. -/
def ofId (id : Spanned) : Node :=
  ⟨id, [], [], []⟩

/-- Declares one more attribute in the body of a node. -/
def addAttribute (n : Node) (a : Attribute) : Node :=
  ⟨n.id, n.attributes ++ [a], n.edges, n.children⟩

/-- Declares one more edge in the body of a node. -/
def addEdge (n : Node) (e : Edge) : Node :=
  ⟨n.id, n.attributes, n.edges ++ [e], n.children⟩

/-- Nests one more node in a node. -/
def addChild (n child : Node) : Node :=
  ⟨n.id, n.attributes, n.edges, n.children ++ [child]⟩

/-- A statement about lists of nodes holds when it holds of the empty list, and of a list whenever
it holds of its first node's nested nodes and of the nodes behind the first. -/
theorem forest_induction {motive : List Node → Prop} (nil : motive [])
    (cons : ∀ n rest, motive n.children → motive rest → motive (n :: rest)) : ∀ ns, motive ns
  | [] => nil
  | ⟨id, attributes, edges, children⟩ :: rest =>
    cons ⟨id, attributes, edges, children⟩ rest (forest_induction nil cons children)
      (forest_induction nil cons rest)

mutual

/-- A node followed by all nodes nested in it, in pre-order. -/
def preOrder : Node → List Node
  | ⟨id, attributes, edges, children⟩ =>
    ⟨id, attributes, edges, children⟩ :: preOrderAll children

/-- All nodes of a forest, in pre-order. -/
def preOrderAll : List Node → List Node
  | [] => []
  | n :: rest => n.preOrder ++ preOrderAll rest

end

/-- In pre-order a node comes before the nodes nested in it, and these before its siblings. -/
theorem preOrderAll_cons (n : Node) (rest : List Node) :
    preOrderAll (n :: rest) = n :: (preOrderAll n.children ++ preOrderAll rest) := by
  cases n
  rfl

/-- The pre-order of two forests side by side. -/
theorem preOrderAll_append (a b : List Node) :
    preOrderAll (a ++ b) = preOrderAll a ++ preOrderAll b := by
  induction a with
  | nil => rfl
  | cons n rest ih => simp [preOrderAll, ih]

end Node

/-- A diagram: its top-level nodes, in the order of their declarations. -/
structure Diagram where
  /-- The nodes that are nested in no other. -/
  topLevel : List Node

namespace Diagram

/-- Whether a diagram declares no node. -/
def isEmpty (d : Diagram) : Bool :=
  d.topLevel.isEmpty

/-- All nodes of a diagram, nested ones included, in pre-order. -/
def nodes (d : Diagram) : List Node :=
  Node.preOrderAll d.topLevel

/-- All edges of a diagram: those of each node in pre-order. -/
def edges (d : Diagram) : List Edge :=
  d.nodes.flatMap Node.edges

/-- The number of nodes at any depth. -/
def nodeCount (d : Diagram) : Nat :=
  d.nodes.length

/-- The number of edges at any depth. -/
def edgeCount (d : Diagram) : Nat :=
  d.edges.length

end Diagram

end DiagramCheck
