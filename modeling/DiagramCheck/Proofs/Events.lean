import DiagramCheck.Analysis
import DiagramCheck.Proofs.Traversal

/-!
# What a traversal meets

There are two ways to go over a diagram: `Diagram.nodes` lists its nodes, and a traversal hands its
parts to a visitor. `Diagram.traversals_agree` says that they go the same way. The parts that are
met (`Diagram.events`) are the names and edges of the listed nodes, in the order of the list, with
all attributes in their places, and every visitor meets these parts and no others, also one that
has to do with a single kind of them, as those of the analysis.

Each node adds to the events what it has of its own (`Node.ownEvents`), and a visitor does with
these what it does with the node (`Visitor.foldl_meet_ownEvents`). A traversal is a fold over the
nodes, so it is one over their events (`Visitor.run_eq_foldl_events`), and the visitor that writes
down what it meets writes down just these (`Diagram.events_eq`).
-/

namespace DiagramCheck

/-! ## Parts of a diagram -/

namespace Event

/-- The name, if the part is the name of a node. -/
def nodeId? : Event → Option Spanned
  | .nodeId id => some id
  | _ => none

/-- The attribute, if the part is an attribute of a node. -/
def nodeAttribute? : Event → Option Attribute
  | .nodeAttribute a => some a
  | _ => none

/-- The edge and the id that is met as its target, if the part is these. -/
def edgeTarget? : Event → Option (Edge × Spanned)
  | .edgeTarget edge target => some (edge, target)
  | _ => none

/-- The attribute, if the part is an attribute of an edge. -/
def edgeAttribute? : Event → Option Attribute
  | .edgeAttribute a => some a
  | _ => none

end Event

/-- What a traversal meets of an edge: its target, and then its attributes. -/
def Edge.events (e : Edge) : List Event :=
  .edgeTarget e e.target :: e.attributes.map .edgeAttribute

/-- What a traversal meets of a node in front of the nodes nested in it: its name, then its
attributes, and then its edges. -/
def Node.ownEvents (n : Node) : List Event :=
  .nodeId n.id :: (n.attributes.map .nodeAttribute ++ n.edges.flatMap Edge.events)

/-- What a traversal meets of a node, with everything that is nested in it. -/
def Node.events (n : Node) : List Event :=
  Visitor.recorder.visitNode [] n

/-- `d.Contains n` says that a node is declared in a diagram, at some depth. -/
inductive Diagram.Contains (d : Diagram) : Node → Prop
  /-- At the top level. -/
  | top {n : Node} (h : n ∈ d.topLevel) : Contains d n
  /-- In another node. -/
  | nested {outer n : Node} (houter : Contains d outer) (h : n ∈ outer.children) : Contains d n

/-- The nodes of a diagram are those that are declared in it, at every depth. -/
theorem Diagram.mem_nodes_iff {d : Diagram} {n : Node} : n ∈ d.nodes ↔ d.Contains n := by
  constructor
  · suffices h : ∀ ns : List Node, (∀ m ∈ ns, d.Contains m) →
        ∀ m ∈ Node.preOrderAll ns, d.Contains m by
      exact h d.topLevel (fun m hm => .top hm) n
    intro ns
    induction ns using Node.forest_induction with
    | nil => exact fun h => h
    | cons outer rest ihChildren ihRest =>
      intro h
      obtain ⟨houter, hrest⟩ := List.forall_mem_cons.1 h
      rw [Node.preOrderAll_cons]
      refine List.forall_mem_cons.2 ⟨houter, List.forall_mem_append.2 ⟨?_, ihRest hrest⟩⟩
      exact ihChildren fun m hm => .nested houter hm
  · intro h
    induction h with
    | top h => exact (Node.sublist_preOrderAll d.topLevel).subset h
    | nested _ h ih => exact (Node.children_sublist_preOrderAll ih).subset h

/-! ## Visitors and events -/

namespace Visitor

variable {σ : Type}

/-- What a visitor does with a part of a diagram. -/
def meet (v : Visitor σ) (s : σ) : Event → σ
  | .nodeId id => v.nodeId s id
  | .nodeAttribute a => v.nodeAttribute s a
  | .edgeTarget edge target => v.edgeTarget s edge target
  | .edgeAttribute a => v.edgeAttribute s a

/-- To meet an edge is to meet what there is of it. -/
theorem foldl_meet_edgeEvents (v : Visitor σ) (s : σ) (e : Edge) :
    e.events.foldl v.meet s = v.visitEdge s e := by
  rw [Edge.events, List.foldl_cons, List.foldl_map]
  rfl

/-- To meet what a node has of its own is to meet its events. -/
theorem foldl_meet_ownEvents (v : Visitor σ) (s : σ) (n : Node) :
    n.ownEvents.foldl v.meet s = v.visitOwn s n := by
  rw [Node.ownEvents, List.foldl_cons, List.foldl_append, List.foldl_map, List.foldl_flatMap]
  simp only [foldl_meet_edgeEvents]
  rfl

/-- The nodes of a forest are met by meeting their events, in pre-order. -/
theorem visitNodes_eq_foldl_meet (v : Visitor σ) (s : σ) (ns : List Node) :
    v.visitNodes s ns = ((Node.preOrderAll ns).flatMap Node.ownEvents).foldl v.meet s := by
  rw [visitNodes_eq_foldl, List.foldl_flatMap]
  simp only [foldl_meet_ownEvents]

/-- The recorder writes down what it meets behind what it has written already. -/
theorem foldl_meet_recorder (events more : List Event) :
    more.foldl recorder.meet events = events ++ more := by
  induction more generalizing events with
  | nil => exact (List.append_nil events).symm
  | cons x more ih =>
    have hmeet : recorder.meet events x = events ++ [x] := by
      cases x <;> rfl
    rw [List.foldl_cons, ih, hmeet, List.append_assoc, List.singleton_append]

end Visitor

/-- The events of some nodes, one behind the other, are those of the nodes in their pre-order. -/
theorem Node.flatMap_events (ns : List Node) :
    ns.flatMap events = (preOrderAll ns).flatMap ownEvents := by
  induction ns with
  | nil => rfl
  | cons n rest ih =>
    have hnode : n.events = (preOrderAll [n]).flatMap ownEvents := by
      have hvisit := Visitor.recorder.visitNodes_eq_foldl_meet [] [n]
      rw [Visitor.foldl_meet_recorder, List.nil_append] at hvisit
      exact hvisit
    rw [List.flatMap_cons, hnode, ih, ← List.flatMap_append, ← preOrderAll_append,
      List.singleton_append]

/-- What a traversal meets of a node is what the node has of its own, and then what there is of the
nodes nested in it. -/
theorem Node.events_eq (n : Node) :
    n.events = n.ownEvents ++ n.children.flatMap events := by
  have hnode := flatMap_events [n]
  rw [List.flatMap_singleton, preOrderAll_cons, List.flatMap_cons, List.flatMap_append] at hnode
  rw [hnode, flatMap_events]
  exact congrArg (n.ownEvents ++ ·) (List.append_nil _)

/-- The parts that a traversal meets are what the nodes have of their own, in pre-order. -/
theorem Diagram.events_eq (d : Diagram) : d.events = d.nodes.flatMap Node.ownEvents := by
  have hvisit := Visitor.recorder.visitNodes_eq_foldl_meet [] d.topLevel
  rw [Visitor.foldl_meet_recorder, List.nil_append] at hvisit
  exact hvisit

/-- A traversal meets the parts that are written down, whatever the visitor does with them. -/
theorem Visitor.run_eq_foldl_events {σ : Type} (v : Visitor σ) (s : σ) (d : Diagram) :
    v.run s d = d.events.foldl v.meet s := by
  rw [d.events_eq]
  exact v.visitNodes_eq_foldl_meet s d.topLevel

/-! ## Parts of one kind -/

/-- What a function finds among the events of a node, part by part. -/
theorem Node.filterMap_ownEvents {α : Type} (f : Event → Option α) (n : Node) :
    n.ownEvents.filterMap f = (f (.nodeId n.id)).toList ++
      (n.attributes.filterMap (fun a => f (.nodeAttribute a)) ++
        n.edges.flatMap fun e => (f (.edgeTarget e e.target)).toList ++
          e.attributes.filterMap fun a => f (.edgeAttribute a)) := by
  have hcons : ∀ (x : Event) (xs : List Event),
      (x :: xs).filterMap f = (f x).toList ++ xs.filterMap f := by
    intro x xs
    rw [List.filterMap_cons]
    cases f x <;> rfl
  rw [ownEvents, hcons, List.filterMap_append, List.filterMap_map, List.filterMap_flatMap]
  simp only [Edge.events, hcons, List.filterMap_map, Function.comp_def]

namespace Diagram

variable (d : Diagram)

/-- The parts of one kind are those of the nodes, in pre-order. -/
theorem filterMap_events {α : Type} (f : Event → Option α) :
    d.events.filterMap f = d.nodes.flatMap fun n => n.ownEvents.filterMap f := by
  rw [events_eq, List.filterMap_flatMap]

/-- The names that are met are the ids of the nodes. -/
theorem filterMap_nodeId?_events : d.events.filterMap Event.nodeId? = d.nodes.map Node.id := by
  have hown : ∀ n : Node, n.ownEvents.filterMap Event.nodeId? = [n.id] := by
    intro n
    simp [Node.filterMap_ownEvents, Event.nodeId?]
  simp only [filterMap_events, hown]
  exact List.flatMap_pure_eq_map Node.id d.nodes

/-- The attributes of nodes that are met are those of the nodes. -/
theorem filterMap_nodeAttribute?_events :
    d.events.filterMap Event.nodeAttribute? = d.nodes.flatMap Node.attributes := by
  have hown : ∀ n : Node, n.ownEvents.filterMap Event.nodeAttribute? = n.attributes := by
    intro n
    simp [Node.filterMap_ownEvents, Event.nodeAttribute?]
  simp only [filterMap_events, hown]

/-- The edges that are met are those of the nodes, each with its own target. -/
theorem filterMap_edgeTarget?_events :
    d.events.filterMap Event.edgeTarget? =
      d.nodes.flatMap fun n => n.edges.map fun e => (e, e.target) := by
  have hown : ∀ n : Node, n.ownEvents.filterMap Event.edgeTarget? =
      n.edges.map fun e => (e, e.target) := by
    intro n
    simp only [Node.filterMap_ownEvents, Event.edgeTarget?, Option.toList_none, Option.toList_some,
      List.filterMap_none, List.nil_append, List.append_nil]
    exact List.flatMap_pure_eq_map (fun e => (e, e.target)) n.edges
  simp only [filterMap_events, hown]

/-- The attributes of edges that are met are those of the edges of the nodes. -/
theorem filterMap_edgeAttribute?_events :
    d.events.filterMap Event.edgeAttribute? =
      d.nodes.flatMap fun n => n.edges.flatMap Edge.attributes := by
  have hown : ∀ n : Node, n.ownEvents.filterMap Event.edgeAttribute? =
      n.edges.flatMap Edge.attributes := by
    intro n
    simp [Node.filterMap_ownEvents, Event.edgeAttribute?]
  simp only [filterMap_events, hown]

/-! ## The specification of a traversal -/

/-- What a traversal of a diagram meets, and in which order. -/
structure Traversed : Prop where
  /-- A traversal of the diagram meets its top-level nodes one behind the other. -/
  topLevel : d.events = d.topLevel.flatMap Node.events
  /-- Of each node it meets the name, then the attributes, then the edges, each target in front of
  the attributes of the edge, and behind all of these the nodes nested in it. -/
  inOrder : ∀ n : Node, n.events = n.ownEvents ++ n.children.flatMap Node.events
  /-- The names that are met are the ids of the listed nodes. -/
  ids : d.events.filterMap Event.nodeId? = d.nodes.map Node.id
  /-- The edges that are met are those of the listed nodes, each with its own target. -/
  edgeTargets : d.events.filterMap Event.edgeTarget? =
    d.nodes.flatMap fun n => n.edges.map fun e => (e, e.target)
  /-- The attributes of the listed nodes are met once each. -/
  nodeAttributes : d.events.filterMap Event.nodeAttribute? = d.nodes.flatMap Node.attributes
  /-- The attributes of the edges of the listed nodes are met once each. -/
  edgeAttributes : d.events.filterMap Event.edgeAttribute? =
    d.nodes.flatMap fun n => n.edges.flatMap Edge.attributes
  /-- The nodes are counted as their names are met. -/
  nodeCount : d.nodeCount = d.events.countP fun x => x.nodeId?.isSome
  /-- The edges are counted as their targets are met. -/
  edgeCount : d.edgeCount = d.events.countP fun x => x.edgeTarget?.isSome
  /-- The listed nodes are those that are declared at some depth. -/
  everyDepth : ∀ n, n ∈ d.nodes ↔ d.Contains n
  /-- Every visitor meets these parts, in this order, and nothing else. -/
  everyVisitor : ∀ {σ : Type} (v : Visitor σ) (s : σ), v.run s d = d.events.foldl v.meet s
  /-- A visitor that has to do with names only meets all of them. -/
  onlyIds : ∀ {σ : Type} (f : σ → Spanned → σ) (s : σ),
    Visitor.run { nodeId := f } s d = (d.nodes.map Node.id).foldl f s
  /-- A visitor that has to do with targets only meets those of all edges. -/
  onlyTargets : ∀ {σ : Type} (f : σ → Edge → Spanned → σ) (s : σ),
    Visitor.run { edgeTarget := f } s d =
      (d.nodes.flatMap Node.edges).foldl (fun s e => f s e e.target) s
  /-- The first pass of the analysis takes in the ids of all listed nodes. -/
  declarations : d.declarations = (d.nodes.map Node.id).foldl Declarations.add ⟨[], []⟩
  /-- The second pass takes in all edges of the listed nodes. -/
  references : d.references = (d.nodes.flatMap Node.edges).foldl
    (fun rs e => References.add d.declarations rs e e.target) ⟨[], []⟩

/-- A traversal of a diagram agrees with the list of its nodes: it meets what each of them has of
its own, once and in the order of the list, and so does every visitor. -/
theorem traversals_agree : d.Traversed where
  topLevel := by rw [events_eq, Node.flatMap_events, nodes]
  inOrder := Node.events_eq
  ids := d.filterMap_nodeId?_events
  edgeTargets := d.filterMap_edgeTarget?_events
  nodeAttributes := d.filterMap_nodeAttribute?_events
  edgeAttributes := d.filterMap_edgeAttribute?_events
  nodeCount := by
    have hids := congrArg List.length d.filterMap_nodeId?_events
    rw [List.length_filterMap_eq_countP, List.length_map] at hids
    exact hids.symm
  edgeCount := by
    have htargets := congrArg List.length d.filterMap_edgeTarget?_events
    rw [List.length_filterMap_eq_countP, ← List.map_flatMap, List.length_map] at htargets
    exact htargets.symm
  everyDepth _ := mem_nodes_iff
  everyVisitor v s := v.run_eq_foldl_events s d
  onlyIds f s := Visitor.run_eq_foldl_ids f s d
  onlyTargets f s := Visitor.run_eq_foldl_edges f s d
  declarations := Visitor.run_eq_foldl_ids Declarations.add ⟨[], []⟩ d
  references := Visitor.run_eq_foldl_edges (References.add d.declarations) ⟨[], []⟩ d

end Diagram

end DiagramCheck
