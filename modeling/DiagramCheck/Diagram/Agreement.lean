import DiagramCheck.Diagram

/-!
# Agreement of diagrams

Two diagrams agree when they have the same shape, the same kinds of attributes and the same texts
in the same order. Where a text stands in its source plays no part, so a diagram agrees with one
read from a differently laid out source, or built by hand.
-/

namespace DiagramCheck

/-- Two attributes agree when they set the same thing to the same text. -/
def Attribute.agrees (a b : Attribute) : Bool :=
  a.kind == b.kind && a.value.agrees b.value

/-- Two lists of attributes agree when they do so one by one. -/
def Attribute.allAgree : List Attribute → List Attribute → Bool
  | [], [] => true
  | a :: as, b :: bs => a.agrees b && allAgree as bs
  | _, _ => false

/-- Two edges agree when their ends and their attributes do. -/
def Edge.agrees (a b : Edge) : Bool :=
  a.source.agrees b.source && a.target.agrees b.target &&
    Attribute.allAgree a.attributes b.attributes

/-- Two lists of edges agree when they do so one by one. -/
def Edge.allAgree : List Edge → List Edge → Bool
  | [], [] => true
  | a :: as, b :: bs => a.agrees b && allAgree as bs
  | _, _ => false

mutual

/-- Two nodes agree when their names, attributes, edges and nested nodes do. -/
def Node.agrees : Node → Node → Bool
  | ⟨id, attributes, edges, children⟩, ⟨id', attributes', edges', children'⟩ =>
    id.agrees id' && Attribute.allAgree attributes attributes' && Edge.allAgree edges edges' &&
      Node.allAgree children children'

/-- Two forests agree when their nodes do so one by one. -/
def Node.allAgree : List Node → List Node → Bool
  | [], [] => true
  | a :: as, b :: bs => a.agrees b && Node.allAgree as bs
  | _, _ => false

end

/-- Two diagrams agree when their top-level nodes do so one by one. -/
def Diagram.agrees (a b : Diagram) : Bool :=
  Node.allAgree a.topLevel b.topLevel

end DiagramCheck
