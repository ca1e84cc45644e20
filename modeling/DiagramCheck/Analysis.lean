import DiagramCheck.Diagnostic.Collector
import DiagramCheck.Diagram.Traversal

/-!
# Analysis of a diagram

The analysis looks for what the grammar cannot see. Its errors are an empty diagram, a node id that
is declared twice and an edge that points at no node; its warning is a node that no edge points at.
Declarations are gathered in one traversal and references checked in a second one, so an edge may
point at a node that is declared further down.

The order of the findings is fixed: duplicate ids in the order of their declarations, dangling edges
in the order of theirs, and then the unreachable nodes in the order of their first declarations.
-/

namespace DiagramCheck

/-! ## Findings -/

/-- A fault that makes a diagram unusable. -/
inductive Defect
  /-- There is no node. -/
  | emptyDiagram
  /-- The id of a node is that of an earlier one; `first` is its first declaration. -/
  | duplicateNodeId (id first : Spanned)
  /-- An edge declared in the node `source` points at an id that no node has. -/
  | danglingEdge (source target : Spanned)
  deriving DecidableEq

namespace Defect

/-- The code of a defect. -/
def code : Defect → Code
  | .emptyDiagram => .emptyDiagram
  | .duplicateNodeId .. => .duplicateNodeId
  | .danglingEdge .. => .danglingEdge

/-- A defect in words. -/
def message : Defect → String
  | .emptyDiagram => "diagram contains no nodes"
  | .duplicateNodeId id _ => s!"node `{id.text}` is declared more than once"
  | .danglingEdge source target =>
    s!"edge from `{source.text}` targets undeclared node `{target.text}`"

/-- A defect as a diagnostic, which marks the fault and the declaration that it goes back to. -/
def diagnostic (e : Defect) : Diagnostic :=
  let d := (Diagnostic.error e.message).withCode e.code
  match e with
  | .emptyDiagram => d.withHelp "declare at least one node, e.g. `node main \x7b \x7d`"
  | .duplicateNodeId id first =>
    ((d.withLabel id.span "duplicate declaration").withSecondaryLabel first.span
      "first declared here").withHelp
        "node ids must be unique across the diagram, nested nodes included"
  | .danglingEdge source target =>
    (d.withLabel target.span "not declared anywhere").withSecondaryLabel source.span
      "edge declared in this node"

end Defect

/-- A finding that leaves a diagram usable. -/
inductive Warning
  /-- No edge points at a node. -/
  | unreachableNode (id : Spanned)
  deriving DecidableEq

namespace Warning

/-- The code of a warning. -/
def code : Warning → Code
  | .unreachableNode _ => .unreachableNode

/-- A warning in words. -/
def message : Warning → String
  | .unreachableNode id => s!"node `{id.text}` is unreachable"

/-- A warning as a diagnostic, which marks the declaration that it is about. -/
def diagnostic (w : Warning) : Diagnostic :=
  match w with
  | .unreachableNode id =>
    (((Diagnostic.warning w.message).withCode w.code).withLabel id.span
      "no edge points at this node").withHelp "add an edge targeting it or remove the node"

end Warning

/-- Everything that an analysis found. -/
structure Findings where
  /-- The errors. -/
  errors : List Defect
  /-- The warnings. -/
  warnings : List Warning
  deriving DecidableEq

namespace Findings

/-- Whether there are no errors. -/
def isOk (f : Findings) : Bool :=
  f.errors.isEmpty

/-- Whether there are neither errors nor warnings. -/
def isClean (f : Findings) : Bool :=
  f.errors.isEmpty && f.warnings.isEmpty

/-- The findings as diagnostics, errors first. -/
def diagnostics (f : Findings) : List Diagnostic :=
  f.errors.map Defect.diagnostic ++ f.warnings.map Warning.diagnostic

/-- Decides whether the findings block the diagram. Errors do, and warnings do when they are denied,
in which case they become errors. If nothing blocks, the result is the warnings. -/
def check (f : Findings) (denyWarnings : Bool) : Except CheckFailure (List Diagnostic) :=
  let emitted := if denyWarnings then f.diagnostics.map Diagnostic.asError else f.diagnostics
  (Collector.empty.emitAll emitted).finish

end Findings

/-! ## The two traversals -/

/-- What is known of the declarations. -/
structure Declarations where
  /-- The first declaration of every id, in the order of the declarations. -/
  declared : List Spanned
  /-- The declarations that repeat an earlier id. -/
  duplicates : List Defect
  deriving DecidableEq

namespace Declarations

/-- The first declaration of an id. -/
def first? (ds : Declarations) (id : Spanned) : Option Spanned :=
  ds.declared.find? fun earlier => earlier.agrees id

/-- Takes in the declaration of a node. -/
def add (ds : Declarations) (id : Spanned) : Declarations :=
  match ds.first? id with
  | some first => { ds with duplicates := ds.duplicates ++ [.duplicateNodeId id first] }
  | none => { ds with declared := ds.declared ++ [id] }

/-- The visitor that gathers the declarations. -/
def visitor : Visitor Declarations where
  nodeId := add

end Declarations

/-- What is known of the edges. -/
structure References where
  /-- The declared ids that edges point at. -/
  referenced : List String
  /-- The edges that point at no declared id. -/
  dangling : List Defect
  deriving DecidableEq

namespace References

/-- Takes in an edge and its target. -/
def add (ds : Declarations) (rs : References) (e : Edge) (target : Spanned) : References :=
  match ds.first? target with
  | some id => { rs with referenced := rs.referenced ++ [id.text] }
  | none => { rs with dangling := rs.dangling ++ [.danglingEdge e.source target] }

/-- The visitor that checks the edges against the declarations. -/
def visitor (ds : Declarations) : Visitor References where
  edgeTarget := add ds

end References

/-- The declarations of a diagram. -/
def Diagram.declarations (d : Diagram) : Declarations :=
  Declarations.visitor.run ⟨[], []⟩ d

/-- The references of a diagram, checked against its declarations. -/
def Diagram.references (d : Diagram) : References :=
  (References.visitor d.declarations).run ⟨[], []⟩ d

/-! ## The analysis -/

/-- What the analysis reports beyond errors. -/
structure Policy where
  /-- Whether the node declared first is never reported as unreachable. -/
  exemptEntryPoint : Bool
  /-- Whether unreachable nodes are reported at all. -/
  reportUnreachable : Bool
  deriving DecidableEq

/-- The policy where nothing else is asked for: all unreachable nodes but the entry point. -/
def Policy.standard : Policy :=
  ⟨true, true⟩

/-- The declared ids that no edge points at. The entry point is left out first, if it is exempt,
whether or not an edge points at it. -/
def Policy.unreachable (policy : Policy) (declared : List Spanned) (referenced : List String) :
    List Warning :=
  let candidates := if policy.exemptEntryPoint then declared.tail else declared
  (candidates.filter fun id => !referenced.contains id.text).map .unreachableNode

/-- The findings in a diagram. -/
def Diagram.analyze (d : Diagram) (policy : Policy) : Findings :=
  if d.isEmpty then ⟨[.emptyDiagram], []⟩
  else
    let declarations := d.declarations
    let references := d.references
    { errors := declarations.duplicates ++ references.dangling
      warnings :=
        if policy.reportUnreachable then
          policy.unreachable declarations.declared references.referenced
        else [] }

end DiagramCheck
