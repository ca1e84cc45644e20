import DiagramCheck.Proofs.FindingsAlike
import DiagramCheck.Proofs.Verdict

/-!
# Trees without spans

The outline of a diagram is its tree with every span taken away: what is left are the kinds of the
attributes, the texts, and how they are nested and ordered. Diagrams agree exactly when they have
the same outline (`Diagram.agrees_iff_outline_eq`).

Nothing else of a diagram counts for what becomes of it. Findings that agree are shown as
diagnostics that differ in the spans of their labels only (`Findings.Agrees.reported`), and the
collector asks for severities only, so the checks of diagrams that agree have outcomes that agree
too (`Findings.Agrees.check`).
-/

namespace DiagramCheck

/-! ## Outlines -/

/-- An attribute without its span. -/
structure Attribute.Outline where
  /-- What the attribute sets. -/
  kind : AttributeKind
  /-- The name that it is set to. -/
  value : String
  deriving DecidableEq

/-- An edge without its spans. -/
structure Edge.Outline where
  /-- The id of the node that the edge starts at. -/
  source : String
  /-- The id that the edge points at. -/
  target : String
  /-- The attributes of the edge. -/
  attributes : List Attribute.Outline
  deriving DecidableEq

/-- A node without its spans and those of everything in it. -/
structure Node.Outline where
  /-- The name of the node. -/
  id : String
  /-- The attributes of the node. -/
  attributes : List Attribute.Outline
  /-- The edges that start at the node. -/
  edges : List Edge.Outline
  /-- The nodes nested in the node. -/
  children : List Node.Outline

/-- Takes the span away from an attribute. -/
def Attribute.outline (a : Attribute) : Attribute.Outline :=
  ⟨a.kind, a.value.text⟩

/-- Takes the spans away from an edge. -/
def Edge.outline (e : Edge) : Edge.Outline :=
  ⟨e.source.text, e.target.text, e.attributes.map Attribute.outline⟩

mutual

/-- Takes the spans away from a node and everything in it. -/
def Node.outline : Node → Node.Outline
  | ⟨id, attributes, edges, children⟩ =>
    ⟨id.text, attributes.map Attribute.outline, edges.map Edge.outline, Node.outlineAll children⟩

/-- Takes the spans away from a forest. -/
def Node.outlineAll : List Node → List Node.Outline
  | [] => []
  | n :: rest => n.outline :: Node.outlineAll rest

end

/-- Takes the spans away from a diagram. -/
def Diagram.outline (d : Diagram) : List Node.Outline :=
  Node.outlineAll d.topLevel

/-- The outline of a node from its parts. -/
theorem Node.outline_eq (n : Node) : n.outline = ⟨n.id.text, n.attributes.map Attribute.outline,
    n.edges.map Edge.outline, outlineAll n.children⟩ := by
  cases n
  rfl

/-- Attributes agree exactly when they have the same outline. -/
theorem Attribute.agrees_iff_outline_eq {a b : Attribute} :
    a.agrees b = true ↔ a.outline = b.outline := by
  rw [agrees_iff, outline, outline, Outline.mk.injEq]

/-- Lists of attributes agree exactly when they have the same outlines. -/
theorem Attribute.allAgree_iff_map_outline_eq {as bs : List Attribute} :
    allAgree as bs = true ↔ as.map outline = bs.map outline := by
  simp only [allAgree_iff, agrees_iff_outline_eq, forall₂_eq_iff_map_eq]

/-- Edges agree exactly when they have the same outline. -/
theorem Edge.agrees_iff_outline_eq {a b : Edge} : a.agrees b = true ↔ a.outline = b.outline := by
  rw [agrees_iff, outline, outline, Outline.mk.injEq, Attribute.allAgree_iff_map_outline_eq]

/-- Lists of edges agree exactly when they have the same outlines. -/
theorem Edge.allAgree_iff_map_outline_eq {as bs : List Edge} :
    allAgree as bs = true ↔ as.map outline = bs.map outline := by
  simp only [allAgree_iff, agrees_iff_outline_eq, forall₂_eq_iff_map_eq]

/-- Forests agree exactly when they have the same outlines. -/
theorem Node.allAgree_iff_outlineAll_eq {ns ns' : List Node} :
    allAgree ns ns' = true ↔ outlineAll ns = outlineAll ns' := by
  induction ns using Node.forest_induction generalizing ns' with
  | nil => cases ns' <;> simp [allAgree, outlineAll]
  | cons n rest ihChildren ihRest =>
    cases ns' with
    | nil => simp [allAgree, outlineAll]
    | cons n' rest' =>
      rw [allAgree, Bool.and_eq_true, agrees_iff, Attribute.allAgree_iff_map_outline_eq,
        Edge.allAgree_iff_map_outline_eq, ihChildren, ihRest, outlineAll, outlineAll,
        List.cons.injEq, outline_eq, outline_eq, Outline.mk.injEq]

/-- Diagrams agree exactly when they have the same outline. -/
theorem Diagram.agrees_iff_outline_eq {d d' : Diagram} :
    d.agrees d' = true ↔ d.outline = d'.outline :=
  Node.allAgree_iff_outlineAll_eq

/-! ## Diagnostics that agree -/

/-- Two labels agree when they have the same style and the same message. -/
structure Label.Agrees (l l' : Label) : Prop where
  /-- They mark the same kind of thing. -/
  style_eq : l.style = l'.style
  /-- They say the same about it. -/
  message_eq : l.message = l'.message

/-- Two diagnostics agree when they differ at most in the spans of their labels. -/
structure Diagnostic.Agrees (d d' : Diagnostic) : Prop where
  /-- They are equally grave. -/
  severity_eq : d.severity = d'.severity
  /-- They have the same code, or none. -/
  code_eq : d.code = d'.code
  /-- They have the same message. -/
  message_eq : d.message = d'.message
  /-- They have the same help, or none. -/
  help_eq : d.help = d'.help
  /-- Their labels agree one by one. -/
  labels : List.Forall₂ Label.Agrees d.labels d'.labels

/-- Diagnostics that agree do so too when both are made errors, or both left as they are. -/
theorem Diagnostic.Agrees.withSeverity {d d' : Diagnostic} (h : d.Agrees d') (deny : Bool) :
    { d with severity := if deny then .error else d.severity : Diagnostic }.Agrees
      { d' with severity := if deny then .error else d'.severity } :=
  ⟨by rw [h.severity_eq], h.code_eq, h.message_eq, h.help_eq, h.labels⟩

/-- Defects that agree are shown as diagnostics that agree. -/
theorem Defect.Agrees.diagnostic {e e' : Defect} (h : e.Agrees e') :
    e.diagnostic.Agrees e'.diagnostic := by
  have hmessage : e.message = e'.message := by
    cases h with
    | emptyDiagram => rfl
    | duplicateNodeId hid _ => rw [Defect.message, Defect.message, hid]
    | danglingEdge hsource htarget => rw [Defect.message, Defect.message, hsource, htarget]
  cases h with
  | emptyDiagram => exact ⟨rfl, rfl, hmessage, rfl, .nil⟩
  | duplicateNodeId => exact ⟨rfl, rfl, hmessage, rfl, .cons ⟨rfl, rfl⟩ (.cons ⟨rfl, rfl⟩ .nil)⟩
  | danglingEdge => exact ⟨rfl, rfl, hmessage, rfl, .cons ⟨rfl, rfl⟩ (.cons ⟨rfl, rfl⟩ .nil)⟩

/-- Warnings that agree are shown as diagnostics that agree. -/
theorem Warning.Agrees.diagnostic {w w' : Warning} (h : w.Agrees w') :
    w.diagnostic.Agrees w'.diagnostic := by
  cases h with
  | @unreachableNode id id' hid =>
    have hmessage : (Warning.unreachableNode id).message = (Warning.unreachableNode id').message :=
      by rw [Warning.message, Warning.message, hid]
    exact ⟨rfl, rfl, hmessage, rfl, .cons ⟨rfl, rfl⟩ .nil⟩

namespace Findings

variable {f f' : Findings}

/-- Findings that agree are reported with diagnostics that agree one by one. -/
theorem Agrees.reported (h : f.Agrees f') (denyWarnings : Bool) :
    List.Forall₂ Diagnostic.Agrees (f.reported denyWarnings) (f'.reported denyWarnings) := by
  have herrors : List.Forall₂ Diagnostic.Agrees (f.errors.map Defect.diagnostic)
      (f'.errors.map Defect.diagnostic) :=
    List.rel_map (fun _ _ he => he.diagnostic) h.errors
  have hwarnings : List.Forall₂ Diagnostic.Agrees (f.warnings.map Warning.diagnostic)
      (f'.warnings.map Warning.diagnostic) :=
    List.rel_map (fun _ _ hw => hw.diagnostic) h.warnings
  exact List.rel_map (fun _ _ hd => hd.withSeverity denyWarnings)
    (List.rel_append herrors hwarnings)

/-- Two checks come to the same end when both pass or both fail, with diagnostics that agree one by
one. -/
inductive SameOutcome : Except CheckFailure (List Diagnostic) →
    Except CheckFailure (List Diagnostic) → Prop
  /-- Both pass with the same warnings. -/
  | passed {ds ds' : List Diagnostic} (h : List.Forall₂ Diagnostic.Agrees ds ds') :
    SameOutcome (.ok ds) (.ok ds')
  /-- Both fail with the same diagnostics. -/
  | failed {ds ds' : List Diagnostic} (h : List.Forall₂ Diagnostic.Agrees ds ds') :
    SameOutcome (.error ⟨ds⟩) (.error ⟨ds'⟩)

/-- The checks of findings that agree come to the same end. -/
theorem Agrees.check (h : f.Agrees f') (denyWarnings : Bool) :
    SameOutcome (f.check denyWarnings) (f'.check denyWarnings) := by
  have hreported := h.reported denyWarnings
  -- Whether there is an error is a matter of severities, and these are the same.
  have hany : (f.reported denyWarnings).any Diagnostic.isError =
      (f'.reported denyWarnings).any Diagnostic.isError := by
    have hflags : (f.reported denyWarnings).map Diagnostic.isError =
        (f'.reported denyWarnings).map Diagnostic.isError :=
      forall₂_eq_iff_map_eq.1 (hreported.imp fun _ _ hd => by
        rw [Diagnostic.isError, Diagnostic.isError, hd.severity_eq])
    have hid : ∀ ds : List Diagnostic,
        ds.any Diagnostic.isError = (ds.map Diagnostic.isError).any id := by
      intro ds
      rw [List.any_map, Function.id_comp]
    rw [hid, hid, hflags]
  rw [check_eq, check_eq, hany]
  split
  · exact .failed hreported
  · exact .passed hreported

end Findings

/-! ## What becomes of diagrams -/

namespace Diagram

/-- Two diagrams are treated alike when everything that is made of them is the same but for
spans. -/
structure TreatedAlike (d d' : Diagram) : Prop where
  /-- They have the same number of nodes. -/
  nodeCount_eq : d.nodeCount = d'.nodeCount
  /-- They have the same number of edges. -/
  edgeCount_eq : d.edgeCount = d'.edgeCount
  /-- Their nodes have the same ids, in pre-order. -/
  idTexts_eq : d.idTexts = d'.idTexts
  /-- Their analyses come to findings that agree, under every policy. -/
  findings : ∀ policy, (d.analyze policy).Agrees (d'.analyze policy)
  /-- These block both or neither, whether or not warnings are denied, and are reported with
  diagnostics that agree. -/
  outcomes : ∀ policy denyWarnings, Findings.SameOutcome
    ((d.analyze policy).check denyWarnings) ((d'.analyze policy).check denyWarnings)

variable {d d' : Diagram}

/-- Diagrams that agree are treated alike. -/
theorem treatedAlike_of_agrees (h : d.agrees d' = true) : d.TreatedAlike d' where
  nodeCount_eq := (Node.forall₂_preOrderAll h).length_eq
  edgeCount_eq := (forall₂_edges h).length_eq
  idTexts_eq := idTexts_eq_of_agrees h
  findings := agrees_analyze h
  outcomes policy denyWarnings := (agrees_analyze h policy).check denyWarnings

/-- Diagrams agree exactly when nothing is left to tell them apart once all spans are taken away,
and diagrams that agree are treated alike: in the counts and the ids, in what the analysis finds,
and in how that is reported. -/
theorem agrees_spec (d d' : Diagram) :
    (d.agrees d' = true ↔ d.outline = d'.outline) ∧ (d.agrees d' = true → d.TreatedAlike d') :=
  ⟨agrees_iff_outline_eq, treatedAlike_of_agrees⟩

/-- `node a { calls x { } node b { } }`, here and five bytes further on, has the same outline in
both places. The label of the unreachable node is all that moves. -/
theorem agrees_spec_further_on :
    let a (k : Nat) : Spanned := ⟨"a", .ofBounds (5 + k) (6 + k)⟩
    let b (k : Nat) : Spanned := ⟨"b", .ofBounds (26 + k) (27 + k)⟩
    let x (k : Nat) : Spanned := ⟨"x", .ofBounds (15 + k) (16 + k)⟩
    let d (k : Nat) : Diagram := ⟨[⟨a k, [], [⟨a k, x k, []⟩], [.ofId (b k)]⟩]⟩
    (d 0).outline = [⟨"a", [], [⟨"a", "x", []⟩], [⟨"b", [], [], []⟩]⟩] ∧
      (d 0).analyze .standard ≠ (d 5).analyze .standard ∧ (d 0).TreatedAlike (d 5) := by
  intro a b x d
  exact ⟨rfl, by decide, (agrees_spec (d 0) (d 5)).2 (by decide)⟩

end Diagram

end DiagramCheck
