import DiagramCheck.Proofs.Alike
import DiagramCheck.Proofs.Findings

/-!
# Places play no part in the analysis

An analysis copies the places of ids and targets into its findings and never looks at them, so it
commutes with every change of places (`Diagram.analyze_relocate`). Diagrams that agree are the same
one when their places are forgotten (`Diagram.relocate_forget_eq`). So the findings in diagrams that
agree do so too, one by one and in order (`Diagram.agrees_analyze`).
-/

namespace DiagramCheck

/-! ## Findings that agree -/

/-- Two defects agree when they are of the same kind and about the same texts. -/
inductive Defect.Agrees : Defect → Defect → Prop
  /-- There is no node. -/
  | emptyDiagram : Agrees .emptyDiagram .emptyDiagram
  /-- The same id is repeated. -/
  | duplicateNodeId {id id' first first' : Spanned} (hid : id.text = id'.text)
    (hfirst : first.text = first'.text) :
    Agrees (.duplicateNodeId id first) (.duplicateNodeId id' first')
  /-- An edge of the same node points at the same id. -/
  | danglingEdge {source source' target target' : Spanned} (hsource : source.text = source'.text)
    (htarget : target.text = target'.text) :
    Agrees (.danglingEdge source target) (.danglingEdge source' target')

/-- Two warnings agree when they are about the same text. -/
inductive Warning.Agrees : Warning → Warning → Prop
  /-- No edge points at the same node. -/
  | unreachableNode {id id' : Spanned} (h : id.text = id'.text) :
    Agrees (.unreachableNode id) (.unreachableNode id')

/-- The findings of two analyses agree when their errors and their warnings do, one by one. -/
structure Findings.Agrees (f f' : Findings) : Prop where
  /-- The errors agree. -/
  errors : List.Forall₂ Defect.Agrees f.errors f'.errors
  /-- The warnings agree. -/
  warnings : List.Forall₂ Warning.Agrees f.warnings f'.warnings

section

variable (r : Relocation)

/-! ## Relocated findings -/

/-- The same defect elsewhere. -/
def Defect.relocate : Defect → Defect
  | .emptyDiagram => .emptyDiagram
  | .duplicateNodeId id first => .duplicateNodeId (id.relocate r) (first.relocate r)
  | .danglingEdge source target => .danglingEdge (source.relocate r) (target.relocate r)

/-- The same warning elsewhere. -/
def Warning.relocate : Warning → Warning
  | .unreachableNode id => .unreachableNode (id.relocate r)

/-- The same findings elsewhere. -/
def Findings.relocate (f : Findings) : Findings :=
  ⟨f.errors.map (Defect.relocate r), f.warnings.map (Warning.relocate r)⟩

/-- Defects that are the same one elsewhere agree. -/
theorem Defect.agrees_of_relocate_eq {e e' : Defect} (h : e.relocate r = e'.relocate r) :
    e.Agrees e' := by
  cases e <;> cases e' <;> simp only [relocate, duplicateNodeId.injEq, danglingEdge.injEq,
    reduceCtorEq] at h
  case emptyDiagram.emptyDiagram => exact .emptyDiagram
  case duplicateNodeId.duplicateNodeId =>
    exact .duplicateNodeId (Spanned.text_eq_of_relocate_eq h.1) (Spanned.text_eq_of_relocate_eq h.2)
  case danglingEdge.danglingEdge =>
    exact .danglingEdge (Spanned.text_eq_of_relocate_eq h.1) (Spanned.text_eq_of_relocate_eq h.2)

/-- Warnings that are the same one elsewhere agree. -/
theorem Warning.agrees_of_relocate_eq {w w' : Warning} (h : w.relocate r = w'.relocate r) :
    w.Agrees w' := by
  cases w
  cases w'
  exact .unreachableNode (Spanned.text_eq_of_relocate_eq (Warning.unreachableNode.inj h))

/-- Findings that are the same ones elsewhere agree. -/
theorem Findings.agrees_of_relocate_eq {f f' : Findings} (h : f.relocate r = f'.relocate r) :
    f.Agrees f' := by
  obtain ⟨herrors, hwarnings⟩ := Findings.mk.inj h
  rw [← forall₂_eq_iff_map_eq] at herrors hwarnings
  exact ⟨herrors.imp fun _ _ he => Defect.agrees_of_relocate_eq r he,
    hwarnings.imp fun _ _ hw => Warning.agrees_of_relocate_eq r hw⟩

/-! ## Repeated ids -/

namespace Spanned

/-- Changing ids changes those in front of them. -/
theorem withEarlier_map (f : Spanned → Spanned) (ids : List Spanned) :
    withEarlier (ids.map f) = (withEarlier ids).map fun p => (p.1.map f, f p.2) := by
  rw [withEarlier, withEarlier, List.zipIdx_map, List.map_map, List.map_map]
  refine List.map_congr_left fun p _ => ?_
  simp

/-- The first id with a given text is the same one elsewhere. -/
theorem earliest?_relocate (ids : List Spanned) (text : String) :
    earliest? (ids.map (relocate r)) text = (earliest? ids text).map (relocate r) :=
  List.find?_map

/-- The ids that come for the first time are the same ones elsewhere. -/
theorem firsts_relocate (ids : List Spanned) :
    firsts (ids.map (relocate r)) = (firsts ids).map (relocate r) := by
  have hfilter : ∀ p : List Spanned × Spanned,
      (earliest? (p.1.map (relocate r)) (relocate r p.2).text).isNone =
        (earliest? p.1 p.2.text).isNone := by
    intro p
    rw [earliest?_relocate, Option.isNone_map]
    rfl
  rw [firsts, withEarlier_map, List.filter_map, List.map_map, firsts, List.map_map]
  simp only [Function.comp_def, hfilter]

/-- The defects of repeated ids are the same ones elsewhere. -/
theorem repeats_relocate (ids : List Spanned) :
    repeats (ids.map (relocate r)) = (repeats ids).map (Defect.relocate r) := by
  rw [repeats, withEarlier_map, List.filterMap_map, repeats, List.map_filterMap]
  refine List.filterMap_congr fun p _ => ?_
  rw [Function.comp_apply, earliest?_relocate, Option.map_map, Option.map_map]
  rfl

end Spanned

/-! ## Diagrams -/

/-- The nodes of a relocated forest. -/
theorem Node.preOrderAll_relocateAll (ns : List Node) :
    preOrderAll (relocateAll r ns) = (preOrderAll ns).map (Node.relocate r) := by
  induction ns using Node.forest_induction with
  | nil => rfl
  | cons n rest ihChildren ihRest =>
    have hchildren : (n.relocate r).children = relocateAll r n.children := by
      rw [relocate_eq, relocateAll_eq_map]
    rw [relocateAll, preOrderAll_cons, preOrderAll_cons, hchildren, ihChildren, ihRest,
      List.map_cons, List.map_append]

namespace Diagram

variable (d : Diagram)

/-- The nodes of a relocated diagram. -/
theorem nodes_relocate : (d.relocate r).nodes = d.nodes.map (Node.relocate r) :=
  Node.preOrderAll_relocateAll r d.topLevel

/-- The ids of a relocated diagram. -/
theorem ids_relocate : (d.relocate r).ids = d.ids.map (Spanned.relocate r) := by
  rw [ids, nodes_relocate, List.map_map, ids, List.map_map]
  exact List.map_congr_left fun n _ => Node.id_relocate r n

/-- The texts of the ids are the same elsewhere. -/
theorem idTexts_relocate : (d.relocate r).idTexts = d.idTexts := by
  rw [idTexts, ids_relocate, List.map_map]
  rfl

/-- The edges of a relocated diagram. -/
theorem edges_relocate : (d.relocate r).edges = d.edges.map (Edge.relocate r) := by
  rw [edges, nodes_relocate, List.flatMap_map, edges, List.map_flatMap]
  exact List.flatMap_congr fun n _ => by rw [Node.relocate_eq]

/-- The dangling edges of a relocated diagram. -/
theorem danglingEdges_relocate :
    (d.relocate r).danglingEdges = d.danglingEdges.map (Defect.relocate r) := by
  rw [danglingEdges, idTexts_relocate, edges_relocate, List.filter_map, List.map_map, danglingEdges,
    List.map_map]
  rfl

/-- A relocated diagram is empty when the diagram is. -/
theorem isEmpty_relocate : (d.relocate r).isEmpty = d.isEmpty := by
  rw [isEmpty, isEmpty, relocate, Node.relocateAll_eq_map, List.isEmpty_map]

/-- The findings in a relocated diagram are those in the diagram, elsewhere. -/
theorem analyze_relocate (policy : Policy) :
    (d.relocate r).analyze policy = (d.analyze policy).relocate r := by
  have hunreachable : ∀ (declared : List Spanned) (referenced : List String),
      policy.unreachable (declared.map (Spanned.relocate r)) referenced =
        (policy.unreachable declared referenced).map (Warning.relocate r) := by
    intro declared referenced
    simp only [Policy.unreachable, ← List.map_tail, ← apply_ite (List.map (Spanned.relocate r)),
      List.filter_map, List.map_map]
    rfl
  have hreferenced : (d.relocate r).references.referenced = d.references.referenced := by
    rw [references_eq, references_eq, idTexts_relocate, edges_relocate, List.filter_map,
      List.map_map]
    rfl
  have hdangling : (d.relocate r).references.dangling =
      d.references.dangling.map (Defect.relocate r) := by
    rw [references_eq, references_eq]
    exact danglingEdges_relocate r d
  rw [analyze, analyze, isEmpty_relocate, declarations_eq, declarations_eq]
  split
  · rfl
  · simp only [ids_relocate, repeatedIds, Spanned.firsts_relocate, Spanned.repeats_relocate,
      hreferenced, hdangling, hunreachable, Findings.relocate, List.map_append]
    split <;> rfl

end Diagram

end

/-! ## Forgetting places -/

/-- Texts that are the same are so when places are forgotten. -/
theorem Spanned.relocate_forget_eq {v w : Spanned} (h : v.text = w.text) :
    v.relocate .forget = w.relocate .forget := by
  rw [relocate, relocate, h]
  rfl

/-- Attributes that agree are the same when places are forgotten. -/
theorem Attribute.relocate_forget_eq {a b : Attribute} (h : a.agrees b = true) :
    a.relocate .forget = b.relocate .forget := by
  obtain ⟨hkind, htext⟩ := Attribute.agrees_iff.1 h
  rw [relocate, relocate, hkind, Spanned.relocate_forget_eq htext]

/-- Lists of attributes that agree are the same when places are forgotten. -/
theorem Attribute.map_relocate_forget_eq {as bs : List Attribute}
    (h : Attribute.allAgree as bs = true) :
    as.map (relocate .forget) = bs.map (relocate .forget) := by
  exact forall₂_eq_iff_map_eq.1 ((Attribute.allAgree_iff.1 h).imp fun _ _ => relocate_forget_eq)

/-- Edges that agree are the same when places are forgotten. -/
theorem Edge.relocate_forget_eq {a b : Edge} (h : a.agrees b = true) :
    a.relocate .forget = b.relocate .forget := by
  obtain ⟨hsource, htarget, hattributes⟩ := Edge.agrees_iff.1 h
  rw [relocate, relocate, Spanned.relocate_forget_eq hsource, Spanned.relocate_forget_eq htarget,
    Attribute.map_relocate_forget_eq hattributes]

/-- Lists of edges that agree are the same when places are forgotten. -/
theorem Edge.map_relocate_forget_eq {as bs : List Edge} (h : Edge.allAgree as bs = true) :
    as.map (relocate .forget) = bs.map (relocate .forget) := by
  exact forall₂_eq_iff_map_eq.1 ((Edge.allAgree_iff.1 h).imp fun _ _ => relocate_forget_eq)

/-- Forests that agree are the same when places are forgotten. -/
theorem Node.relocateAll_forget_eq {ns ns' : List Node} (h : Node.allAgree ns ns' = true) :
    relocateAll .forget ns = relocateAll .forget ns' := by
  induction ns using Node.forest_induction generalizing ns' with
  | nil =>
    rw [Node.allAgree_iff, List.forall₂_nil_left_iff] at h
    rw [h]
  | cons n rest ihChildren ihRest =>
    rw [Node.allAgree_iff, List.forall₂_cons_left_iff] at h
    obtain ⟨n', rest', hn, hrest, rfl⟩ := h
    obtain ⟨hid, hattributes, hedges, hchildren⟩ := Node.agrees_iff.1 hn
    rw [relocateAll, relocateAll, ihRest (Node.allAgree_iff.2 hrest), relocate_eq, relocate_eq,
      Spanned.relocate_forget_eq hid, Attribute.map_relocate_forget_eq hattributes,
      Edge.map_relocate_forget_eq hedges, ← relocateAll_eq_map, ← relocateAll_eq_map,
      ihChildren hchildren]

namespace Diagram

variable {d d' : Diagram}

/-- Diagrams that agree are the same when places are forgotten. -/
theorem relocate_forget_eq (h : d.agrees d' = true) :
    d.relocate .forget = d'.relocate .forget := by
  rw [relocate, relocate, Node.relocateAll_forget_eq h]

/-- The findings in diagrams that agree do so too, under every policy. -/
theorem agrees_analyze (h : d.agrees d' = true) (policy : Policy) :
    (d.analyze policy).Agrees (d'.analyze policy) := by
  apply Findings.agrees_of_relocate_eq .forget
  rw [← analyze_relocate, ← analyze_relocate, relocate_forget_eq h]

end Diagram

end DiagramCheck
