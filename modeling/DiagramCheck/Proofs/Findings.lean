import DiagramCheck.Analysis
import DiagramCheck.Proofs.Agreement
import DiagramCheck.Proofs.Traversal
import Mathlib.Data.Finset.Card

/-!
# The errors of an analysis

`Spanned.firsts` and `Spanned.repeats` say of a row of ids which of them come for the first time,
and which repeat the text of an earlier one. The first traversal of an analysis gathers just these
(`Diagram.declarations_eq`), whatever the nesting, and the second one the edges whose target has the
text of no id at all (`Diagram.references_eq`). `Diagram.errors_analyze` puts the two together, and
`Diagram.analyze_errors_spec` adds what follows: how many ids are repeated, and that neither the
policy nor the attributes matter.
-/

namespace DiagramCheck

/-! ## Repeated ids -/

namespace Spanned

/-- The first id with a given text, if there is one. -/
def earliest? (ids : List Spanned) (text : String) : Option Spanned :=
  ids.find? fun id => id.text == text

/-- Every id, together with the ids in front of it. -/
def withEarlier (ids : List Spanned) : List (List Spanned × Spanned) :=
  ids.zipIdx.map fun p => (ids.take p.2, p.1)

/-- The ids whose text no id in front of them has. -/
def firsts (ids : List Spanned) : List Spanned :=
  ((withEarlier ids).filter fun p => (earliest? p.1 p.2.text).isNone).map Prod.snd

/-- A defect for each id whose text an id in front of it has, with the place of the first such. -/
def repeats (ids : List Spanned) : List Defect :=
  (withEarlier ids).filterMap fun p =>
    (earliest? p.1 p.2.text).map fun first => .duplicateNodeId p.2 ⟨p.2.text, first.span⟩

/-- Of three nodes `a`, the second and the third both go back to the first. -/
example : repeats [⟨"a", .ofBounds 5 6⟩, ⟨"a", .ofBounds 16 17⟩, ⟨"a", .ofBounds 27 28⟩] =
    [.duplicateNodeId ⟨"a", .ofBounds 16 17⟩ ⟨"a", .ofBounds 5 6⟩,
      .duplicateNodeId ⟨"a", .ofBounds 27 28⟩ ⟨"a", .ofBounds 5 6⟩] := by
  decide

/-- No id has a given text exactly when that is not among the texts of the ids. -/
theorem earliest?_eq_none_iff {ids : List Spanned} {text : String} :
    earliest? ids text = none ↔ text ∉ ids.map Spanned.text := by
  rw [earliest?, List.find?_eq_none, List.mem_map]
  constructor
  · rintro h ⟨id, hid, rfl⟩
    exact h id hid (beq_self_eq_true _)
  · intro h id hid htext
    exact h ⟨id, hid, beq_iff_eq.1 htext⟩

/-- A text is looked for in one row of ids, and then in the row behind it. -/
theorem earliest?_append (ids ids' : List Spanned) (text : String) :
    earliest? (ids ++ ids') text = (earliest? ids text).or (earliest? ids' text) :=
  List.find?_append

/-- The first id with a given text has that text. -/
theorem text_of_earliest? {ids : List Spanned} {text : String} {first : Spanned}
    (h : earliest? ids text = some first) : first.text = text :=
  beq_iff_eq.1 (List.find?_some (p := fun id : Spanned => id.text == text) h)

/-- One more id behind a row has the whole row in front of it. -/
theorem withEarlier_concat (ids : List Spanned) (id : Spanned) :
    withEarlier (ids ++ [id]) = withEarlier ids ++ [(ids, id)] := by
  -- The ids in front of the others stay as they are.
  have hbefore : (ids.zipIdx.map fun p => ((ids ++ [id]).take p.2, p.1)) = withEarlier ids := by
    refine List.map_congr_left fun p hp => ?_
    have hlt : p.2 < ids.length := by
      have := List.mem_zipIdx hp
      omega
    rw [List.take_append_of_le_length (by omega)]
  rw [withEarlier, List.zipIdx_append, List.map_append, hbefore]
  simp

/-- The ids that go with an id of a row stand right in front of it. -/
theorem exists_of_mem_withEarlier {ids : List Spanned} {p : List Spanned × Spanned}
    (h : p ∈ withEarlier ids) : ∃ after, ids = p.1 ++ p.2 :: after := by
  obtain ⟨⟨id, k⟩, hmem, rfl⟩ := List.mem_map.1 h
  obtain ⟨-, hlt, hid⟩ := List.mem_zipIdx hmem
  have hlt : k < ids.length := by omega
  have hget : ids[k] = id := by simpa using hid.symm
  refine ⟨ids.drop (k + 1), ?_⟩
  rw [← hget, List.cons_getElem_drop_succ, List.take_append_drop]

/-- The first ids are some of the row. -/
theorem mem_of_mem_firsts {ids : List Spanned} {id : Spanned} (h : id ∈ firsts ids) : id ∈ ids := by
  obtain ⟨p, hp, rfl⟩ := List.mem_map.1 h
  obtain ⟨after, hids⟩ := exists_of_mem_withEarlier (List.mem_filter.1 hp).1
  rw [hids]
  simp

/-- A repeated id has the text of an earlier one, the one that the defect shows. -/
theorem exists_of_mem_repeats {ids : List Spanned} {e : Defect} (h : e ∈ repeats ids) :
    ∃ before id after first, ids = before ++ id :: after ∧ first ∈ before ∧
      first.text = id.text ∧ e = .duplicateNodeId id first := by
  obtain ⟨⟨before, id⟩, hp, hdefect⟩ := List.mem_filterMap.1 h
  obtain ⟨first, hfirst, rfl⟩ := Option.map_eq_some_iff.1 hdefect
  obtain ⟨after, hids⟩ := exists_of_mem_withEarlier hp
  have htext : first.text = id.text := text_of_earliest? hfirst
  refine ⟨before, id, after, first, hids, List.mem_of_find?_eq_some hfirst, htext, ?_⟩
  rw [← htext]

/-- One more id is a first one exactly when no id of the row has its text. -/
theorem firsts_concat (ids : List Spanned) (id : Spanned) :
    firsts (ids ++ [id]) =
      firsts ids ++ if (earliest? ids id.text).isNone then [id] else [] := by
  rw [firsts, withEarlier_concat, List.filter_append, List.map_append]
  congr 1
  cases hfirst : earliest? ids id.text <;> simp [hfirst]

/-- One more id is a repeated one exactly when some id of the row has its text. -/
theorem repeats_concat (ids : List Spanned) (id : Spanned) :
    repeats (ids ++ [id]) = repeats ids ++
      ((earliest? ids id.text).map fun first =>
        Defect.duplicateNodeId id ⟨id.text, first.span⟩).toList := by
  rw [repeats, withEarlier_concat, List.filterMap_append]
  rfl

/-- The first id with a given text is found among those that come for the first time. -/
theorem earliest?_firsts (ids : List Spanned) (text : String) :
    earliest? (firsts ids) text = earliest? ids text := by
  induction ids using List.reverseRecOn with
  | nil => rfl
  | append_singleton ids id ih =>
    rw [firsts_concat, earliest?_append, earliest?_append, ih]
    by_cases htext : id.text = text
    · -- If the id is left out, that is because its text is found in front of it.
      subst htext
      cases earliest? ids id.text <;> rfl
    · have hid : earliest? [id] text = none := by simp [earliest?, htext]
      rw [hid]
      split
      · rw [hid]
      · rfl

/-- Every id comes for the first time or is repeated. -/
theorem length_firsts_add_length_repeats (ids : List Spanned) :
    (firsts ids).length + (repeats ids).length = ids.length := by
  induction ids using List.reverseRecOn with
  | nil => rfl
  | append_singleton ids id ih =>
    rw [firsts_concat, repeats_concat]
    cases earliest? ids id.text <;> simp <;> omega

/-- The texts of the ids that come for the first time are those of all ids. -/
theorem mem_map_text_firsts {ids : List Spanned} {text : String} :
    text ∈ (firsts ids).map Spanned.text ↔ text ∈ ids.map Spanned.text := by
  rw [← not_iff_not, ← earliest?_eq_none_iff, ← earliest?_eq_none_iff, earliest?_firsts]

/-- No two ids that come for the first time have the same text. -/
theorem nodup_map_text_firsts (ids : List Spanned) : ((firsts ids).map Spanned.text).Nodup := by
  induction ids using List.reverseRecOn with
  | nil => exact List.nodup_nil
  | append_singleton ids id ih =>
    rw [firsts_concat]
    cases hid : earliest? ids id.text with
    | some first => simpa using ih
    | none =>
      rw [earliest?_eq_none_iff, ← mem_map_text_firsts] at hid
      have happend : (firsts ids ++ [id]).map Spanned.text =
          ((firsts ids).map Spanned.text).concat id.text := by
        simp
      rw [Option.isNone_none, if_pos rfl, happend]
      exact ih.concat hid

/-- There are as many ids that come for the first time as there are different texts. -/
theorem length_firsts (ids : List Spanned) :
    (firsts ids).length = (ids.map Spanned.text).toFinset.card := by
  have htexts : (ids.map Spanned.text).toFinset = ((firsts ids).map Spanned.text).toFinset := by
    ext text
    rw [List.mem_toFinset, List.mem_toFinset, mem_map_text_firsts]
  rw [htexts, List.toFinset_card_of_nodup (nodup_map_text_firsts ids), List.length_map]

end Spanned

/-- The first traversal gathers the ids that come for the first time and a defect for each other. -/
theorem Declarations.foldl_add (ids : List Spanned) :
    ids.foldl add ⟨[], []⟩ = ⟨Spanned.firsts ids, Spanned.repeats ids⟩ := by
  -- The induction is on the ids from the front on, as the traversal meets them.
  induction ids using List.reverseRecOn with
  | nil => rfl
  | append_singleton ids id ih =>
    have hfirst : first? ⟨Spanned.firsts ids, Spanned.repeats ids⟩ id =
        Spanned.earliest? ids id.text := Spanned.earliest?_firsts ids id.text
    rw [List.foldl_append, ih, List.foldl_cons, List.foldl_nil, add, hfirst,
      Spanned.firsts_concat, Spanned.repeats_concat]
    cases hid : Spanned.earliest? ids id.text with
    | some first =>
      have htext : first.text = id.text := Spanned.text_of_earliest? hid
      simp [← htext]
    | none => simp

namespace Diagram

/-- The texts of all ids, in pre-order. -/
def idTexts (d : Diagram) : List String :=
  d.ids.map Spanned.text

/-- The defects of the ids that repeat the text of an earlier one. -/
def repeatedIds (d : Diagram) : List Defect :=
  Spanned.repeats d.ids

/-- The defects of the edges whose target has the text of no id at any depth. -/
def danglingEdges (d : Diagram) : List Defect :=
  (d.edges.filter fun e => !d.idTexts.contains e.target.text).map fun e =>
    .danglingEdge e.source e.target

/-- What the first traversal gathers from a diagram. -/
theorem declarations_eq (d : Diagram) : d.declarations = ⟨Spanned.firsts d.ids, d.repeatedIds⟩ :=
  (Visitor.run_eq_foldl_ids Declarations.add ⟨[], []⟩ d).trans (Declarations.foldl_add d.ids)

/-- An id is declared exactly when its text is that of some id of the diagram. -/
theorem isSome_first?_declarations (d : Diagram) (id : Spanned) :
    (d.declarations.first? id).isSome = d.idTexts.contains id.text := by
  have hfirst : d.declarations.first? id = Spanned.earliest? d.ids id.text := by
    rw [declarations_eq]
    exact Spanned.earliest?_firsts d.ids id.text
  rw [hfirst, Bool.eq_iff_iff, Option.isSome_iff_ne_none, ne_eq, Spanned.earliest?_eq_none_iff,
    not_not, List.contains_iff_mem, idTexts]

end Diagram

/-- The second traversal gathers the targets that are declared, and a defect for each edge whose
target is not. -/
theorem References.foldl_add (ds : Declarations) (edges : List Edge) (rs : References) :
    edges.foldl (fun rs e => add ds rs e e.target) rs =
      ⟨rs.referenced ++
          (edges.filter fun e => (ds.first? e.target).isSome).map fun e => e.target.text,
        rs.dangling ++ (edges.filter fun e => !(ds.first? e.target).isSome).map fun e =>
          .danglingEdge e.source e.target⟩ := by
  induction edges generalizing rs with
  | nil => simp
  | cons e edges ih =>
    rw [List.foldl_cons, ih, add]
    cases hid : ds.first? e.target with
    | some id =>
      have htext : id.text = e.target.text := Spanned.text_of_earliest? hid
      simp [hid, htext]
    | none => simp [hid]

namespace Diagram

/-- What the second traversal gathers from a diagram. -/
theorem references_eq (d : Diagram) :
    d.references = ⟨(d.edges.filter fun e => d.idTexts.contains e.target.text).map fun e =>
      e.target.text, d.danglingEdges⟩ := by
  have hrun := Visitor.run_eq_foldl_edges (References.add d.declarations) ⟨[], []⟩ d
  rw [References.foldl_add] at hrun
  simp only [isSome_first?_declarations, List.nil_append] at hrun
  exact hrun

/-! ## All errors -/

/-- The errors of an analysis. -/
theorem errors_analyze (d : Diagram) (policy : Policy) :
    (d.analyze policy).errors =
      if d.isEmpty then [.emptyDiagram] else d.repeatedIds ++ d.danglingEdges := by
  rw [analyze]
  split
  · rfl
  · rw [declarations_eq, references_eq]

end Diagram

/-! ## Diagrams without errors -/

namespace Diagram

/-- No id is repeated exactly when the texts of all ids are different. -/
theorem repeatedIds_eq_nil_iff {d : Diagram} : d.repeatedIds = [] ↔ d.idTexts.Nodup := by
  have hlength := Spanned.length_firsts_add_length_repeats d.ids
  rw [Spanned.length_firsts] at hlength
  have hcard : d.idTexts.toFinset.card = d.idTexts.length ↔ d.idTexts.Nodup :=
    Multiset.toFinset_card_eq_card_iff_nodup
  rw [← hcard, ← List.length_eq_zero_iff, repeatedIds, idTexts, List.length_map]
  omega

/-- No edge dangles exactly when the target of every edge is the text of some id. -/
theorem danglingEdges_eq_nil_iff {d : Diagram} :
    d.danglingEdges = [] ↔ ∀ e ∈ d.edges, e.target.text ∈ d.idTexts := by
  rw [danglingEdges, List.map_eq_nil_iff, List.filter_eq_nil_iff]
  refine forall₂_congr fun e _ => ?_
  rw [Bool.not_eq_true', Bool.not_eq_false, List.contains_iff_mem]

/-- What an analysis without errors says of a diagram: it has a node, no id comes twice, and the
target of every edge is declared. -/
structure WellFormed (d : Diagram) : Prop where
  /-- There is a node. -/
  topLevel_ne_nil : d.topLevel ≠ []
  /-- No two nodes have the same id. -/
  nodup_idTexts : d.idTexts.Nodup
  /-- Every edge points at the id of a node. -/
  target_mem : ∀ e ∈ d.edges, e.target.text ∈ d.idTexts

/-- The errors are empty exactly for well-formed diagrams. -/
theorem errors_analyze_eq_nil_iff {d : Diagram} {policy : Policy} :
    (d.analyze policy).errors = [] ↔ d.WellFormed := by
  rw [errors_analyze]
  split
  · next hempty =>
    refine ⟨nofun, fun h => absurd (List.isEmpty_iff.1 hempty) h.topLevel_ne_nil⟩
  · next hempty =>
    rw [List.append_eq_nil_iff, repeatedIds_eq_nil_iff, danglingEdges_eq_nil_iff]
    constructor
    · rintro ⟨hids, htargets⟩
      exact ⟨fun h => hempty (List.isEmpty_iff.2 h), hids, htargets⟩
    · intro h
      exact ⟨h.nodup_idTexts, h.target_mem⟩

/-- Diagrams that agree have the same texts of ids. -/
theorem idTexts_eq_of_agrees {d d' : Diagram} (h : d.agrees d' = true) :
    d.idTexts = d'.idTexts := by
  have htexts := (Node.forall₂_preOrderAll h).imp fun n n' hn => (Node.agrees_iff.1 hn).1
  rw [idTexts, idTexts, ids, ids, List.map_map, List.map_map]
  exact forall₂_eq_iff_map_eq.1 htexts

/-- A diagram that agrees with a well-formed one is well-formed. -/
theorem WellFormed.of_agrees {d d' : Diagram} (hd : d.WellFormed) (h : d'.agrees d = true) :
    d'.WellFormed := by
  have hids : d'.idTexts = d.idTexts := idTexts_eq_of_agrees h
  refine ⟨fun hempty => ?_, hids ▸ hd.nodup_idTexts, fun e' he' => ?_⟩
  · rw [agrees, hempty, Node.allAgree_iff, List.forall₂_nil_left_iff] at h
    exact hd.topLevel_ne_nil h
  · -- The edge at the same place of the other diagram points at the same text.
    obtain ⟨i, hi', rfl⟩ := List.getElem_of_mem he'
    have hedges := forall₂_edges h
    have hi : i < d.edges.length := hedges.length_eq ▸ hi'
    have hagrees := hedges.get hi' hi
    rw [List.get_eq_getElem, List.get_eq_getElem, Edge.agrees_iff] at hagrees
    rw [hids, hagrees.2.1]
    exact hd.target_mem d.edges[i] (List.getElem_mem hi)

end Diagram

/-! ## What the errors depend on -/

/-- An edge without its attributes. -/
def Edge.withoutAttributes (e : Edge) : Edge :=
  ⟨e.source, e.target, []⟩

mutual

/-- A node without its attributes and those of its edges and nested nodes. -/
def Node.withoutAttributes : Node → Node
  | ⟨id, _, edges, children⟩ =>
    ⟨id, [], edges.map Edge.withoutAttributes, Node.allWithoutAttributes children⟩

/-- The nodes of a forest without their attributes. -/
def Node.allWithoutAttributes : List Node → List Node
  | [] => []
  | n :: rest => n.withoutAttributes :: Node.allWithoutAttributes rest

end

/-- A diagram without its attributes. -/
def Diagram.withoutAttributes (d : Diagram) : Diagram :=
  ⟨Node.allWithoutAttributes d.topLevel⟩

/-- The name of a node is no attribute. -/
theorem Node.id_withoutAttributes (n : Node) : n.withoutAttributes.id = n.id := by
  cases n
  rfl

/-- The edges of a node stay, without their attributes. -/
theorem Node.edges_withoutAttributes (n : Node) :
    n.withoutAttributes.edges = n.edges.map Edge.withoutAttributes := by
  cases n
  rfl

/-- The nodes nested in a node stay, without their attributes. -/
theorem Node.children_withoutAttributes (n : Node) :
    n.withoutAttributes.children = Node.allWithoutAttributes n.children := by
  cases n
  rfl

/-- The pre-order of a forest stays, without the attributes. -/
theorem Node.preOrderAll_allWithoutAttributes (ns : List Node) :
    preOrderAll (allWithoutAttributes ns) = (preOrderAll ns).map withoutAttributes := by
  induction ns using Node.forest_induction with
  | nil => rfl
  | cons n rest ihchildren ihrest =>
    rw [allWithoutAttributes, preOrderAll_cons, preOrderAll_cons, children_withoutAttributes,
      ihchildren, ihrest, List.map_cons, List.map_append]

namespace Diagram

/-- A diagram without its attributes has the same ids. -/
theorem ids_withoutAttributes (d : Diagram) : d.withoutAttributes.ids = d.ids := by
  rw [ids, ids, nodes, nodes, withoutAttributes, Node.preOrderAll_allWithoutAttributes,
    List.map_map]
  exact List.map_congr_left fun n _ => n.id_withoutAttributes

/-- A diagram without its attributes has the same edges, without theirs. -/
theorem edges_withoutAttributes (d : Diagram) :
    d.withoutAttributes.edges = d.edges.map Edge.withoutAttributes := by
  rw [edges, edges, nodes, nodes, withoutAttributes, Node.preOrderAll_allWithoutAttributes,
    List.flatMap_map, List.map_flatMap]
  simp only [Node.edges_withoutAttributes]

/-- A diagram without its attributes has the same dangling edges. -/
theorem danglingEdges_withoutAttributes (d : Diagram) :
    d.withoutAttributes.danglingEdges = d.danglingEdges := by
  rw [danglingEdges, danglingEdges, edges_withoutAttributes, idTexts, idTexts,
    ids_withoutAttributes, List.filter_map, List.map_map]
  rfl

/-- A diagram without its attributes has a node exactly when it has one with them. -/
theorem isEmpty_withoutAttributes (d : Diagram) : d.withoutAttributes.isEmpty = d.isEmpty := by
  obtain ⟨ns⟩ := d
  cases ns <;> rfl

/-- The errors do not depend on the policy or on the attributes. -/
theorem errors_analyze_withoutAttributes (d : Diagram) (policy policy' : Policy) :
    (d.withoutAttributes.analyze policy').errors = (d.analyze policy).errors := by
  rw [errors_analyze, errors_analyze, isEmpty_withoutAttributes, repeatedIds, repeatedIds,
    ids_withoutAttributes, danglingEdges_withoutAttributes]

/-! ## The specification of the errors -/

/-- There are as many duplicates as nodes beyond the first of each id. -/
theorem countP_duplicateNodeId (d : Diagram) (policy : Policy) :
    (d.analyze policy).errors.countP (fun e => e.code == .duplicateNodeId) +
      d.idTexts.toFinset.card = d.nodeCount := by
  -- All repeated ids are duplicates, and no dangling edge is.
  have hrepeats : d.repeatedIds.countP (fun e => e.code == .duplicateNodeId) =
      d.repeatedIds.length := by
    rw [List.countP_eq_length]
    intro e he
    obtain ⟨p, -, hp⟩ := List.mem_filterMap.1 he
    obtain ⟨first, -, rfl⟩ := Option.map_eq_some_iff.1 hp
    rfl
  have hdangling : d.danglingEdges.countP (fun e => e.code == .duplicateNodeId) = 0 := by
    rw [List.countP_eq_zero]
    intro e he
    obtain ⟨edge, -, rfl⟩ := List.mem_map.1 he
    exact Bool.false_ne_true
  -- The other nodes come first with their ids, one for each text.
  have hlength : (Spanned.firsts d.ids).length + d.repeatedIds.length = d.nodeCount := by
    rw [repeatedIds, Spanned.length_firsts_add_length_repeats, ids, List.length_map, nodeCount]
  rw [Spanned.length_firsts] at hlength
  rw [errors_analyze]
  split
  · next hempty =>
    have hnodes : d.nodes = [] := by
      rw [nodes, List.isEmpty_iff.1 hempty, Node.preOrderAll]
    rw [idTexts, ids, nodeCount, hnodes]
    rfl
  · rw [List.countP_append, hrepeats, hdangling, idTexts]
    omega

/-- The errors of an analysis are its reference definition: an empty diagram has no other finding;
in any other, the ids that repeat the text of an earlier one come in pre-order, each with the place
of the first declaration of its text, and behind them, in pre-order of their nodes, the edges whose
target is the text of no id at any depth. There are as many duplicates as nodes beyond the different
ids, and neither the policy nor the attributes change any error. -/
theorem analyze_errors_spec (d : Diagram) (policy : Policy) :
    (d.topLevel = [] ∧ d.analyze policy = ⟨[.emptyDiagram], []⟩ ∨
      d.topLevel ≠ [] ∧ (d.analyze policy).errors = d.repeatedIds ++ d.danglingEdges) ∧
    (d.analyze policy).errors.countP (fun e => e.code == .duplicateNodeId) +
      d.idTexts.toFinset.card = d.nodeCount ∧
    ∀ policy', (d.withoutAttributes.analyze policy').errors = (d.analyze policy).errors := by
  refine ⟨?_, d.countP_duplicateNodeId policy, d.errors_analyze_withoutAttributes policy⟩
  by_cases hempty : d.topLevel = []
  · have hisEmpty : d.isEmpty = true := List.isEmpty_iff.2 hempty
    exact .inl ⟨hempty, by rw [analyze, if_pos hisEmpty]⟩
  · have hisEmpty : ¬d.isEmpty = true := fun h => hempty (List.isEmpty_iff.1 h)
    exact .inr ⟨hempty, by rw [errors_analyze, if_neg hisEmpty]⟩

end Diagram

end DiagramCheck
