import DiagramCheck.Proofs.Warnings

/-!
# Repairs of a diagram

The analysis suggests two repairs. A dangling edge asks for a node to be declared, and an
unreachable node for an edge that points at it. `Diagram.repair_spec` says what they do to the
findings, wherever they are made and whatever else is wrong: the node takes away the dangling edges
that point at it, and is reported in turn if there are none; the edge takes away the warning about
its target. So no number of repairs brings in an error.

Both are read off from what the findings are made of. A node at the end adds one id behind the
others (`Diagram.ids_declareLast`), and an inserted edge adds one edge somewhere among the others
(`Diagram.EdgeInserted.exists_edges`).
-/

namespace DiagramCheck

/-! ## The two repairs -/

/-- The diagram with one more node behind all others, with an empty body. -/
def Diagram.declareLast (d : Diagram) (id : Spanned) : Diagram :=
  ⟨d.topLevel ++ [.ofId id]⟩

/-- A forest gets one more edge, at some place among the edges of one of its nodes. -/
inductive Node.EdgeInserted (e : Edge) : List Node → List Node → Prop
  /-- The first node of the forest gets it. -/
  | here (id : Spanned) (attributes : List Attribute) (before after : List Edge)
    (children rest : List Node) :
    EdgeInserted e (⟨id, attributes, before ++ after, children⟩ :: rest)
      (⟨id, attributes, before ++ e :: after, children⟩ :: rest)
  /-- One of the nodes nested in the first node gets it. -/
  | inside (id : Spanned) (attributes : List Attribute) (edges : List Edge)
    {children children' : List Node} (rest : List Node)
    (nested : EdgeInserted e children children') :
    EdgeInserted e (⟨id, attributes, edges, children⟩ :: rest)
      (⟨id, attributes, edges, children'⟩ :: rest)
  /-- One of the nodes behind the first one gets it. -/
  | behind (n : Node) {rest rest' : List Node} (further : EdgeInserted e rest rest') :
    EdgeInserted e (n :: rest) (n :: rest')

/-- A diagram gets one more edge, at some place among the edges of one of its nodes. -/
def Diagram.EdgeInserted (e : Edge) (d d' : Diagram) : Prop :=
  Node.EdgeInserted e d.topLevel d'.topLevel

/-- `d.Repair d'` says that a repair of one diagram leads to the other. -/
inductive Diagram.Repair (d : Diagram) : Diagram → Prop
  /-- An id is declared that was not. -/
  | declare (id : Spanned) (new : id.text ∉ d.idTexts) : d.Repair (d.declareLast id)
  /-- An edge is inserted that points at a declared id. -/
  | connect {e : Edge} {d' : Diagram} (inserted : Diagram.EdgeInserted e d d')
    (declared : e.target.text ∈ d.idTexts) : d.Repair d'

/-- Whether a defect is an edge that points at a text and at no node. -/
def Defect.danglesAt (text : String) : Defect → Bool
  | .danglingEdge _ target => target.text == text
  | .emptyDiagram => false
  | .duplicateNodeId _ _ => false

/-- A repeated id is no edge. -/
theorem Spanned.filter_danglesAt_repeats (ids : List Spanned) (text : String) :
    ((repeats ids).filter fun e => !e.danglesAt text) = repeats ids := by
  rw [List.filter_eq_self]
  intro e he
  obtain ⟨before, id, after, first, -, -, -, rfl⟩ := exists_of_mem_repeats he
  rfl

namespace Diagram

variable {d : Diagram}

/-! ## A node behind the others -/

/-- A node behind the others comes last in pre-order. -/
theorem nodes_declareLast (id : Spanned) : (d.declareLast id).nodes = d.nodes ++ [.ofId id] :=
  Node.preOrderAll_append d.topLevel [.ofId id]

/-- A node behind the others adds its id behind theirs. -/
theorem ids_declareLast (id : Spanned) : (d.declareLast id).ids = d.ids ++ [id] := by
  rw [ids, nodes_declareLast, List.map_append]
  rfl

/-- A node behind the others is not the entry point. -/
theorem ids_declareLast_of_ids {entry : Spanned} {others : List Spanned}
    (h : d.ids = entry :: others) (id : Spanned) :
    (d.declareLast id).ids = entry :: (others ++ [id]) := by
  rw [ids_declareLast, h, List.cons_append]

/-- A node with an empty body adds no edge. -/
theorem edges_declareLast (id : Spanned) : (d.declareLast id).edges = d.edges := by
  rw [edges, nodes_declareLast, List.flatMap_append]
  exact List.append_nil _

/-- A new id repeats no other. -/
theorem repeatedIds_declareLast {id : Spanned} (h : id.text ∉ d.idTexts) :
    (d.declareLast id).repeatedIds = d.repeatedIds := by
  rw [repeatedIds, ids_declareLast, Spanned.repeats_concat, Spanned.earliest?_eq_none_iff.2 h]
  exact List.append_nil _

/-- The edges that still dangle are those that point at another text than that of the new id. -/
theorem danglingEdges_declareLast (id : Spanned) :
    (d.declareLast id).danglingEdges = d.danglingEdges.filter fun e => !e.danglesAt id.text := by
  rw [danglingEdges, danglingEdges, edges_declareLast, idTexts, ids_declareLast, List.map_append,
    List.filter_map, List.filter_filter]
  congr 1
  refine List.filter_congr fun e _ => ?_
  -- A target is declared now if it was so before, or if it is the new id.
  rw [List.contains_append, Bool.not_or, Bool.and_comm, List.map_singleton, List.contains_cons,
    List.contains_nil, Bool.or_false]
  rfl

/-- The new id is among those that no edge points at, if this is so. -/
theorem untargeted_declareLast {id : Spanned} (h : id.text ∉ d.idTexts) :
    (d.declareLast id).untargeted =
      d.untargeted ++ if id.text ∉ d.targetTexts then [id] else [] := by
  have htexts : (d.declareLast id).targetTexts = d.targetTexts := by
    rw [targetTexts, edges_declareLast, targetTexts]
  rw [untargeted, ids_declareLast, Spanned.firsts_concat, Spanned.earliest?_eq_none_iff.2 h, htexts,
    Option.isNone_none, if_pos rfl, List.filter_append, List.filter_singleton, untargeted]
  by_cases htarget : id.text ∈ d.targetTexts <;> simp [htarget]

/-- A new id adds at most the warning about itself, behind the others. -/
theorem warnings_declareLast (hd : d.topLevel ≠ []) {id : Spanned} (h : id.text ∉ d.idTexts)
    (policy : Policy) :
    ((d.declareLast id).analyze policy).warnings =
      (d.analyze policy).warnings ++
        if policy.reportUnreachable = true ∧ id.text ∉ d.targetTexts then [.unreachableNode id]
        else [] := by
  obtain ⟨entry, others, hids⟩ := exists_ids_eq_cons hd
  have hids' := ids_declareLast_of_ids hids id
  -- The entry point is an id of the diagram, so it is not the new one.
  have hentry : entry ∉ if id.text ∉ d.targetTexts then [id] else [] := by
    intro hmem
    have hid : entry = id := by
      split at hmem
      · exact List.mem_singleton.1 hmem
      · cases hmem
    refine h ?_
    rw [idTexts, hids, ← hid]
    exact List.mem_cons_self
  have herase : (d.declareLast id).untargeted.erase entry =
      d.untargeted.erase entry ++ if id.text ∉ d.targetTexts then [id] else [] := by
    rw [untargeted_declareLast h, List.erase_append]
    split
    · rfl
    · next hnot => rw [List.erase_of_not_mem hnot, List.erase_of_not_mem hentry]
  rw [warnings_analyze_of_ids hids' policy, warnings_analyze_of_ids hids policy, herase,
    untargeted_declareLast h]
  cases policy.reportUnreachable with
  | false => rfl
  | true =>
    cases policy.exemptEntryPoint <;> by_cases htarget : id.text ∈ d.targetTexts <;> simp [htarget]

/-! ## One more edge -/

section

variable {e : Edge} {d' : Diagram}

/-- An inserted edge leaves the ids as they are. -/
theorem EdgeInserted.ids_eq (h : EdgeInserted e d d') : d'.ids = d.ids := by
  have hnodes : ∀ ns ns', Node.EdgeInserted e ns ns' →
      (Node.preOrderAll ns').map Node.id = (Node.preOrderAll ns).map Node.id := by
    intro ns ns' hns
    induction hns with
    | here id attributes before after children rest => rfl
    | inside id attributes edges rest nested ih =>
      simp only [Node.preOrderAll_cons, List.map_cons, List.map_append, ih]
    | behind n further ih =>
      simp only [Node.preOrderAll_cons, List.map_cons, List.map_append, ih]
  exact hnodes d.topLevel d'.topLevel h

/-- An inserted edge comes somewhere among the others. -/
theorem EdgeInserted.exists_edges (h : EdgeInserted e d d') :
    ∃ before after, d.edges = before ++ after ∧ d'.edges = before ++ e :: after := by
  have hnodes : ∀ ns ns', Node.EdgeInserted e ns ns' → ∃ before after,
      (Node.preOrderAll ns).flatMap Node.edges = before ++ after ∧
        (Node.preOrderAll ns').flatMap Node.edges = before ++ e :: after := by
    intro ns ns' hns
    induction hns with
    | here id attributes before after children rest =>
      refine ⟨before, after ++ (Node.preOrderAll children ++ Node.preOrderAll rest).flatMap
        Node.edges, ?_, ?_⟩ <;> simp [Node.preOrderAll_cons]
    | inside id attributes edges rest nested ih =>
      obtain ⟨before, after, hchildren, hchildren'⟩ := ih
      refine ⟨edges ++ before, after ++ (Node.preOrderAll rest).flatMap Node.edges, ?_, ?_⟩
      · simp [Node.preOrderAll_cons, hchildren]
      · simp [Node.preOrderAll_cons, hchildren']
    | behind n further ih =>
      obtain ⟨before, after, hrest, hrest'⟩ := ih
      refine ⟨n.edges ++ (Node.preOrderAll n.children).flatMap Node.edges ++ before, after, ?_, ?_⟩
      · simp [Node.preOrderAll_cons, hrest]
      · simp [Node.preOrderAll_cons, hrest']
  exact hnodes d.topLevel d'.topLevel h

/-- An inserted edge that points at a declared id does not dangle. -/
theorem EdgeInserted.danglingEdges_eq (h : EdgeInserted e d d')
    (htarget : e.target.text ∈ d.idTexts) : d'.danglingEdges = d.danglingEdges := by
  obtain ⟨before, after, hedges, hedges'⟩ := h.exists_edges
  have hdeclared : (!d.idTexts.contains e.target.text) = false := by
    rw [List.contains_iff_mem.2 htarget]
    rfl
  rw [danglingEdges, danglingEdges, hedges, hedges', idTexts, h.ids_eq, ← idTexts,
    List.filter_append, List.filter_append, List.filter_cons_of_neg (by rw [hdeclared]; decide)]

/-- Of the ids that no edge points at, an inserted edge takes away its target. -/
theorem EdgeInserted.untargeted_eq (h : EdgeInserted e d d') :
    d'.untargeted = d.untargeted.filter fun id => id.text != e.target.text := by
  obtain ⟨before, after, hedges, hedges'⟩ := h.exists_edges
  rw [untargeted, untargeted, h.ids_eq, List.filter_filter]
  refine List.filter_congr fun id _ => ?_
  -- The edges point at a text now if they did so before, or if it is that of the new target.
  rw [targetTexts, targetTexts, hedges, hedges', Bool.eq_iff_iff]
  simp only [List.map_append, List.map_cons, List.contains_append, List.contains_cons, bne,
    Bool.not_or, Bool.and_eq_true]
  tauto

/-- An inserted edge takes away the warning about its target, and no other. -/
theorem EdgeInserted.warnings_eq (h : EdgeInserted e d d') (hd : d.topLevel ≠ [])
    (policy : Policy) :
    (d'.analyze policy).warnings =
      (d.analyze policy).warnings.filter fun w => w.id.text != e.target.text := by
  obtain ⟨entry, others, hids⟩ := exists_ids_eq_cons hd
  have hids' : d'.ids = entry :: others := h.ids_eq.trans hids
  rw [warnings_analyze_of_ids hids' policy, warnings_analyze_of_ids hids policy, h.untargeted_eq,
    List.erase_filter]
  cases policy.reportUnreachable with
  | false => rfl
  | true =>
    simp only [if_true, ← apply_ite, List.filter_map]
    cases policy.exemptEntryPoint <;> rfl

/-- An inserted edge needs a node. -/
theorem EdgeInserted.topLevel_ne_nil (h : EdgeInserted e d d') : d'.topLevel ≠ [] := by
  have hsome : ∀ ns ns', Node.EdgeInserted e ns ns' → ns' ≠ [] := by
    rintro ns ns' (_ | _ | _) <;> exact List.cons_ne_nil _ _
  exact hsome d.topLevel d'.topLevel h

end

/-! ## What repairs do -/

/-- A new node behind the others takes away the dangling edges that point at it. -/
theorem errors_declareLast (hd : d.topLevel ≠ []) {id : Spanned} (h : id.text ∉ d.idTexts)
    (policy : Policy) :
    ((d.declareLast id).analyze policy).errors =
      (d.analyze policy).errors.filter fun e => !e.danglesAt id.text := by
  obtain ⟨entry, others, hids⟩ := exists_ids_eq_cons hd
  have hids' := ids_declareLast_of_ids hids id
  have hrepeats := Spanned.filter_danglesAt_repeats d.ids id.text
  rw [errors_analyze_of_ids hids' policy, errors_analyze_of_ids hids policy,
    repeatedIds_declareLast h, danglingEdges_declareLast, List.filter_append, repeatedIds, hrepeats]

/-- An inserted edge that points at a declared id changes no error. -/
theorem EdgeInserted.errors_eq {e : Edge} {d' : Diagram} (h : EdgeInserted e d d')
    (hd : d.topLevel ≠ []) (htarget : e.target.text ∈ d.idTexts) (policy : Policy) :
    (d'.analyze policy).errors = (d.analyze policy).errors := by
  obtain ⟨entry, others, hids⟩ := exists_ids_eq_cons hd
  have hids' : d'.ids = entry :: others := h.ids_eq.trans hids
  rw [errors_analyze_of_ids hids' policy, errors_analyze_of_ids hids policy, repeatedIds, h.ids_eq,
    h.danglingEdges_eq htarget, repeatedIds]

/-- A repair keeps the diagram from being empty, and brings in no error. -/
theorem Repair.sublist_errors {d' : Diagram} (h : d.Repair d') (hd : d.topLevel ≠ [])
    (policy : Policy) :
    d'.topLevel ≠ [] ∧ (d'.analyze policy).errors.Sublist (d.analyze policy).errors := by
  cases h with
  | declare id hnew =>
    refine ⟨List.append_ne_nil_of_right_ne_nil _ (List.cons_ne_nil _ _), ?_⟩
    rw [errors_declareLast hd hnew policy]
    exact List.filter_sublist
  | connect hinserted hdeclared =>
    refine ⟨hinserted.topLevel_ne_nil, ?_⟩
    rw [hinserted.errors_eq hd hdeclared policy]

/-- What repairs do to the findings in a diagram with a node, under every policy.

* A node that is declared behind all others for a new id takes away the dangling edges that point
  at it, and no other error. It adds one warning about itself if no edge points at it and warnings
  are asked for.
* An edge that is inserted anywhere and points at a declared id changes no error. It takes away the
  warning about its target, and no other.
* However many repairs are made, the errors are some of those in front of them. -/
theorem repair_spec (hd : d.topLevel ≠ []) (policy : Policy) :
    (∀ id : Spanned, id.text ∉ d.idTexts →
      ((d.declareLast id).analyze policy).errors =
          (d.analyze policy).errors.filter (fun e => !e.danglesAt id.text) ∧
        ((d.declareLast id).analyze policy).warnings =
          (d.analyze policy).warnings ++
            if policy.reportUnreachable = true ∧ id.text ∉ d.targetTexts then
              [.unreachableNode id]
            else []) ∧
    (∀ e d', EdgeInserted e d d' → e.target.text ∈ d.idTexts →
      (d'.analyze policy).errors = (d.analyze policy).errors ∧
        (d'.analyze policy).warnings =
          (d.analyze policy).warnings.filter fun w => w.id.text != e.target.text) ∧
    ∀ d', Relation.ReflTransGen Repair d d' →
      (d'.analyze policy).errors.Sublist (d.analyze policy).errors := by
  refine ⟨fun id hnew => ⟨errors_declareLast hd hnew policy, warnings_declareLast hd hnew policy⟩,
    fun e d' hinserted hdeclared =>
      ⟨hinserted.errors_eq hd hdeclared policy, hinserted.warnings_eq hd policy⟩, ?_⟩
  intro d' hrepairs
  have hall : d'.topLevel ≠ [] ∧
      (d'.analyze policy).errors.Sublist (d.analyze policy).errors := by
    -- The induction is on the repairs, and each of them finds a diagram with a node.
    induction hrepairs with
    | refl => exact ⟨hd, List.Sublist.refl _⟩
    | tail _ hlast ih =>
      obtain ⟨hne, hsublist⟩ := hlast.sublist_errors ih.1 policy
      exact ⟨hne, hsublist.trans ih.2⟩
  exact hall.2

/-- In `node a { calls c { } node b { } }`, a node `c` takes away the one error, and an edge from
`b` to itself the one warning. -/
theorem repair_spec_nested :
    let a : Spanned := ⟨"a", .ofBounds 5 6⟩
    let b : Spanned := ⟨"b", .ofBounds 26 27⟩
    let c : Spanned := ⟨"c", .ofBounds 15 16⟩
    let d : Diagram := ⟨[⟨a, [], [⟨a, c, []⟩], [.ofId b]⟩]⟩
    let d' : Diagram := ⟨[⟨a, [], [⟨a, c, []⟩], [⟨b, [], [⟨b, b, []⟩], []⟩]⟩]⟩
    d.analyze .standard = ⟨[.danglingEdge a c], [.unreachableNode b]⟩ ∧
      ((d.declareLast c).analyze .standard).errors = [] ∧
      ((d.declareLast c).analyze .standard).warnings = [.unreachableNode b] ∧
      (d'.analyze .standard).errors = [.danglingEdge a c] ∧
      (d'.analyze .standard).warnings = [] := by
  intro a b c d d'
  have hfindings : d.analyze .standard = ⟨[.danglingEdge a c], [.unreachableNode b]⟩ := by decide
  obtain ⟨hdeclare, hconnect, -⟩ := repair_spec (d := d) (List.cons_ne_nil _ _) .standard
  obtain ⟨herrors, hwarnings⟩ := hdeclare c (by decide)
  have hinserted : EdgeInserted ⟨b, b, []⟩ d d' := .inside a [] _ [] (.here b [] [] [] [] [])
  obtain ⟨herrors', hwarnings'⟩ := hconnect ⟨b, b, []⟩ d' hinserted (by decide)
  rw [hfindings] at herrors hwarnings herrors' hwarnings'
  exact ⟨hfindings, herrors, hwarnings, herrors', hwarnings'⟩

end Diagram

end DiagramCheck
