import DiagramCheck.Proofs.Findings

/-!
# The warnings of an analysis

`Diagram.untargeted` are the ids of a diagram that no edge points at: each at its first declaration,
in the order of these, whatever the nesting. The analysis finds out about them in another way. It
looks among the declared targets only, and takes the entry point away before it looks at all.
Neither makes a difference: a target that is not declared is no id (`Diagram.contains_referenced`),
and the entry point comes first and only once (`Diagram.firsts_ids_eq_cons`). So the warnings are
the untargeted ids, without the entry point if that is exempt (`Diagram.analyze_warnings_spec`).
-/

namespace DiagramCheck

/-- The id that a warning is about. -/
def Warning.id : Warning → Spanned
  | .unreachableNode id => id

namespace Spanned

/-- The first id of a row is one that comes for the first time. -/
theorem head?_firsts (ids : List Spanned) : (firsts ids).head? = ids.head? := by
  induction ids using List.reverseRecOn with
  | nil => rfl
  | append_singleton ids id ih =>
    rw [firsts_concat, List.head?_append, List.head?_append, ih]
    -- The last id is the first one of the row exactly when nothing stands in front of it.
    cases ids with
    | nil => rfl
    | cons first rest => rfl

/-- Without an entry that comes only at the front, a part of a row is the part without the front. -/
theorem erase_filter_cons {id : Spanned} {ids : List Spanned} (p : Spanned → Bool) (h : id ∉ ids) :
    ((id :: ids).filter p).erase id = ids.filter p := by
  have hrest : id ∉ ids.filter p := fun hmem => h (List.mem_of_mem_filter hmem)
  rw [List.filter_cons]
  split
  · rw [List.erase_cons_head]
  · exact List.erase_of_not_mem hrest

end Spanned

namespace Diagram

/-- The texts that the edges of a diagram point at, at any depth. -/
def targetTexts (d : Diagram) : List String :=
  d.edges.map fun e => e.target.text

/-- The ids that no edge points at, each where it is declared first. -/
def untargeted (d : Diagram) : List Spanned :=
  (Spanned.firsts d.ids).filter fun id => !d.targetTexts.contains id.text

/-- Edges point at a declared id exactly when they point at its text. -/
theorem contains_referenced {d : Diagram} {id : Spanned} (h : id ∈ Spanned.firsts d.ids) :
    d.references.referenced.contains id.text = d.targetTexts.contains id.text := by
  have hdeclared : id.text ∈ d.idTexts := Spanned.mem_map_text_firsts.1 (List.mem_map_of_mem h)
  rw [references_eq, targetTexts, Bool.eq_iff_iff, List.contains_iff_mem, List.contains_iff_mem,
    List.mem_map, List.mem_map]
  constructor
  · rintro ⟨e, he, htext⟩
    exact ⟨e, (List.mem_filter.1 he).1, htext⟩
  · rintro ⟨e, he, htext⟩
    have htarget : d.idTexts.contains e.target.text = true := by
      rw [List.contains_iff_mem, htext]
      exact hdeclared
    exact ⟨e, List.mem_filter.2 ⟨he, htarget⟩, htext⟩

/-- The id of the first node comes first among the ids that are declared, and only there. -/
theorem firsts_ids_eq_cons {d : Diagram} {n : Node} {rest : List Node} (h : d.nodes = n :: rest) :
    ∃ others, Spanned.firsts d.ids = n.id :: others ∧ n.id ∉ others := by
  have hhead : (Spanned.firsts d.ids).head? = some n.id := by
    rw [Spanned.head?_firsts, ids, h, List.map_cons, List.head?_cons]
  obtain ⟨others, hothers⟩ := List.head?_eq_some_iff.1 hhead
  have hnodup : (n.id.text :: others.map Spanned.text).Nodup := by
    rw [← List.map_cons, ← hothers]
    exact Spanned.nodup_map_text_firsts d.ids
  exact ⟨others, hothers, fun hmem => (List.nodup_cons.1 hnodup).1 (List.mem_map_of_mem hmem)⟩

/-- What is left of the declared ids when those that edges point at are taken away. -/
theorem unreachable_eq (d : Diagram) {n : Node} {rest : List Node} (h : d.nodes = n :: rest)
    (policy : Policy) :
    policy.unreachable d.declarations.declared d.references.referenced =
      (if policy.exemptEntryPoint then d.untargeted.erase n.id else d.untargeted).map
        .unreachableNode := by
  have hfilter : ∀ ids : List Spanned, (∀ id ∈ ids, id ∈ Spanned.firsts d.ids) →
      (ids.filter fun id => !d.references.referenced.contains id.text) =
        ids.filter fun id => !d.targetTexts.contains id.text := by
    intro ids hids
    exact List.filter_congr fun id hid => by rw [contains_referenced (hids id hid)]
  obtain ⟨others, hfirsts, hothers⟩ := firsts_ids_eq_cons h
  rw [Policy.unreachable, declarations_eq, untargeted]
  cases policy.exemptEntryPoint with
  | false => exact congrArg _ (hfilter _ fun id hid => hid)
  | true =>
    -- The entry point is taken away in front of the filter, which is the same as behind it.
    have htail : ∀ id ∈ others, id ∈ Spanned.firsts d.ids := by
      rw [hfirsts]
      exact fun id hid => List.mem_cons_of_mem n.id hid
    simp only [if_true]
    rw [hfirsts, List.tail_cons, hfilter others htail, Spanned.erase_filter_cons _ hothers]

/-- No two untargeted ids have the same text. -/
theorem nodup_map_text_untargeted (d : Diagram) : (d.untargeted.map Spanned.text).Nodup :=
  (List.filter_sublist.map Spanned.text).nodup (Spanned.nodup_map_text_firsts d.ids)

/-- The warnings of an analysis of a diagram with a first node. -/
theorem warnings_analyze {d : Diagram} {n : Node} {rest : List Node} (h : d.nodes = n :: rest)
    (policy : Policy) :
    (d.analyze policy).warnings =
      if policy.reportUnreachable then
        (if policy.exemptEntryPoint then d.untargeted.erase n.id else d.untargeted).map
          .unreachableNode
      else [] := by
  have hisEmpty : ¬d.isEmpty = true := by
    intro hempty
    rw [nodes, List.isEmpty_iff.1 hempty, Node.preOrderAll] at h
    cases h
  rw [analyze, if_neg hisEmpty]
  simp only [unreachable_eq d h]

/-- A diagram is empty exactly when it has no id. -/
theorem isEmpty_eq_isEmpty_ids (d : Diagram) : d.isEmpty = d.ids.isEmpty := by
  obtain ⟨_ | ⟨n, others⟩⟩ := d
  · rfl
  · rw [ids, nodes, Node.preOrderAll_cons, List.map_cons]
    rfl

/-- A diagram with a node has a first id. -/
theorem exists_ids_eq_cons {d : Diagram} (h : d.topLevel ≠ []) :
    ∃ entry others, d.ids = entry :: others := by
  refine List.exists_cons_of_ne_nil fun hids => h ?_
  have hempty := d.isEmpty_eq_isEmpty_ids
  rw [hids, isEmpty] at hempty
  exact List.isEmpty_iff.1 hempty

/-- The errors where there is an id. -/
theorem errors_analyze_of_ids {d : Diagram} {entry : Spanned} {others : List Spanned}
    (h : d.ids = entry :: others) (policy : Policy) :
    (d.analyze policy).errors = d.repeatedIds ++ d.danglingEdges := by
  rw [errors_analyze, isEmpty_eq_isEmpty_ids, h]
  rfl

/-- The warnings where there is an id. -/
theorem warnings_analyze_of_ids {d : Diagram} {entry : Spanned} {others : List Spanned}
    (h : d.ids = entry :: others) (policy : Policy) :
    (d.analyze policy).warnings =
      if policy.reportUnreachable then
        (if policy.exemptEntryPoint then d.untargeted.erase entry else d.untargeted).map
          .unreachableNode
      else [] := by
  obtain ⟨n, rest, hnodes, rfl, -⟩ := List.map_eq_cons_iff.1 h
  exact warnings_analyze hnodes policy

/-- An untargeted id is one of the ids of a diagram, and its text is none of those that edges point
at. -/
theorem mem_and_notMem_of_mem_untargeted {d : Diagram} {id : Spanned} (h : id ∈ d.untargeted) :
    id ∈ d.ids ∧ id.text ∉ d.targetTexts := by
  obtain ⟨hfirst, htarget⟩ := List.mem_filter.1 h
  rw [Bool.not_eq_true', ← Bool.not_eq_true, List.contains_iff_mem] at htarget
  exact ⟨Spanned.mem_of_mem_firsts hfirst, htarget⟩

/-- Every warning is about an id that no edge points at. -/
theorem id_mem_untargeted {d : Diagram} {policy : Policy} {w : Warning}
    (h : w ∈ (d.analyze policy).warnings) : w.id ∈ d.untargeted := by
  obtain ⟨_ | ⟨n, others⟩⟩ := d
  · cases h
  rw [warnings_analyze (Node.preOrderAll_cons n others) policy] at h
  split at h
  · obtain ⟨id, hid, rfl⟩ := List.mem_map.1 h
    split at hid
    · exact List.mem_of_mem_erase hid
    · exact hid
  · cases h

/-- The warnings of an analysis are its reference definition: there are none where they are not
asked for or where there is no node; otherwise they are the ids that no edge points at, each where
it is declared first, in the order of the declarations, and of these the id of the very first node
is left out if the entry point is exempt. No id is reported twice. -/
theorem analyze_warnings_spec (d : Diagram) (policy : Policy) :
    ((policy.reportUnreachable = false ∨ d.topLevel = []) ∧ (d.analyze policy).warnings = [] ∨
      policy.reportUnreachable = true ∧ ∃ n rest, d.nodes = n :: rest ∧
        (d.analyze policy).warnings =
          (if policy.exemptEntryPoint then d.untargeted.erase n.id else d.untargeted).map
            .unreachableNode) ∧
    ((d.analyze policy).warnings.map fun w => w.id.text).Nodup := by
  by_cases hempty : d.topLevel = []
  · have hisEmpty : d.isEmpty = true := List.isEmpty_iff.2 hempty
    have hnone : (d.analyze policy).warnings = [] := by rw [analyze, if_pos hisEmpty]
    exact ⟨.inl ⟨.inr hempty, hnone⟩, by rw [hnone]; exact List.nodup_nil⟩
  obtain ⟨n, others, hcons⟩ := List.exists_cons_of_ne_nil hempty
  have hnodes : d.nodes = n :: (Node.preOrderAll n.children ++ Node.preOrderAll others) := by
    rw [nodes, hcons, Node.preOrderAll_cons]
  have hwarnings := warnings_analyze hnodes policy
  cases hreport : policy.reportUnreachable with
  | false =>
    rw [hreport, if_neg Bool.false_ne_true] at hwarnings
    exact ⟨.inl ⟨.inl rfl, hwarnings⟩, by rw [hwarnings]; exact List.nodup_nil⟩
  | true =>
    rw [hreport, if_pos rfl] at hwarnings
    refine ⟨.inr ⟨rfl, n, _, hnodes, hwarnings⟩, ?_⟩
    have hnodup := d.nodup_map_text_untargeted
    rw [hwarnings, List.map_map]
    split
    · exact (List.erase_sublist.map Spanned.text).nodup hnodup
    · exact hnodup

/-- Of `node a { calls a { } } node b { } node b { }`, only the first `b` is reported. Without an
edge the entry point `a` is reported as well, unless it is exempt. -/
example :
    let a : Spanned := ⟨"a", .ofBounds 5 6⟩
    let b : Spanned := ⟨"b", .ofBounds 28 29⟩
    let bs : List Node := [.ofId b, .ofId ⟨"b", .ofBounds 39 40⟩]
    let reported (n : Node) (exempt : Bool) := (Diagram.analyze ⟨n :: bs⟩ ⟨exempt, true⟩).warnings
    reported ⟨a, [], [⟨a, ⟨"a", .ofBounds 15 16⟩, []⟩], []⟩ false = [.unreachableNode b] ∧
      reported (.ofId a) false = [.unreachableNode a, .unreachableNode b] ∧
      reported (.ofId a) true = [.unreachableNode b] := by
  decide

end Diagram

end DiagramCheck
