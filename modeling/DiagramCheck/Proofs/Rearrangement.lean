import DiagramCheck.Proofs.FindingsAlike
import DiagramCheck.Proofs.Verdict
import DiagramCheck.Proofs.Warnings

/-!
# The order of the declarations

Siblings may be declared in any order, and so may the edges of a node. The order shows in the
findings: it decides which of several declarations of an id is the first one, in which places the
others are reported, and which node is the entry point. `Diagram.judgedAlike` says that it decides
on nothing else. `Diagram.Rearranged` is what may be done to a diagram, and `Diagram.JudgedAlike`
what the findings then have in common.

Two facts carry this. Rearranged diagrams have the same ids and the same edges up to their order
(`Node.Rearranged.perm_flatMap`). And the ids that come for the first time have all texts once, in
any order of the ids, so what is left over for the repeated ones is the same up to the order as well
(`Spanned.perm_repeats`).
-/

namespace DiagramCheck

/-! ## Rearranged diagrams -/

/-- Two forests are the same up to the order of siblings at any depth and of the edges of each
node. -/
inductive Node.Rearranged : List Node → List Node → Prop
  /-- There is nothing to rearrange. -/
  | nil : Rearranged [] []
  /-- The first node stays in front, and is rearranged inside. -/
  | cons (id : Spanned) (attributes : List Attribute) {edges edges' : List Edge}
    {children children' rest rest' : List Node} (reordered : edges.Perm edges')
    (nested : Rearranged children children') (further : Rearranged rest rest') :
    Rearranged (⟨id, attributes, edges, children⟩ :: rest)
      (⟨id, attributes, edges', children'⟩ :: rest')
  /-- The first two nodes change places. -/
  | swap (n n' : Node) (rest : List Node) : Rearranged (n :: n' :: rest) (n' :: n :: rest)
  /-- One rearrangement follows the other. -/
  | trans {ns ns' ns'' : List Node} (first : Rearranged ns ns') (second : Rearranged ns' ns'') :
    Rearranged ns ns''

/-- A forest may be left as it is. -/
theorem Node.Rearranged.refl (ns : List Node) : Rearranged ns ns := by
  induction ns using Node.forest_induction with
  | nil => exact .nil
  | cons n rest ihChildren ihRest =>
    obtain ⟨id, attributes, edges, children⟩ := n
    exact .cons id attributes (List.Perm.refl edges) ihChildren ihRest

/-- The nodes of a forest may be put in any other order. -/
theorem Node.Rearranged.of_perm {ns ns' : List Node} (h : ns.Perm ns') : Rearranged ns ns' := by
  induction h with
  | nil => exact .nil
  | cons n _ ih =>
    obtain ⟨id, attributes, edges, children⟩ := n
    exact .cons id attributes (List.Perm.refl edges) (.refl children) ih
  | swap n n' rest => exact .swap n' n rest
  | trans _ _ ihFirst ihSecond => exact .trans ihFirst ihSecond

/-- Two diagrams are the same up to the order of siblings at any depth and of the edges of each
node. -/
def Diagram.Rearranged (d d' : Diagram) : Prop :=
  Node.Rearranged d.topLevel d'.topLevel

/-- What rearranged forests have at their nodes is the same up to the order, as long as it is so at
a node whose edges are put in another order. -/
theorem Node.Rearranged.perm_flatMap {β : Type} {f : Node → List β}
    (hf : ∀ id attributes edges edges' children children', List.Perm edges edges' →
      (f ⟨id, attributes, edges, children⟩).Perm (f ⟨id, attributes, edges', children'⟩))
    {ns ns' : List Node} (h : Rearranged ns ns') :
    ((preOrderAll ns).flatMap f).Perm ((preOrderAll ns').flatMap f) := by
  induction h with
  | nil => exact List.Perm.refl _
  | cons id attributes reordered nested further ihNested ihFurther =>
    rw [preOrderAll_cons, preOrderAll_cons, List.flatMap_cons, List.flatMap_cons,
      List.flatMap_append, List.flatMap_append]
    exact (hf id attributes _ _ _ _ reordered).append (ihNested.append ihFurther)
  | swap n n' rest =>
    -- Each of the two nodes takes along what is nested in it.
    rw [preOrderAll, preOrderAll, preOrderAll, preOrderAll]
    exact List.Perm.flatMap_right f (List.perm_append_comm_assoc _ _ _)
  | trans first second ihFirst ihSecond => exact ihFirst.trans ihSecond

/-! ## Texts in another order -/

/-- Lists whose entries have the same values in another order are permutations of each other, up to
the values. -/
theorem exists_forall₂_perm {β γ : Type} {f : β → γ} {xs ys : List β}
    (h : (xs.map f).Perm (ys.map f)) :
    ∃ l, List.Forall₂ (fun x y => f x = f y) xs l ∧ l.Perm ys := by
  have hvalues : List.Forall₂ (fun v y => v = f y) (ys.map f) ys :=
    List.forall₂_map_left_iff.2 (List.forall₂_same.2 fun y _ => rfl)
  obtain ⟨l, hl, hperm⟩ := List.perm_comp_forall₂ h hvalues
  exact ⟨l, List.forall₂_map_left_iff.1 hl, hperm⟩

/-- The defect of an id that is declared before, without places. -/
def Defect.repeated (text : String) : Defect :=
  .duplicateNodeId ⟨text, Span.origin⟩ ⟨text, Span.origin⟩

namespace Spanned

/-- The ids come for the first time or are repeated, if their places are forgotten. -/
theorem perm_firsts_append_repeats (ids : List Spanned) :
    (((firsts ids).map text).map Defect.repeated ++
      (repeats ids).map (Defect.relocate .forget)).Perm ((ids.map text).map Defect.repeated) := by
  induction ids using List.reverseRecOn with
  | nil => exact List.Perm.refl _
  | append_singleton ids id ih =>
    have hconcat := ih.append_right [Defect.repeated id.text]
    rw [firsts_concat, repeats_concat]
    simp only [List.map_append]
    cases earliest? ids id.text with
    | some first =>
      -- The id is repeated, and stands behind the others already.
      have hforget : (Defect.duplicateNodeId id ⟨id.text, first.span⟩).relocate .forget =
          Defect.repeated id.text := rfl
      rw [List.append_assoc] at hconcat
      simpa [hforget] using hconcat
    | none =>
      -- The id comes for the first time, and stands in front of the repeated ones.
      have hmiddle : (((firsts ids).map text).map Defect.repeated ++ [Defect.repeated id.text] ++
          (repeats ids).map (Defect.relocate .forget)).Perm
            (((firsts ids).map text).map Defect.repeated ++
              (repeats ids).map (Defect.relocate .forget) ++ [Defect.repeated id.text]) := by
        rw [List.append_assoc, List.append_assoc]
        exact List.perm_append_comm.append_left _
      simpa using hmiddle.trans hconcat

variable {ids ids' : List Spanned}

/-- The order of the ids has no say in the texts that come for the first time. -/
theorem perm_firsts (h : (ids.map text).Perm (ids'.map text)) :
    ((firsts ids).map text).Perm ((firsts ids').map text) := by
  rw [List.perm_ext_iff_of_nodup (nodup_map_text_firsts ids) (nodup_map_text_firsts ids')]
  intro text
  rw [mem_map_text_firsts, mem_map_text_firsts, h.mem_iff]

/-- The order of the ids has no say in the texts that are repeated, and in how often they are. -/
theorem perm_repeats (h : (ids.map text).Perm (ids'.map text)) :
    ((repeats ids).map (Defect.relocate .forget)).Perm
      ((repeats ids').map (Defect.relocate .forget)) := by
  have hids := h.map Defect.repeated
  have hfirsts := (perm_firsts h).map Defect.repeated
  -- The first ids are the same on both sides, and are taken away from all ids.
  have hall := (perm_firsts_append_repeats ids).trans
    (hids.trans (perm_firsts_append_repeats ids').symm)
  exact (List.perm_append_left_iff _).1 (hall.trans (hfirsts.symm.append_right _))

end Spanned

/-! ## What findings have in common -/

namespace Findings

/-- The texts of the ids that are warned about. -/
def warnedTexts (f : Findings) : Finset String :=
  (f.warnings.map fun w => w.id.text).toFinset

/-- Where warnings are not denied, findings pass exactly when there are no errors. -/
theorem isOk_check_false (f : Findings) : (f.check false).isOk = f.isOk := by
  have hblocks : (f.reported false).any Diagnostic.isError = true ↔ f.errors ≠ [] := by
    rw [any_isError_reported, Blocks]
    simp only [Bool.false_eq_true, false_and, or_false]
  rw [check_eq, isOk]
  by_cases herrors : f.errors = []
  · rw [if_neg fun hany => hblocks.1 hany herrors, herrors]
    rfl
  · rw [if_pos (hblocks.2 herrors), List.isEmpty_eq_false_iff.2 herrors]
    rfl

/-- Where warnings are not denied, a failure counts the errors. -/
theorem errorCount_of_check_false {f : Findings} {failure : CheckFailure}
    (h : f.check false = .error failure) : failure.errorCount = f.errors.length := by
  rw [check_eq] at h
  split at h
  · cases h
    exact f.errorCount_reported false
  · cases h

end Findings

namespace Diagram

/-- The texts that are declared and that no edge points at. -/
def untargetedTexts (d : Diagram) : Finset String :=
  d.idTexts.toFinset \ d.targetTexts.toFinset

/-- What the findings in two diagrams have in common when these differ only in their order. -/
structure JudgedAlike (policy : Policy) (d d' : Diagram) : Prop where
  /-- The errors are permutations of each other, up to their places. -/
  errors : ∃ l, List.Forall₂ Defect.Agrees (d.analyze policy).errors l ∧
    l.Perm (d'.analyze policy).errors
  /-- Both diagrams have errors or none has. -/
  isOk : (d.analyze policy).isOk = (d'.analyze policy).isOk
  /-- Both diagrams pass or none does, where warnings are not denied. -/
  passes : ((d.analyze policy).check false).isOk = ((d'.analyze policy).check false).isOk
  /-- There are as many errors in one as in the other. -/
  errorCount : (d.analyze policy).errors.length = (d'.analyze policy).errors.length
  /-- Where both diagrams do not pass, the failures count the same errors. -/
  failureCount : ∀ failure failure', (d.analyze policy).check false = .error failure →
    (d'.analyze policy).check false = .error failure' → failure.errorCount = failure'.errorCount
  /-- The dangling edges are permutations of each other, with their places. -/
  dangling : ((d.analyze policy).errors.filter fun e => e.code == .danglingEdge).Perm
    ((d'.analyze policy).errors.filter fun e => e.code == .danglingEdge)
  /-- Without an exempt entry point, the warnings are permutations of each other, up to their
  places. -/
  warnings : policy.reportUnreachable = true → policy.exemptEntryPoint = false →
    ∃ l, List.Forall₂ Warning.Agrees (d.analyze policy).warnings l ∧
      l.Perm (d'.analyze policy).warnings
  /-- With an exempt entry point, each diagram is warned about all ids that no edge points at, which
  are the same ones in both, but for its own first id. -/
  exempt : policy.reportUnreachable = true → policy.exemptEntryPoint = true →
    d.untargetedTexts = d'.untargetedTexts ∧
      (d.analyze policy).warnedTexts =
        d.untargetedTexts.filter (fun text => d.idTexts.head? ≠ some text) ∧
      (d'.analyze policy).warnedTexts =
        d'.untargetedTexts.filter (fun text => d'.idTexts.head? ≠ some text)

/-- The dangling edges are the errors with this code. -/
theorem filter_code_errors_analyze (d : Diagram) (policy : Policy) :
    ((d.analyze policy).errors.filter fun e => e.code == .danglingEdge) = d.danglingEdges := by
  have hrepeated : d.repeatedIds.filter (fun e => e.code == .danglingEdge) = [] := by
    rw [List.filter_eq_nil_iff]
    intro e he
    obtain ⟨before, id, after, first, -, -, -, rfl⟩ := Spanned.exists_of_mem_repeats he
    exact Bool.false_ne_true
  have hdangling : d.danglingEdges.filter (fun e => e.code == .danglingEdge) =
      d.danglingEdges := by
    rw [List.filter_eq_self]
    intro e he
    obtain ⟨edge, -, rfl⟩ := List.mem_map.1 he
    rfl
  rw [errors_analyze]
  split
  · next hempty =>
    rw [danglingEdges, edges, nodes, List.isEmpty_iff.1 hempty]
    rfl
  · rw [List.filter_append, hrepeated, hdangling, List.nil_append]

/-- The ids that no edge points at have the texts that no edge points at. -/
theorem mem_map_text_untargeted {d : Diagram} {text : String} :
    text ∈ d.untargeted.map Spanned.text ↔ text ∈ d.untargetedTexts := by
  have hdeclared : text ∈ d.idTexts ↔ text ∈ (Spanned.firsts d.ids).map Spanned.text :=
    Spanned.mem_map_text_firsts.symm
  rw [untargetedTexts, Finset.mem_sdiff, List.mem_toFinset, List.mem_toFinset, hdeclared,
    List.mem_map, List.mem_map]
  constructor
  · rintro ⟨id, hid, rfl⟩
    obtain ⟨hfirst, htarget⟩ := List.mem_filter.1 hid
    exact ⟨⟨id, hfirst, rfl⟩, by simpa using htarget⟩
  · rintro ⟨⟨id, hfirst, rfl⟩, htarget⟩
    exact ⟨id, List.mem_filter.2 ⟨hfirst, by simpa using htarget⟩, rfl⟩

/-- Without an id there is nothing to warn about. -/
theorem warnings_analyze_of_ids_nil {d : Diagram} (h : d.ids = []) (policy : Policy) :
    (d.analyze policy).warnings = [] ∧ d.untargeted = [] := by
  have hisEmpty : d.isEmpty = true := by
    rw [isEmpty_eq_isEmpty_ids, h]
    rfl
  rw [analyze, if_pos hisEmpty, untargeted, h]
  exact ⟨rfl, rfl⟩

/-- The warnings without an exempt entry point. -/
theorem warnings_analyze_of_not_exempt (d : Diagram) {policy : Policy}
    (hreport : policy.reportUnreachable = true) (hexempt : policy.exemptEntryPoint = false) :
    (d.analyze policy).warnings = d.untargeted.map .unreachableNode := by
  cases hids : d.ids with
  | nil =>
    obtain ⟨hwarnings, huntargeted⟩ := warnings_analyze_of_ids_nil hids policy
    rw [hwarnings, huntargeted]
    rfl
  | cons entry others =>
    rw [warnings_analyze_of_ids hids policy, hreport, hexempt]
    rfl

/-- The texts that are warned about with an exempt entry point. -/
theorem warnedTexts_analyze_of_exempt (d : Diagram) {policy : Policy}
    (hreport : policy.reportUnreachable = true) (hexempt : policy.exemptEntryPoint = true) :
    (d.analyze policy).warnedTexts =
      d.untargetedTexts.filter fun text => d.idTexts.head? ≠ some text := by
  ext text
  rw [Findings.warnedTexts, List.mem_toFinset, Finset.mem_filter, ← mem_map_text_untargeted]
  cases hids : d.ids with
  | nil =>
    obtain ⟨hwarnings, huntargeted⟩ := warnings_analyze_of_ids_nil hids policy
    rw [hwarnings, huntargeted]
    exact iff_of_false List.not_mem_nil fun h => List.not_mem_nil h.1
  | cons entry others =>
    have hhead : d.idTexts.head? = some entry.text := by
      rw [idTexts, hids]
      rfl
    have hentry : entry ∈ Spanned.firsts d.ids := by
      refine List.mem_of_mem_head? ?_
      rw [Spanned.head?_firsts, hids]
      rfl
    have hsame : ∀ id ∈ d.untargeted, (id ≠ entry ↔ entry.text ≠ id.text) := by
      intro id hid
      have hinj := List.inj_on_of_nodup_map (Spanned.nodup_map_text_firsts d.ids)
      have hfirst : id ∈ Spanned.firsts d.ids := List.mem_of_mem_filter hid
      exact not_congr ⟨fun h => by rw [h], fun h => (hinj hentry hfirst h).symm⟩
    have herase : ∀ id, id ∈ d.untargeted.erase entry ↔ id ≠ entry ∧ id ∈ d.untargeted :=
      fun id => (List.Nodup.of_map _ d.nodup_map_text_untargeted).mem_erase_iff
    rw [warnings_analyze_of_ids hids policy, hreport, hexempt, if_pos rfl, if_pos rfl, List.map_map,
      hhead, ne_eq, Option.some_inj, List.mem_map, List.mem_map]
    constructor
    · rintro ⟨id, hid, rfl⟩
      obtain ⟨hne, huntargeted⟩ := (herase id).1 hid
      exact ⟨⟨id, huntargeted, rfl⟩, (hsame id huntargeted).1 hne⟩
    · rintro ⟨⟨id, huntargeted, rfl⟩, hne⟩
      exact ⟨id, (herase id).2 ⟨(hsame id huntargeted).2 hne, huntargeted⟩, rfl⟩

namespace Rearranged

variable {d d' : Diagram}

/-- Rearranged diagrams have the same ids. -/
theorem ids_perm (h : d.Rearranged d') : d.ids.Perm d'.ids := by
  have hperm := Node.Rearranged.perm_flatMap (f := fun n => [n.id])
    (fun _ _ _ _ _ _ _ => List.Perm.refl _) h
  rw [ids, ids, List.map_eq_flatMap, List.map_eq_flatMap]
  exact hperm

/-- Rearranged diagrams have the same edges. -/
theorem edges_perm (h : d.Rearranged d') : d.edges.Perm d'.edges :=
  Node.Rearranged.perm_flatMap (fun _ _ _ _ _ _ hedges => hedges) h

/-- Rearranged diagrams have the same dangling edges. -/
theorem danglingEdges_perm (h : d.Rearranged d') : d.danglingEdges.Perm d'.danglingEdges := by
  have hdeclared : ∀ text, d.idTexts.contains text = d'.idTexts.contains text :=
    fun _ => (h.ids_perm.map Spanned.text).contains_eq
  simp only [danglingEdges, hdeclared]
  exact (h.edges_perm.filter _).map _

/-- Rearranged diagrams have the same errors, if places are forgotten. -/
theorem errors_perm (h : d.Rearranged d') (policy : Policy) :
    ((d.analyze policy).errors.map (Defect.relocate .forget)).Perm
      ((d'.analyze policy).errors.map (Defect.relocate .forget)) := by
  have hrepeated := Spanned.perm_repeats (h.ids_perm.map Spanned.text)
  have hdangling := h.danglingEdges_perm.map (Defect.relocate .forget)
  rw [errors_analyze, errors_analyze, isEmpty_eq_isEmpty_ids, isEmpty_eq_isEmpty_ids,
    h.ids_perm.isEmpty_eq]
  split
  · exact List.Perm.refl _
  · rw [List.map_append, List.map_append]
    exact hrepeated.append hdangling

/-- Rearranged diagrams have the same texts that no edge points at. -/
theorem untargetedTexts_eq (h : d.Rearranged d') : d.untargetedTexts = d'.untargetedTexts := by
  have hids := List.toFinset_eq_of_perm _ _ (h.ids_perm.map Spanned.text)
  have htargets := List.toFinset_eq_of_perm _ _ (h.edges_perm.map fun e => e.target.text)
  rw [untargetedTexts, untargetedTexts, idTexts, idTexts, hids, targetTexts, targetTexts, htargets]

/-- Rearranged diagrams have the same warnings, if places are forgotten and no entry point is
exempt. -/
theorem warnings_perm (h : d.Rearranged d') {policy : Policy}
    (hreport : policy.reportUnreachable = true) (hexempt : policy.exemptEntryPoint = false) :
    ((d.analyze policy).warnings.map (Warning.relocate .forget)).Perm
      ((d'.analyze policy).warnings.map (Warning.relocate .forget)) := by
  have htexts : (d.untargeted.map Spanned.text).Perm (d'.untargeted.map Spanned.text) := by
    rw [List.perm_ext_iff_of_nodup d.nodup_map_text_untargeted d'.nodup_map_text_untargeted]
    intro text
    rw [mem_map_text_untargeted, mem_map_text_untargeted, h.untargetedTexts_eq]
  have hforget := htexts.map fun text => Warning.unreachableNode ⟨text, Span.origin⟩
  rw [List.map_map, List.map_map] at hforget
  rw [d.warnings_analyze_of_not_exempt hreport hexempt,
    d'.warnings_analyze_of_not_exempt hreport hexempt, List.map_map, List.map_map]
  exact hforget

end Rearranged

/-- The order of siblings and of the edges of a node decides on nothing but the order of the
findings, their places and the exempt entry point. -/
theorem judgedAlike {d d' : Diagram} (h : d.Rearranged d') (policy : Policy) :
    JudgedAlike policy d d' := by
  have herrors := h.errors_perm policy
  have hlength : (d.analyze policy).errors.length = (d'.analyze policy).errors.length := by
    have hmap := herrors.length_eq
    rwa [List.length_map, List.length_map] at hmap
  have hisOk : (d.analyze policy).isOk = (d'.analyze policy).isOk := by
    have hmap := herrors.isEmpty_eq
    rwa [List.isEmpty_map, List.isEmpty_map] at hmap
  exact {
    errors := by
      obtain ⟨l, hl, hperm⟩ := exists_forall₂_perm herrors
      exact ⟨l, hl.imp fun _ _ he => Defect.agrees_of_relocate_eq .forget he, hperm⟩
    isOk := hisOk
    passes := by rw [Findings.isOk_check_false, Findings.isOk_check_false, hisOk]
    errorCount := hlength
    failureCount := by
      intro failure failure' hfailure hfailure'
      rw [Findings.errorCount_of_check_false hfailure, Findings.errorCount_of_check_false hfailure',
        hlength]
    dangling := by
      rw [filter_code_errors_analyze, filter_code_errors_analyze]
      exact h.danglingEdges_perm
    warnings := by
      intro hreport hexempt
      obtain ⟨l, hl, hperm⟩ := exists_forall₂_perm (h.warnings_perm hreport hexempt)
      exact ⟨l, hl.imp fun _ _ hw => Warning.agrees_of_relocate_eq .forget hw, hperm⟩
    exempt := fun hreport hexempt =>
      ⟨h.untargetedTexts_eq, d.warnedTexts_analyze_of_exempt hreport hexempt,
        d'.warnedTexts_analyze_of_exempt hreport hexempt⟩ }

/-- In `node a { calls x { } calls b { } node b { } node b { } } node c { }`, the second `b` is a
duplicate and `c` is unreachable. With `c` in front, and with the edges and the nodes inside of `a`
the other way round, the other `b` is a duplicate and `a` is unreachable. -/
theorem judgedAlike_nested :
    let a : Spanned := ⟨"a", .ofBounds 5 6⟩
    let b₁ : Spanned := ⟨"b", .ofBounds 41 42⟩
    let b₂ : Spanned := ⟨"b", .ofBounds 52 53⟩
    let c : Spanned := ⟨"c", .ofBounds 65 66⟩
    let toX : Edge := ⟨a, ⟨"x", .ofBounds 15 16⟩, []⟩
    let toB : Edge := ⟨a, ⟨"b", .ofBounds 27 28⟩, []⟩
    let d : Diagram := ⟨[⟨a, [], [toX, toB], [.ofId b₁, .ofId b₂]⟩, .ofId c]⟩
    let d' : Diagram := ⟨[.ofId c, ⟨a, [], [toB, toX], [.ofId b₂, .ofId b₁]⟩]⟩
    d.analyze .standard =
        ⟨[.duplicateNodeId b₂ b₁, .danglingEdge a toX.target], [.unreachableNode c]⟩ ∧
      d'.analyze .standard =
        ⟨[.duplicateNodeId b₁ b₂, .danglingEdge a toX.target], [.unreachableNode a]⟩ ∧
      JudgedAlike .standard d d' := by
  intro a b₁ b₂ c toX toB d d'
  have hinside : Node.Rearranged d.topLevel
      [⟨a, [], [toB, toX], [.ofId b₂, .ofId b₁]⟩, .ofId c] :=
    .cons a [] (.swap toB toX []) (.of_perm (.swap _ _ [])) (.refl [.ofId c])
  have hrearranged : d.Rearranged d' := hinside.trans (.of_perm (.swap _ _ []))
  exact ⟨by decide, by decide, judgedAlike hrearranged .standard⟩

end Diagram

end DiagramCheck
