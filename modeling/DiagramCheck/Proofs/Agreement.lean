import DiagramCheck.Diagram.Agreement
import Mathlib.Data.List.Forall2

/-!
# Agreement, part by part

Agreement of lists is agreement entry by entry, so a pair of agreeing lists can be taken apart like
the lists themselves.
-/

namespace DiagramCheck

/-- Two lists have the same images one by one exactly when they have the same list of images. -/
theorem forall₂_eq_iff_map_eq {α β γ : Type} {f : α → γ} {g : β → γ} {as : List α} {bs : List β} :
    List.Forall₂ (fun a b => f a = g b) as bs ↔ as.map f = bs.map g := by
  rw [← List.forall₂_eq_eq_eq, List.forall₂_map_left_iff, List.forall₂_map_right_iff]

/-- Two pieces of text agree exactly when their texts are equal. -/
theorem Spanned.agrees_iff {a b : Spanned} : a.agrees b = true ↔ a.text = b.text := by
  simp [Spanned.agrees]

/-- Two attributes agree exactly when their kinds and the texts of their values are equal. -/
theorem Attribute.agrees_iff {a b : Attribute} :
    a.agrees b = true ↔ a.kind = b.kind ∧ a.value.text = b.value.text := by
  simp [Attribute.agrees, Spanned.agrees_iff]

/-- Lists of attributes agree exactly when they do so entry by entry. -/
theorem Attribute.allAgree_iff {as bs : List Attribute} :
    Attribute.allAgree as bs = true ↔ List.Forall₂ (fun a b => a.agrees b = true) as bs := by
  induction as generalizing bs with
  | nil => cases bs <;> simp [Attribute.allAgree]
  | cons a as ih => cases bs <;> simp [Attribute.allAgree, ih]

/-- Two edges agree exactly when their ends have the same texts and their attributes agree. -/
theorem Edge.agrees_iff {a b : Edge} :
    a.agrees b = true ↔ a.source.text = b.source.text ∧ a.target.text = b.target.text ∧
      Attribute.allAgree a.attributes b.attributes = true := by
  simp [Edge.agrees, Spanned.agrees_iff, and_assoc]

/-- Lists of edges agree exactly when they do so entry by entry. -/
theorem Edge.allAgree_iff {as bs : List Edge} :
    Edge.allAgree as bs = true ↔ List.Forall₂ (fun a b => a.agrees b = true) as bs := by
  induction as generalizing bs with
  | nil => cases bs <;> simp [Edge.allAgree]
  | cons a as ih => cases bs <;> simp [Edge.allAgree, ih]

/-- Two nodes agree exactly when their ids have the same text and their three lists agree. -/
theorem Node.agrees_iff {a b : Node} :
    a.agrees b = true ↔ a.id.text = b.id.text ∧
      Attribute.allAgree a.attributes b.attributes = true ∧
      Edge.allAgree a.edges b.edges = true ∧ Node.allAgree a.children b.children = true := by
  cases a
  cases b
  simp [Node.agrees, Spanned.agrees_iff, and_assoc]

/-- Forests agree exactly when they do so node by node. -/
theorem Node.allAgree_iff {as bs : List Node} :
    Node.allAgree as bs = true ↔ List.Forall₂ (fun a b => a.agrees b = true) as bs := by
  induction as generalizing bs with
  | nil => cases bs <;> simp [Node.allAgree]
  | cons a as ih => cases bs <;> simp [Node.allAgree, ih]

/-- The nodes of forests that agree do so one by one in pre-order. -/
theorem Node.forall₂_preOrderAll {ns ns' : List Node} (h : Node.allAgree ns ns' = true) :
    List.Forall₂ (fun a b => a.agrees b = true) (preOrderAll ns) (preOrderAll ns') := by
  induction ns using Node.forest_induction generalizing ns' with
  | nil =>
    rw [Node.allAgree_iff, List.forall₂_nil_left_iff] at h
    subst h
    exact .nil
  | cons n rest ihchildren ihrest =>
    rw [Node.allAgree_iff, List.forall₂_cons_left_iff] at h
    obtain ⟨n', rest', hn, hrest, rfl⟩ := h
    have hchildren := ihchildren (Node.agrees_iff.1 hn).2.2.2
    rw [preOrderAll_cons, preOrderAll_cons]
    exact .cons hn (List.rel_append hchildren (ihrest (Node.allAgree_iff.2 hrest)))

/-- The edges of diagrams that agree do so one by one. -/
theorem Diagram.forall₂_edges {d d' : Diagram} (h : d.agrees d' = true) :
    List.Forall₂ (fun a b => a.agrees b = true) d.edges d'.edges :=
  List.rel_flatMap (Node.forall₂_preOrderAll h) fun _ _ hn =>
    Edge.allAgree_iff.1 (Node.agrees_iff.1 hn).2.2.1

end DiagramCheck
