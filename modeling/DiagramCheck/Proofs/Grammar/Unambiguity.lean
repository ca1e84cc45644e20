import DiagramCheck.Proofs.Grammar

/-!
# The grammar is unambiguous

All trees of one token sequence agree (`Derives.unambiguous`). Every production ends where it can
be seen to end: items open with a keyword of their own, and a body goes on until the brace that
closes it. So two derivations of the front of one sequence take the same tokens, and leave the same
rest.
-/

namespace DiagramCheck.Grammar

/-- A label is read in one way, whatever follows it. -/
theorem LabelValue.unique {ts ts' r r' : List Token} {v v' : Spanned} (h : LabelValue ts v)
    (h' : LabelValue ts' v') (heq : ts ++ r = ts' ++ r') : v.text = v'.text ∧ r = r' := by
  cases h <;> cases h' <;> simp_all

/-- An attribute is read in one way, whatever follows it. -/
theorem AttributeDecl.unique {ts ts' r r' : List Token} {a a' : Attribute}
    (h : AttributeDecl ts a) (h' : AttributeDecl ts' a') (heq : ts ++ r = ts' ++ r') :
    a.agrees a' = true ∧ r = r' := by
  rw [Attribute.agrees_iff]
  cases h with
  | color v =>
    cases h' with
    | color v' => simp_all
    | label h' => simp at heq
  | label h =>
    cases h' with
    | color v' => simp at heq
    | label h' =>
      simp only [List.cons_append, List.cons.injEq, true_and] at heq
      obtain ⟨htext, hr⟩ := h.unique h' heq
      exact ⟨⟨rfl, htext⟩, hr⟩

/-- The names of an edge are read in one way, up to the brace behind them. -/
theorem EdgeHead.unique {id : String} {ts ts' r r' : List Token} {t t' : Spanned}
    (h : EdgeHead id ts t) (h' : EdgeHead id ts' t')
    (heq : ts ++ .lbrace :: r = ts' ++ .lbrace :: r') : t.text = t'.text ∧ r = r' := by
  cases h <;> cases h' <;> simp_all

/-! ## How items begin -/

/-- An attribute begins with its keyword. -/
theorem AttributeDecl.head_eq {ts : List Token} {a : Attribute} (h : AttributeDecl ts a) :
    ∃ rest, ts = .color :: rest ∨ ts = .label :: rest := by
  cases h with
  | color v => exact ⟨_, .inl rfl⟩
  | label h => exact ⟨_, .inr rfl⟩

/-- An edge begins with its keyword. -/
theorem EdgeDecl.head_eq {id : String} {ts : List Token} {e : Edge} (h : EdgeDecl id ts e) :
    ∃ rest, ts = .edge :: rest := by
  cases h
  exact ⟨_, rfl⟩

/-- A node begins with its keyword. -/
theorem NodeDecl.head_eq {ts : List Token} {n : Node} (h : NodeDecl ts n) :
    ∃ rest, ts = .node :: rest := by
  cases h
  exact ⟨_, rfl⟩

/-! ## Lists of items -/

/-- The attributes of an edge are read in one way, up to the brace that closes them. -/
theorem AttributeDecls.unique {ts ts' r r' : List Token} {as as' : List Attribute}
    (h : AttributeDecls ts as) (h' : AttributeDecls ts' as')
    (heq : ts ++ .rbrace :: r = ts' ++ .rbrace :: r') :
    Attribute.allAgree as as' = true ∧ r = r' := by
  induction h generalizing ts' as' with
  | nil =>
    cases h' with
    | nil => simp_all [Attribute.allAgree]
    | cons ha' _ =>
      obtain ⟨_, rfl | rfl⟩ := ha'.head_eq
      · simp at heq
      · simp at heq
  | cons ha _ ih =>
    cases h' with
    | nil =>
      obtain ⟨_, rfl | rfl⟩ := ha.head_eq
      · simp at heq
      · simp at heq
    | cons ha' hrest' =>
      simp only [List.append_assoc] at heq
      obtain ⟨hagree, hrest⟩ := ha.unique ha' heq
      obtain ⟨hagrees, hr⟩ := ih hrest' hrest
      exact ⟨by simp [Attribute.allAgree, hagree, hagrees], hr⟩

/-- An edge is read in one way, whatever follows it. -/
theorem EdgeDecl.unique {id : String} {ts ts' r r' : List Token} {e e' : Edge}
    (h : EdgeDecl id ts e) (h' : EdgeDecl id ts' e') (heq : ts ++ r = ts' ++ r') :
    e.agrees e' = true ∧ r = r' := by
  rw [Edge.agrees_iff]
  cases h with
  | intro hsource hhead hbody =>
    cases h' with
    | intro hsource' hhead' hbody' =>
      simp only [List.cons_append, List.append_assoc, List.nil_append, List.cons.injEq,
        true_and] at heq
      -- The head ends at the opening brace, and the body at the closing one.
      obtain ⟨htarget, hrest⟩ := hhead.unique hhead' heq
      obtain ⟨hattributes, hr⟩ := hbody.unique hbody' hrest
      exact ⟨⟨hsource.trans hsource'.symm, htarget, hattributes⟩, hr⟩

/-- The items of a node are read in one way, up to the brace that closes them. -/
theorem NodeItems.unique {id : String} {ts ts' r r' : List Token} {as as' : List Attribute}
    {es es' : List Edge} {ns ns' : List Node} (h : NodeItems id ts as es ns)
    (h' : NodeItems id ts' as' es' ns') (heq : ts ++ .rbrace :: r = ts' ++ .rbrace :: r') :
    (Attribute.allAgree as as' = true ∧ Edge.allAgree es es' = true ∧
      Node.allAgree ns ns' = true) ∧ r = r' := by
  -- The first token of the remaining items decides which production comes next in both.
  induction h generalizing ts' as' es' ns' r r' with
  | nil =>
    cases h' with
    | nil => simp_all [Attribute.allAgree, Edge.allAgree, Node.allAgree]
    | attr ha' _ => obtain ⟨_, rfl | rfl⟩ := ha'.head_eq <;> simp at heq
    | edge he' _ => obtain ⟨_, rfl⟩ := he'.head_eq; simp at heq
    | child _ _ => simp at heq
  | attr ha _ ih =>
    cases h' with
    | nil => obtain ⟨_, rfl | rfl⟩ := ha.head_eq <;> simp at heq
    | attr ha' hrest' =>
      simp only [List.append_assoc] at heq
      obtain ⟨hagree, hrest⟩ := ha.unique ha' heq
      obtain ⟨⟨has, hes, hns⟩, hr⟩ := ih hrest' hrest
      exact ⟨⟨by simp [Attribute.allAgree, hagree, has], hes, hns⟩, hr⟩
    | edge he' _ =>
      obtain ⟨_, rfl⟩ := he'.head_eq
      obtain ⟨_, rfl | rfl⟩ := ha.head_eq <;> simp at heq
    | child _ _ => obtain ⟨_, rfl | rfl⟩ := ha.head_eq <;> simp at heq
  | edge he _ ih =>
    cases h' with
    | nil => obtain ⟨_, rfl⟩ := he.head_eq; simp at heq
    | attr ha' _ =>
      obtain ⟨_, rfl⟩ := he.head_eq
      obtain ⟨_, rfl | rfl⟩ := ha'.head_eq <;> simp at heq
    | edge he' hrest' =>
      simp only [List.append_assoc] at heq
      obtain ⟨hagree, hrest⟩ := he.unique he' heq
      obtain ⟨⟨has, hes, hns⟩, hr⟩ := ih hrest' hrest
      exact ⟨⟨has, by simp [Edge.allAgree, hagree, hes], hns⟩, hr⟩
    | child _ _ => obtain ⟨_, rfl⟩ := he.head_eq; simp at heq
  | child _ _ ihBody ih =>
    cases h' with
    | nil => simp at heq
    | attr ha' _ => obtain ⟨_, rfl | rfl⟩ := ha'.head_eq <;> simp at heq
    | edge he' _ => obtain ⟨_, rfl⟩ := he'.head_eq; simp at heq
    | child hbody' hrest' =>
      simp only [List.cons_append, List.append_assoc, List.cons.injEq, Token.identifier.injEq,
        true_and] at heq
      obtain ⟨hid, heq⟩ := heq
      rw [← hid] at hbody'
      -- The nested bodies take the same tokens up to their closing brace, then the rest does.
      obtain ⟨⟨has, hes, hns⟩, hrest⟩ := ihBody hbody' heq
      obtain ⟨⟨has', hes', hns'⟩, hr⟩ := ih hrest' hrest
      have hagree := Node.agrees_iff.2 ⟨hid, has, hes, hns⟩
      exact ⟨⟨has', hes', by simp [Node.allAgree, hagree, hns']⟩, hr⟩

/-- A node is read in one way, whatever follows it. -/
theorem NodeDecl.unique {ts ts' r r' : List Token} {n n' : Node} (h : NodeDecl ts n)
    (h' : NodeDecl ts' n') (heq : ts ++ r = ts' ++ r') : n.agrees n' = true ∧ r = r' := by
  cases h with
  | intro hbody =>
    cases h' with
    | intro hbody' =>
      simp only [List.cons_append, List.append_assoc, List.nil_append, List.cons.injEq,
        Token.identifier.injEq, true_and] at heq
      obtain ⟨hid, heq⟩ := heq
      rw [← hid] at hbody'
      obtain ⟨⟨has, hes, hns⟩, hr⟩ := hbody.unique hbody' heq
      exact ⟨Node.agrees_iff.2 ⟨hid, has, hes, hns⟩, hr⟩

/-- A list of top-level nodes is read in one way. -/
theorem NodeDecls.unique {ts ts' : List Token} {ns ns' : List Node} (h : NodeDecls ts ns)
    (h' : NodeDecls ts' ns') (heq : ts = ts') : Node.allAgree ns ns' = true := by
  induction h generalizing ts' ns' with
  | nil =>
    cases h' with
    | nil => rfl
    | cons hn' _ => obtain ⟨_, rfl⟩ := hn'.head_eq; simp at heq
  | cons hn _ ih =>
    cases h' with
    | nil => obtain ⟨_, rfl⟩ := hn.head_eq; simp at heq
    | cons hn' hrest' =>
      obtain ⟨hagree, hrest⟩ := hn.unique hn' heq
      simp [Node.allAgree, hagree, ih hrest' hrest]

/-- All diagrams of one token sequence agree. -/
theorem Derives.unambiguous {ts : List Token} {d d' : Diagram} (h : Derives ts d)
    (h' : Derives ts d') : d.agrees d' = true :=
  NodeDecls.unique h h' rfl

end DiagramCheck.Grammar
