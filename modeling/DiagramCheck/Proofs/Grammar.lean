import DiagramCheck.Proofs.Agreement
import DiagramCheck.Diagram.SyntaxError

/-!
# The grammar of diagrams

The grammar says which token sequences are the text of which diagrams, without any reading machine:

    diagram    = nodeDecl*
    nodeDecl   = "node" name "{" nodeItem* "}"
    nodeItem   = attribute | edgeDecl | nodeDecl
    edgeDecl   = "calls" edgeHead "{" attribute* "}"
    edgeHead   = name | source "->" name
    attribute  = "color" ":" name | "label" ":" labelValue
    labelValue = name | '"' name '"'

where `source` is the name of the node that the edge is declared in. A derivation relates tokens to
a tree, and speaks of the texts of the tree only: where they stand in a source plays no part, so the
trees of one token sequence agree, and all trees that agree with one of them are trees of it too
(`Derives.of_agrees`). The items of a body go to the three lists of the node in the order in which
they are written.

How deep nodes are nested is no matter of the grammar. `Diagram.nesting` measures it.
-/

namespace DiagramCheck

/-! ## Depth of nesting -/

mutual

/-- The number of levels of a node: its own, and those of the nodes nested in it. -/
def Node.nesting : Node → Nat
  | ⟨_, _, _, children⟩ => Node.nestingAll children + 1

/-- The number of levels of a forest: that of its deepest node. -/
def Node.nestingAll : List Node → Nat
  | [] => 0
  | n :: rest => max n.nesting (Node.nestingAll rest)

end

/-- The number of levels on which the nodes of a diagram stand. -/
def Diagram.nesting (d : Diagram) : Nat :=
  Node.nestingAll d.topLevel

/-- A node stands one level above the nodes nested in it. -/
theorem Node.nesting_eq (n : Node) : n.nesting = Node.nestingAll n.children + 1 := by
  cases n
  rfl

/-- The levels of two forests side by side are those of the deeper one. -/
theorem Node.nestingAll_append (a b : List Node) :
    Node.nestingAll (a ++ b) = max (Node.nestingAll a) (Node.nestingAll b) := by
  induction a with
  | nil => simp [Node.nestingAll]
  | cons n rest ih => simp [Node.nestingAll, ih, Nat.max_assoc]

/-- Forests that agree have the same number of levels. -/
theorem Node.nestingAll_eq_of_allAgree :
    ∀ {as bs : List Node}, Node.allAgree as bs = true →
      Node.nestingAll as = Node.nestingAll bs := by
  intro as
  induction as using Node.forest_induction with
  | nil =>
    intro bs h
    rw [Node.allAgree_iff, List.forall₂_nil_left_iff] at h
    rw [h]
  | cons n rest ihChildren ihRest =>
    intro bs h
    rw [Node.allAgree_iff, List.forall₂_cons_left_iff] at h
    obtain ⟨m, rest', hn, hrest, rfl⟩ := h
    obtain ⟨-, -, -, hchildren⟩ := Node.agrees_iff.1 hn
    simp only [Node.nestingAll, Node.nesting_eq]
    rw [ihChildren hchildren, ihRest (Node.allAgree_iff.2 hrest)]

/-- Diagrams that agree have the same number of levels. -/
theorem Diagram.nesting_eq_of_agrees {a b : Diagram} (h : a.agrees b = true) :
    a.nesting = b.nesting :=
  Node.nestingAll_eq_of_allAgree h

namespace Grammar

/-! ## Derivations -/

/-- The value of a label: a name, or a name in quotes. -/
inductive LabelValue : List Token → Spanned → Prop
  /-- A name. -/
  | bare (value : Spanned) : LabelValue [.identifier value.text] value
  /-- A name in quotes. -/
  | quoted (value : Spanned) : LabelValue [.quote, .identifier value.text, .quote] value

/-- An attribute of a node or an edge. -/
inductive AttributeDecl : List Token → Attribute → Prop
  /-- A color. -/
  | color (value : Spanned) :
    AttributeDecl [.color, .colon, .identifier value.text] ⟨.color, value⟩
  /-- A label, or the description of a node. -/
  | label {ts : List Token} {value : Spanned} (h : LabelValue ts value) :
    AttributeDecl (.label :: .colon :: ts) ⟨.label, value⟩

/-- The attributes of an edge, one after the other. -/
inductive AttributeDecls : List Token → List Attribute → Prop
  /-- No attribute. -/
  | nil : AttributeDecls [] []
  /-- An attribute, then more. -/
  | cons {ts rest : List Token} {a : Attribute} {as : List Attribute} (h : AttributeDecl ts a)
    (hrest : AttributeDecls rest as) : AttributeDecls (ts ++ rest) (a :: as)

/-- The names of an edge that is declared in the node `id`: the target alone, or `id` itself, an
arrow and the target. -/
inductive EdgeHead (id : String) : List Token → Spanned → Prop
  /-- The target alone. -/
  | implicit (target : Spanned) : EdgeHead id [.identifier target.text] target
  /-- The source, an arrow and the target. -/
  | explicit (target : Spanned) :
    EdgeHead id [.identifier id, .arrow, .identifier target.text] target

/-- An edge that is declared in the node `id`, and so starts there. -/
inductive EdgeDecl (id : String) : List Token → Edge → Prop
  /-- The keyword, the names and the attributes in braces. -/
  | intro {head body : List Token} {e : Edge} (hsource : e.source.text = id)
    (hhead : EdgeHead id head e.target) (hbody : AttributeDecls body e.attributes) :
    EdgeDecl id (.edge :: (head ++ .lbrace :: (body ++ [.rbrace]))) e

/-- The items in the body of the node `id`, with its attributes, edges and nested nodes. -/
inductive NodeItems : String → List Token → List Attribute → List Edge → List Node → Prop
  /-- No item. -/
  | nil {id : String} : NodeItems id [] [] [] []
  /-- An attribute, then more. -/
  | attr {id : String} {ts rest : List Token} {a : Attribute} {as : List Attribute}
    {es : List Edge} {ns : List Node} (h : AttributeDecl ts a)
    (hrest : NodeItems id rest as es ns) : NodeItems id (ts ++ rest) (a :: as) es ns
  /-- An edge, then more. -/
  | edge {id : String} {ts rest : List Token} {e : Edge} {as : List Attribute} {es : List Edge}
    {ns : List Node} (h : EdgeDecl id ts e) (hrest : NodeItems id rest as es ns) :
    NodeItems id (ts ++ rest) as (e :: es) ns
  /-- A nested node, as in `NodeDecl`, then more. -/
  | child {id : String} {body rest : List Token} {n : Node} {as : List Attribute}
    {es : List Edge} {ns : List Node}
    (h : NodeItems n.id.text body n.attributes n.edges n.children)
    (hrest : NodeItems id rest as es ns) :
    NodeItems id (.node :: .identifier n.id.text :: .lbrace :: (body ++ .rbrace :: rest))
      as es (n :: ns)

/-- A node: the keyword, its name and its items in braces. -/
inductive NodeDecl : List Token → Node → Prop
  /-- The keyword, the name and the items in braces. -/
  | intro {body : List Token} {n : Node}
    (h : NodeItems n.id.text body n.attributes n.edges n.children) :
    NodeDecl (.node :: .identifier n.id.text :: .lbrace :: (body ++ [.rbrace])) n

/-- Nodes one after the other. -/
inductive NodeDecls : List Token → List Node → Prop
  /-- No node. -/
  | nil : NodeDecls [] []
  /-- A node, then more. -/
  | cons {ts rest : List Token} {n : Node} {ns : List Node} (h : NodeDecl ts n)
    (hrest : NodeDecls rest ns) : NodeDecls (ts ++ rest) (n :: ns)

/-- The tokens of a whole source, without the end of the input, and the diagram that they are the
text of. -/
def Derives (ts : List Token) (d : Diagram) : Prop :=
  NodeDecls ts d.topLevel

/-! ## Items at the end

A body is read from the front, so each item comes to stand behind those before it. -/

/-- One more attribute behind those of an edge. -/
theorem AttributeDecls.snoc {ts last : List Token} {as : List Attribute} {a : Attribute}
    (h : AttributeDecls ts as) (ha : AttributeDecl last a) :
    AttributeDecls (ts ++ last) (as ++ [a]) := by
  induction h with
  | nil => simpa using AttributeDecls.cons ha .nil
  | cons h hrest ih =>
    rw [List.append_assoc]
    exact .cons h ih

/-- Two runs of items in one body, one behind the other. -/
theorem NodeItems.append {id : String} {ts ts' : List Token} {as as' : List Attribute}
    {es es' : List Edge} {ns ns' : List Node} (h : NodeItems id ts as es ns)
    (h' : NodeItems id ts' as' es' ns') :
    NodeItems id (ts ++ ts') (as ++ as') (es ++ es') (ns ++ ns') := by
  induction h with
  | nil => exact h'
  | attr ha _ ih =>
    rw [List.append_assoc]
    exact .attr ha (ih h')
  | edge he _ ih =>
    rw [List.append_assoc]
    exact .edge he (ih h')
  | child hn _ _ ih =>
    simp only [List.cons_append, List.append_assoc]
    exact .child hn (ih h')

/-- One more top-level node behind the others. -/
theorem NodeDecls.snoc {ts last : List Token} {ns : List Node} {n : Node} (h : NodeDecls ts ns)
    (hn : NodeDecl last n) : NodeDecls (ts ++ last) (ns ++ [n]) := by
  induction h with
  | nil => simpa using NodeDecls.cons hn .nil
  | cons h hrest ih =>
    rw [List.append_assoc]
    exact .cons h ih

/-! ## Derivations of agreeing trees -/

/-- Labels with the same text are written alike. -/
theorem LabelValue.of_text_eq {ts : List Token} {v w : Spanned} (h : LabelValue ts v)
    (hvw : v.text = w.text) : LabelValue ts w := by
  cases h with
  | bare => exact hvw ▸ .bare w
  | quoted => exact hvw ▸ .quoted w

/-- Attributes that agree are written alike. -/
theorem AttributeDecl.of_agrees {ts : List Token} {a b : Attribute} (h : AttributeDecl ts a)
    (hab : a.agrees b = true) : AttributeDecl ts b := by
  obtain ⟨kind, value⟩ := b
  obtain ⟨hkind, htext⟩ := Attribute.agrees_iff.1 hab
  cases h with
  | color v =>
    simp only at hkind htext
    subst hkind
    exact htext ▸ .color value
  | label h =>
    simp only at hkind htext
    subst hkind
    exact .label (h.of_text_eq htext)

/-- Lists of attributes that agree are written alike. -/
theorem AttributeDecls.of_agrees {ts : List Token} {as bs : List Attribute}
    (h : AttributeDecls ts as) (hab : Attribute.allAgree as bs = true) : AttributeDecls ts bs := by
  induction h generalizing bs with
  | nil =>
    rw [Attribute.allAgree_iff, List.forall₂_nil_left_iff] at hab
    exact hab ▸ .nil
  | cons h hrest ih =>
    rw [Attribute.allAgree_iff, List.forall₂_cons_left_iff] at hab
    obtain ⟨b, bs', hb, hbs, rfl⟩ := hab
    exact .cons (h.of_agrees hb) (ih (Attribute.allAgree_iff.2 hbs))

/-- Edges that agree are written alike. -/
theorem EdgeDecl.of_agrees {id : String} {ts : List Token} {a b : Edge} (h : EdgeDecl id ts a)
    (hab : a.agrees b = true) : EdgeDecl id ts b := by
  obtain ⟨hsource, htarget, hattributes⟩ := Edge.agrees_iff.1 hab
  cases h with
  | intro hid hhead hbody =>
    refine .intro (hsource ▸ hid) ?_ (hbody.of_agrees hattributes)
    -- Only the text of the target is written, so either form of the head serves both targets.
    generalize a.target = v at hhead htarget
    cases hhead with
    | implicit => exact htarget ▸ .implicit b.target
    | explicit => exact htarget ▸ .explicit b.target

/-- Bodies that agree list by list are written alike. -/
theorem NodeItems.of_agrees {id : String} {ts : List Token} {as as' : List Attribute}
    {es es' : List Edge} {ns ns' : List Node} (h : NodeItems id ts as es ns)
    (has : Attribute.allAgree as as' = true) (hes : Edge.allAgree es es' = true)
    (hns : Node.allAgree ns ns' = true) : NodeItems id ts as' es' ns' := by
  rw [Attribute.allAgree_iff] at has
  rw [Edge.allAgree_iff] at hes
  rw [Node.allAgree_iff] at hns
  -- An item takes the first entry off one of the three lists and leaves the other two alone.
  induction h generalizing as' es' ns' with
  | nil =>
    rw [List.forall₂_nil_left_iff] at has hes hns
    subst has hes hns
    exact .nil
  | attr ha _ ih =>
    obtain ⟨a', as'', ha', has', rfl⟩ := List.forall₂_cons_left_iff.1 has
    exact .attr (ha.of_agrees ha') (ih has' hes hns)
  | edge he _ ih =>
    obtain ⟨e', es'', he', hes', rfl⟩ := List.forall₂_cons_left_iff.1 hes
    exact .edge (he.of_agrees he') (ih has hes' hns)
  | child _ _ ihBody ih =>
    obtain ⟨n', ns'', hn', hns', rfl⟩ := List.forall₂_cons_left_iff.1 hns
    obtain ⟨hid, has₁, hes₁, hns₁⟩ := Node.agrees_iff.1 hn'
    rw [hid] at ihBody ⊢
    exact .child (ihBody (Attribute.allAgree_iff.1 has₁) (Edge.allAgree_iff.1 hes₁)
      (Node.allAgree_iff.1 hns₁)) (ih has hes hns')

/-- Forests that agree are written alike. -/
theorem NodeDecls.of_agrees {ts : List Token} {ns ns' : List Node} (h : NodeDecls ts ns)
    (hns : Node.allAgree ns ns' = true) : NodeDecls ts ns' := by
  induction h generalizing ns' with
  | nil =>
    rw [Node.allAgree_iff, List.forall₂_nil_left_iff] at hns
    exact hns ▸ .nil
  | cons h _ ih =>
    rw [Node.allAgree_iff, List.forall₂_cons_left_iff] at hns
    obtain ⟨n', ns'', hn', hns', rfl⟩ := hns
    refine .cons ?_ (ih (Node.allAgree_iff.2 hns'))
    cases h with
    | intro h =>
      obtain ⟨hid, has, hes, hns⟩ := Node.agrees_iff.1 hn'
      rw [hid] at h ⊢
      exact .intro (h.of_agrees has hes hns)

/-- Diagrams that agree are trees of the same token sequences. -/
theorem Derives.of_agrees {ts : List Token} {d d' : Diagram} (h : Derives ts d)
    (hd : d.agrees d' = true) : Derives ts d' :=
  NodeDecls.of_agrees h hd

end Grammar

end DiagramCheck
