import DiagramCheck.Proofs.Grammar
import DiagramCheck.Token

/-!
# Derivations with places

The grammar relates tokens to texts. A derivation with places relates lexemes to a tree with its
spans: each text of the tree stands where its token does, a label in quotes without them, and the
source of every edge stands where the name of the enclosing node does, also when it is written out
in front of an arrow.

Every derivation comes from one with places, and the trees of the two are equally deep
(`Derives.exists_placed`).
-/

namespace DiagramCheck.Grammar

/-! ## The productions -/

namespace Placed

/-- The value of a label: a name, or a name in quotes. -/
inductive LabelValue : List Lexeme → Spanned → Prop
  /-- A name. -/
  | bare {x : Lexeme} {name : String} (hx : x.token = .identifier name) :
    LabelValue [x] ⟨name, x.span⟩
  /-- A name in quotes. -/
  | quoted {q x q' : Lexeme} {name : String} (hq : q.token = .quote)
    (hx : x.token = .identifier name) (hq' : q'.token = .quote) :
    LabelValue [q, x, q'] ⟨name, x.span⟩

/-- An attribute of a node or an edge. -/
inductive AttributeDecl : List Lexeme → Attribute → Prop
  /-- A color. -/
  | color {k c x : Lexeme} {name : String} (hk : k.token = .color) (hc : c.token = .colon)
    (hx : x.token = .identifier name) : AttributeDecl [k, c, x] ⟨.color, ⟨name, x.span⟩⟩
  /-- A label, or the description of a node. -/
  | label {k c : Lexeme} {xs : List Lexeme} {value : Spanned} (hk : k.token = .label)
    (hc : c.token = .colon) (h : LabelValue xs value) :
    AttributeDecl (k :: c :: xs) ⟨.label, value⟩

/-- The attributes of an edge, one after the other. -/
inductive AttributeDecls : List Lexeme → List Attribute → Prop
  /-- No attribute. -/
  | nil : AttributeDecls [] []
  /-- An attribute, then more. -/
  | cons {xs rest : List Lexeme} {a : Attribute} {as : List Attribute} (h : AttributeDecl xs a)
    (hrest : AttributeDecls rest as) : AttributeDecls (xs ++ rest) (a :: as)

/-- The names of an edge that is declared in the node `id`: the target alone, or the text of `id`,
an arrow and the target. -/
inductive EdgeHead (id : Spanned) : List Lexeme → Spanned → Prop
  /-- The target alone. -/
  | implicit {x : Lexeme} {name : String} (hx : x.token = .identifier name) :
    EdgeHead id [x] ⟨name, x.span⟩
  /-- The source, an arrow and the target. -/
  | explicit {x a y : Lexeme} {name : String} (hx : x.token = .identifier id.text)
    (ha : a.token = .arrow) (hy : y.token = .identifier name) :
    EdgeHead id [x, a, y] ⟨name, y.span⟩

/-- An edge that is declared in the node `id`, and so starts there. -/
inductive EdgeDecl (id : Spanned) : List Lexeme → Edge → Prop
  /-- The keyword, the names and the attributes in braces. -/
  | intro {k o c : Lexeme} {head body : List Lexeme} {target : Spanned}
    {attributes : List Attribute} (hk : k.token = .edge) (hhead : EdgeHead id head target)
    (ho : o.token = .lbrace) (hbody : AttributeDecls body attributes) (hc : c.token = .rbrace) :
    EdgeDecl id (k :: (head ++ o :: (body ++ [c]))) ⟨id, target, attributes⟩

/-- The items in the body of the node `id`, with its attributes, edges and nested nodes. -/
inductive NodeItems : Spanned → List Lexeme → List Attribute → List Edge → List Node → Prop
  /-- No item. -/
  | nil {id : Spanned} : NodeItems id [] [] [] []
  /-- An attribute, then more. -/
  | attr {id : Spanned} {xs rest : List Lexeme} {a : Attribute} {as : List Attribute}
    {es : List Edge} {ns : List Node} (h : AttributeDecl xs a)
    (hrest : NodeItems id rest as es ns) : NodeItems id (xs ++ rest) (a :: as) es ns
  /-- An edge, then more. -/
  | edge {id : Spanned} {xs rest : List Lexeme} {e : Edge} {as : List Attribute} {es : List Edge}
    {ns : List Node} (h : EdgeDecl id xs e) (hrest : NodeItems id rest as es ns) :
    NodeItems id (xs ++ rest) as (e :: es) ns
  /-- A nested node: the keyword, its name and its items in braces. Then more. -/
  | child {id : Spanned} {k x o c : Lexeme} {body rest : List Lexeme} {name : String}
    {n : Node} {as : List Attribute} {es : List Edge} {ns : List Node} (hk : k.token = .node)
    (hx : x.token = .identifier name) (hid : n.id = ⟨name, x.span⟩) (ho : o.token = .lbrace)
    (h : NodeItems n.id body n.attributes n.edges n.children) (hc : c.token = .rbrace)
    (hrest : NodeItems id rest as es ns) :
    NodeItems id (k :: x :: o :: (body ++ c :: rest)) as es (n :: ns)

/-- The lexemes of a whole source, without the end of the input, and the diagram that is read from
them. Its nodes are written as the items of a body that has no other items. -/
def Derives (xs : List Lexeme) (d : Diagram) : Prop :=
  ∃ id, NodeItems id xs [] [] d.topLevel

end Placed

/-! ## Finding the places -/

variable {ts : List Token} {xs : List Lexeme}

/-- The lexemes of a label. -/
theorem LabelValue.exists_placed {v : Spanned} (h : LabelValue ts v)
    (hxs : xs.map Lexeme.token = ts) : ∃ v', Placed.LabelValue xs v' := by
  cases h with
  | bare =>
    obtain ⟨x, rfl, hx⟩ : ∃ x, xs = [x] ∧ x.token = .identifier v.text := by
      simpa [List.map_eq_cons_iff] using hxs
    exact ⟨_, .bare hx⟩
  | quoted =>
    obtain ⟨q, x, q', rfl, hq, hx, hq'⟩ : ∃ q x q', xs = [q, x, q'] ∧ q.token = .quote ∧
        x.token = .identifier v.text ∧ q'.token = .quote := by
      simpa [List.map_eq_cons_iff] using hxs
    exact ⟨_, .quoted hq hx hq'⟩

/-- The lexemes of an attribute. -/
theorem AttributeDecl.exists_placed {a : Attribute} (h : AttributeDecl ts a)
    (hxs : xs.map Lexeme.token = ts) : ∃ a', Placed.AttributeDecl xs a' := by
  cases h with
  | color value =>
    obtain ⟨k, c, x, rfl, hk, hc, hx⟩ : ∃ k c x, xs = [k, c, x] ∧ k.token = .color ∧
        c.token = .colon ∧ x.token = .identifier value.text := by
      simpa [List.map_eq_cons_iff] using hxs
    exact ⟨_, .color hk hc hx⟩
  | label h =>
    obtain ⟨k, rest, rfl, hk, hrest⟩ := List.map_eq_cons_iff.1 hxs
    obtain ⟨c, rest, rfl, hc, hrest⟩ := List.map_eq_cons_iff.1 hrest
    obtain ⟨v', hv'⟩ := h.exists_placed hrest
    exact ⟨_, .label hk hc hv'⟩

/-- The lexemes of the attributes of an edge. -/
theorem AttributeDecls.exists_placed {as : List Attribute} (h : AttributeDecls ts as)
    (hxs : xs.map Lexeme.token = ts) : ∃ as', Placed.AttributeDecls xs as' := by
  induction h generalizing xs with
  | nil =>
    rw [List.map_eq_nil_iff] at hxs
    exact ⟨[], hxs ▸ .nil⟩
  | cons ha _ ih =>
    obtain ⟨first, rest, rfl, hfirst, hrest⟩ := List.map_eq_append_iff.1 hxs
    obtain ⟨a', ha'⟩ := ha.exists_placed hfirst
    obtain ⟨as', has'⟩ := ih hrest
    exact ⟨a' :: as', .cons ha' has'⟩

/-- The lexemes of the names of an edge. -/
theorem EdgeHead.exists_placed {id target : Spanned} (h : EdgeHead id.text ts target)
    (hxs : xs.map Lexeme.token = ts) : ∃ target', Placed.EdgeHead id xs target' := by
  cases h with
  | implicit =>
    obtain ⟨x, rfl, hx⟩ : ∃ x, xs = [x] ∧ x.token = .identifier target.text := by
      simpa [List.map_eq_cons_iff] using hxs
    exact ⟨_, .implicit hx⟩
  | explicit =>
    obtain ⟨x, a, y, rfl, hx, ha, hy⟩ : ∃ x a y, xs = [x, a, y] ∧
        x.token = .identifier id.text ∧ a.token = .arrow ∧
        y.token = .identifier target.text := by
      simpa [List.map_eq_cons_iff] using hxs
    exact ⟨_, .explicit hx ha hy⟩

/-- The lexemes of an edge. -/
theorem EdgeDecl.exists_placed {id : Spanned} {e : Edge} (h : EdgeDecl id.text ts e)
    (hxs : xs.map Lexeme.token = ts) : ∃ e', Placed.EdgeDecl id xs e' := by
  cases h with
  | intro _ hhead hbody =>
    obtain ⟨k, rest, rfl, hk, hrest⟩ := List.map_eq_cons_iff.1 hxs
    obtain ⟨head, rest, rfl, hhead', hrest⟩ := List.map_eq_append_iff.1 hrest
    obtain ⟨o, rest, rfl, ho, hrest⟩ := List.map_eq_cons_iff.1 hrest
    obtain ⟨body, last, rfl, hbody', hlast⟩ := List.map_eq_append_iff.1 hrest
    obtain ⟨c, rfl, hc⟩ : ∃ c, last = [c] ∧ c.token = .rbrace := by
      simpa [List.map_eq_cons_iff] using hlast
    obtain ⟨target', htarget'⟩ := hhead.exists_placed hhead'
    obtain ⟨attributes', hattributes'⟩ := hbody.exists_placed hbody'
    exact ⟨_, .intro hk htarget' ho hattributes' hc⟩

/-- The lexemes of a node are its keyword, its name, its body in braces, and what follows. -/
theorem lexemes_of_node {id : String} {body rest : List Token}
    (h : xs.map Lexeme.token = .node :: .identifier id :: .lbrace :: (body ++ .rbrace :: rest)) :
    ∃ k x o inner c others, xs = k :: x :: o :: (inner ++ c :: others) ∧ k.token = .node ∧
      x.token = .identifier id ∧ o.token = .lbrace ∧ inner.map Lexeme.token = body ∧
      c.token = .rbrace ∧ others.map Lexeme.token = rest := by
  obtain ⟨k, others, rfl, hk, h⟩ := List.map_eq_cons_iff.1 h
  obtain ⟨x, others, rfl, hx, h⟩ := List.map_eq_cons_iff.1 h
  obtain ⟨o, others, rfl, ho, h⟩ := List.map_eq_cons_iff.1 h
  obtain ⟨inner, others, rfl, hinner, h⟩ := List.map_eq_append_iff.1 h
  obtain ⟨c, others, rfl, hc, h⟩ := List.map_eq_cons_iff.1 h
  exact ⟨k, x, o, inner, c, others, rfl, hk, hx, ho, hinner, hc, h⟩

/-- The lexemes of the items of a body, with nested nodes that are as deep. -/
theorem NodeItems.exists_placed {id : String} {as : List Attribute} {es : List Edge}
    {ns : List Node} (h : NodeItems id ts as es ns) {place : Spanned} (hplace : place.text = id)
    (hxs : xs.map Lexeme.token = ts) :
    ∃ as' es' ns', Placed.NodeItems place xs as' es' ns' ∧
      Node.nestingAll ns' = Node.nestingAll ns := by
  -- The induction is on the derivation. A nested body has a name of its own, which stands where its
  -- token does.
  induction h generalizing xs place with
  | nil =>
    rw [List.map_eq_nil_iff] at hxs
    exact ⟨[], [], [], hxs ▸ .nil, rfl⟩
  | attr ha _ ih =>
    obtain ⟨first, rest, rfl, hfirst, hrest⟩ := List.map_eq_append_iff.1 hxs
    obtain ⟨a', ha'⟩ := ha.exists_placed hfirst
    obtain ⟨as', es', ns', hitems, hdepth⟩ := ih hplace hrest
    exact ⟨a' :: as', es', ns', .attr ha' hitems, hdepth⟩
  | edge he _ ih =>
    obtain ⟨first, rest, rfl, hfirst, hrest⟩ := List.map_eq_append_iff.1 hxs
    subst hplace
    obtain ⟨e', he'⟩ := he.exists_placed hfirst
    obtain ⟨as', es', ns', hitems, hdepth⟩ := ih rfl hrest
    exact ⟨as', e' :: es', ns', .edge he' hitems, hdepth⟩
  | @child _ _ _ n _ _ _ _ _ ihBody ih =>
    obtain ⟨k, x, o, body, c, rest, rfl, hk, hx, ho, hbody, hc, hrest⟩ := lexemes_of_node hxs
    have hid : (⟨n.id.text, x.span⟩ : Spanned).text = n.id.text := rfl
    obtain ⟨as, es, ns, hinner, hdepth⟩ := ihBody hid hbody
    obtain ⟨as', es', ns', hitems, hdepth'⟩ := ih hplace hrest
    refine ⟨as', es', ⟨⟨n.id.text, x.span⟩, as, es, ns⟩ :: ns',
      .child hk hx rfl ho hinner hc hitems, ?_⟩
    simp only [Node.nestingAll, Node.nesting_eq, hdepth, hdepth']

/-- The lexemes of top-level nodes, with nodes that are as deep. -/
theorem NodeDecls.exists_placed {ns : List Node} (h : NodeDecls ts ns) (place : Spanned)
    (hxs : xs.map Lexeme.token = ts) :
    ∃ ns', Placed.NodeItems place xs [] [] ns' ∧ Node.nestingAll ns' = Node.nestingAll ns := by
  induction h generalizing xs with
  | nil =>
    rw [List.map_eq_nil_iff] at hxs
    exact ⟨[], hxs ▸ .nil, rfl⟩
  | @cons _ _ n _ hn _ ih =>
    obtain ⟨first, rest, rfl, hfirst, hrest⟩ := List.map_eq_append_iff.1 hxs
    obtain ⟨ns', hitems, hdepth'⟩ := ih hrest
    cases hn with
    | intro hbody =>
      obtain ⟨k, x, o, body, c, last, rfl, hk, hx, ho, hbody', hc, hlast⟩ := lexemes_of_node hfirst
      rw [List.map_eq_nil_iff] at hlast
      subst hlast
      have hid : (⟨n.id.text, x.span⟩ : Spanned).text = n.id.text := rfl
      obtain ⟨as, es, children, hinner, hdepth⟩ := hbody.exists_placed hid hbody'
      refine ⟨⟨⟨n.id.text, x.span⟩, as, es, children⟩ :: ns', ?_, ?_⟩
      · simpa using Placed.NodeItems.child hk hx rfl ho hinner hc hitems
      · simp only [Node.nestingAll, Node.nesting_eq, hdepth, hdepth']

/-- The lexemes of a diagram, which is as deep. -/
theorem Derives.exists_placed {d : Diagram} (h : Derives ts d) (hxs : xs.map Lexeme.token = ts) :
    ∃ d', Placed.Derives xs d' ∧ d'.nesting = d.nesting := by
  -- Which node the top-level ones would be items of does not matter.
  obtain ⟨ns, hitems, hdepth⟩ := NodeDecls.exists_placed h (.ofText "") hxs
  exact ⟨⟨ns⟩, ⟨_, hitems⟩, hdepth⟩

end DiagramCheck.Grammar
