import DiagramCheck.Proofs.Grammar.Placed
import Mathlib.Data.List.Perm.Subperm

/-!
# What becomes of the lexemes of a body

A `Ledger` accounts for lexemes: it says which nodes, attributes and edges they declare, and which
of the edges are written with their source. Every name among the lexemes has one use in them, and
the numbers of all other lexemes follow from theirs. Ledgers of lexemes that stand one behind the
other are added up (`Ledger.append`), so each production of the grammar has to enter only what it
declares itself, and the whole of a derivation has a ledger (`Placed.NodeItems.exists_ledger`).

The names that go to one list of a node come in the order of that list, and the names of all nodes
in pre-order (`Placed.NodeItems.sublist_ids`, `Placed.NodeItems.inOrder`).
-/

namespace DiagramCheck

/-! ## Names -/

/-- The name that a lexeme is, if it is one, and where it stands. -/
def Lexeme.name? (x : Lexeme) : Option Spanned :=
  match x.token with
  | .identifier name => some ⟨name, x.span⟩
  | _ => none

/-- The names among some lexemes. -/
def names (xs : List Lexeme) : List Spanned :=
  xs.filterMap Lexeme.name?

/-- An identifier is a name. -/
theorem Lexeme.name?_of_identifier {x : Lexeme} {name : String} (h : x.token = .identifier name) :
    x.name? = some ⟨name, x.span⟩ := by
  simp [name?, h]

/-- A name has the text of an identifier, and stands where that does. -/
theorem Lexeme.eq_of_name? {x : Lexeme} {v : Spanned} (h : x.name? = some v) :
    x.token = .identifier v.text ∧ x.span = v.span := by
  unfold name? at h
  split at h
  · next name hx =>
    cases h
    exact ⟨hx, rfl⟩
  · cases h

/-- The names of lexemes that stand one behind the other. -/
theorem names_append (xs ys : List Lexeme) : names (xs ++ ys) = names xs ++ names ys :=
  List.filterMap_append

/-- An identifier comes before the names behind it. -/
theorem names_cons_of_identifier {x : Lexeme} {name : String} (h : x.token = .identifier name)
    (xs : List Lexeme) : names (x :: xs) = ⟨name, x.span⟩ :: names xs :=
  List.filterMap_cons_some (Lexeme.name?_of_identifier h)

/-- Any other lexeme leaves the names behind it alone. -/
theorem names_cons_of_none {x : Lexeme} (h : x.name? = none) (xs : List Lexeme) :
    names (x :: xs) = names xs :=
  List.filterMap_cons_none h

/-! ## What nodes declare -/

/-- The attributes of a node and those of its edges. -/
def Node.ownAttributes (n : Node) : List Attribute :=
  n.attributes ++ n.edges.flatMap Edge.attributes

/-- All attributes of a diagram: those of each node and of its edges, in pre-order. -/
def Diagram.attributes (d : Diagram) : List Attribute :=
  d.nodes.flatMap Node.ownAttributes

namespace Grammar

/-- `WritesSource xs v e` says that the lexemes `xs` contain the name `v` as the source of the edge
`e`: it has the text of that source, and stands in front of an arrow and the target of the edge. -/
def WritesSource (xs : List Lexeme) (v : Spanned) (e : Edge) : Prop :=
  v.text = e.source.text ∧ ∃ x a y, [x, a, y] <:+: xs ∧ x.name? = some v ∧ a.token = .arrow ∧
    y.name? = some e.target

/-- A source that is written among some lexemes is written among more. -/
theorem WritesSource.mono {xs ys : List Lexeme} {v : Spanned} {e : Edge} (h : WritesSource xs v e)
    (hxs : xs <:+: ys) : WritesSource ys v e := by
  obtain ⟨htext, x, a, y, hinfix, hx, ha, hy⟩ := h
  exact ⟨htext, x, a, y, hinfix.trans hxs, hx, ha, hy⟩

/-! ## Ledgers -/

/-- `Ledger xs ids attributes edges written` says what the lexemes `xs` are used for: they declare
nodes with the names `ids`, the attributes and the edges, and `written` are the sources of edges
that they write out, each with its edge. -/
structure Ledger (xs : List Lexeme) (ids : List Spanned) (attributes : List Attribute)
    (edges : List Edge) (written : List (Spanned × Edge)) : Prop where
  /-- Every name is used once. -/
  names_perm : (names xs).Perm (ids ++ attributes.map Attribute.value ++ edges.map Edge.target ++
    written.map Prod.fst)
  /-- An edge has its source written at most once. -/
  written_subperm : (written.map Prod.snd).Subperm edges
  /-- What is written as a source is that of its edge. -/
  writesSource : ∀ p ∈ written, WritesSource xs p.1 p.2
  /-- A node has one keyword. -/
  count_node : (xs.map Lexeme.token).count .node = ids.length
  /-- An edge has one keyword. -/
  count_edge : (xs.map Lexeme.token).count .edge = edges.length
  /-- An attribute has one keyword. -/
  count_keyword : (xs.map Lexeme.token).count .color + (xs.map Lexeme.token).count .label =
    attributes.length
  /-- An attribute has one colon. -/
  count_colon : (xs.map Lexeme.token).count .colon = attributes.length
  /-- A node and an edge open one body each. -/
  count_lbrace : (xs.map Lexeme.token).count .lbrace = ids.length + edges.length
  /-- A node and an edge close one body each. -/
  count_rbrace : (xs.map Lexeme.token).count .rbrace = ids.length + edges.length
  /-- A source that is written has one arrow. -/
  count_arrow : (xs.map Lexeme.token).count .arrow = written.length
  /-- Quotes come in pairs. -/
  count_quote : (xs.map Lexeme.token).count .quote % 2 = 0

/-- No lexeme declares nothing. -/
theorem Ledger.nil : Ledger [] [] [] [] [] where
  names_perm := .nil
  written_subperm := .refl _
  writesSource := nofun
  count_node := rfl
  count_edge := rfl
  count_keyword := rfl
  count_colon := rfl
  count_lbrace := rfl
  count_rbrace := rfl
  count_arrow := rfl
  count_quote := rfl

/-- Lexemes that stand one behind the other declare what each of them do. -/
theorem Ledger.append {xs ys : List Lexeme} {ids ids' : List Spanned} {as as' : List Attribute}
    {es es' : List Edge} {ws ws' : List (Spanned × Edge)} (h : Ledger xs ids as es ws)
    (h' : Ledger ys ids' as' es' ws') :
    Ledger (xs ++ ys) (ids ++ ids') (as ++ as') (es ++ es') (ws ++ ws') where
  names_perm := by
    have hboth := h.names_perm.append h'.names_perm
    rw [← names_append] at hboth
    refine hboth.trans (List.perm_iff_count.2 fun v => ?_)
    simp only [List.map_append, List.count_append]
    omega
  written_subperm := by
    rw [List.map_append]
    exact h.written_subperm.append h'.written_subperm
  writesSource := by
    intro p hp
    rcases List.mem_append.1 hp with hp | hp
    · exact (h.writesSource p hp).mono (List.prefix_append xs ys).isInfix
    · exact (h'.writesSource p hp).mono (List.suffix_append xs ys).isInfix
  count_node := by
    rw [List.map_append, List.count_append, List.length_append, h.count_node, h'.count_node]
  count_edge := by
    rw [List.map_append, List.count_append, List.length_append, h.count_edge, h'.count_edge]
  count_keyword := by
    have := h.count_keyword
    have := h'.count_keyword
    simp only [List.map_append, List.count_append, List.length_append]
    omega
  count_colon := by
    rw [List.map_append, List.count_append, List.length_append, h.count_colon, h'.count_colon]
  count_lbrace := by
    have := h.count_lbrace
    have := h'.count_lbrace
    simp only [List.map_append, List.count_append, List.length_append]
    omega
  count_rbrace := by
    have := h.count_rbrace
    have := h'.count_rbrace
    simp only [List.map_append, List.count_append, List.length_append]
    omega
  count_arrow := by
    rw [List.map_append, List.count_append, List.length_append, h.count_arrow, h'.count_arrow]
  count_quote := by
    have := h.count_quote
    have := h'.count_quote
    simp only [List.map_append, List.count_append]
    omega

/-- In which order the attributes and the edges are listed does not matter. -/
theorem Ledger.reorder {xs : List Lexeme} {ids : List Spanned} {as as' : List Attribute}
    {es es' : List Edge} {ws : List (Spanned × Edge)} (h : Ledger xs ids as es ws)
    (has : as.Perm as') (hes : es.Perm es') : Ledger xs ids as' es' ws := by
  have hnames := (((has.map Attribute.value).append_left ids).append
    (hes.map Edge.target)).append_right (ws.map Prod.fst)
  have hlength := has.length_eq
  have hlength' := hes.length_eq
  exact ⟨h.names_perm.trans hnames, hes.subperm_left.1 h.written_subperm, h.writesSource,
    h.count_node, hlength' ▸ h.count_edge, hlength ▸ h.count_keyword, hlength ▸ h.count_colon,
    hlength' ▸ h.count_lbrace, hlength' ▸ h.count_rbrace, h.count_arrow, h.count_quote⟩

/-- In which order the lexemes come does not matter, as long as sources are still written. -/
theorem Ledger.of_perm {xs ys : List Lexeme} {ids : List Spanned} {as : List Attribute}
    {es : List Edge} {ws : List (Spanned × Edge)} (h : Ledger xs ids as es ws) (hxs : xs.Perm ys)
    (hws : ∀ p ∈ ws, WritesSource ys p.1 p.2) : Ledger ys ids as es ws := by
  have hcount : ∀ t, (ys.map Lexeme.token).count t = (xs.map Lexeme.token).count t :=
    fun t => ((hxs.map Lexeme.token).count_eq t).symm
  refine ⟨(hxs.filterMap Lexeme.name?).symm.trans h.names_perm, h.written_subperm, hws, ?_, ?_, ?_,
    ?_, ?_, ?_, ?_, ?_⟩
  all_goals simp only [hcount]
  · exact h.count_node
  · exact h.count_edge
  · exact h.count_keyword
  · exact h.count_colon
  · exact h.count_lbrace
  · exact h.count_rbrace
  · exact h.count_arrow
  · exact h.count_quote

/-- A declaration with a body declares what it does with an empty body, and what the body does. -/
theorem Ledger.insert {front body back : List Lexeme} {ids ids' : List Spanned}
    {as as' : List Attribute} {es es' : List Edge} {ws ws' : List (Spanned × Edge)}
    (h : Ledger (front ++ back) ids as es ws) (hws : ∀ p ∈ ws, WritesSource front p.1 p.2)
    (h' : Ledger body ids' as' es' ws') :
    Ledger (front ++ (body ++ back)) (ids ++ ids') (as ++ as') (es ++ es') (ws ++ ws') := by
  have hperm : (front ++ back ++ body).Perm (front ++ (body ++ back)) := by
    rw [List.append_assoc]
    exact List.perm_append_comm.append_left front
  refine (h.append h').of_perm hperm (List.forall_mem_append.2 ⟨fun p hp => ?_, fun p hp => ?_⟩)
  · exact (hws p hp).mono (List.prefix_append front _).isInfix
  · have hbody : body <:+: front ++ (body ++ back) := by
      rw [← List.append_assoc]
      exact List.infix_append front body back
    exact (h'.writesSource p hp).mono hbody

/-- The number of names: those of the nodes, the values of the attributes, the targets of the edges,
and one source for each arrow. -/
theorem Ledger.length_names {xs : List Lexeme} {ids : List Spanned} {as : List Attribute}
    {es : List Edge} {ws : List (Spanned × Edge)} (h : Ledger xs ids as es ws) :
    (names xs).length =
      ids.length + es.length + as.length + (xs.map Lexeme.token).count .arrow := by
  have hlength := h.names_perm.length_eq
  have harrow := h.count_arrow
  simp only [List.length_append, List.length_map] at hlength
  omega

namespace Placed

variable {xs : List Lexeme}

/-! ### Entries -/

/-- An attribute declares itself. -/
theorem AttributeDecl.ledger {a : Attribute} (h : AttributeDecl xs a) :
    Ledger xs [] [a] [] [] := by
  -- All lexemes are known here, so each entry of the ledger is a matter of counting them.
  cases h with
  | color hk hc hx => constructor <;> simp [names, Lexeme.name?, hk, hc, hx]
  | label hk hc h =>
    cases h with
    | bare hx => constructor <;> simp [names, Lexeme.name?, hk, hc, hx]
    | quoted hq hx hq' => constructor <;> simp [names, Lexeme.name?, hk, hc, hq, hx, hq']

/-- The attributes of an edge declare themselves. -/
theorem AttributeDecls.ledger {as : List Attribute} (h : AttributeDecls xs as) :
    Ledger xs [] as [] [] := by
  induction h with
  | nil => exact .nil
  | cons ha _ ih => exact ha.ledger.append ih

/-- An edge with an empty body declares itself, and may write its source. -/
theorem EdgeHead.exists_ledger {id target : Spanned} {k o c : Lexeme} (hk : k.token = .edge)
    (h : EdgeHead id xs target) (ho : o.token = .lbrace) (hc : c.token = .rbrace)
    (attributes : List Attribute) :
    ∃ written, Ledger (k :: (xs ++ [o]) ++ [c]) [] [] [⟨id, target, attributes⟩] written ∧
      ∀ p ∈ written, WritesSource (k :: (xs ++ [o])) p.1 p.2 := by
  cases h with
  | implicit hx =>
    refine ⟨[], ?_, nofun⟩
    constructor <;> simp [names, Lexeme.name?, hk, ho, hc, hx]
  | @explicit x a y name hx ha hy =>
    have hsource : ∀ rest, WritesSource (k :: x :: a :: y :: rest) ⟨id.text, x.span⟩
        ⟨id, ⟨name, y.span⟩, attributes⟩ := by
      intro rest
      refine ⟨rfl, x, a, y, ⟨[k], rest, rfl⟩, Lexeme.name?_of_identifier hx, ha,
        Lexeme.name?_of_identifier hy⟩
    refine ⟨[(⟨id.text, x.span⟩, ⟨id, ⟨name, y.span⟩, attributes⟩)], ?_,
      List.forall_mem_singleton.2 (hsource _)⟩
    have hswap : [⟨id.text, x.span⟩, ⟨name, y.span⟩].Perm
        [⟨name, y.span⟩, (⟨id.text, x.span⟩ : Spanned)] := .swap _ _ _
    constructor <;> simp [names, Lexeme.name?, hk, ho, hc, hx, ha, hy, hsource, hswap]

/-- An edge declares itself and its attributes, and may write its source. -/
theorem EdgeDecl.exists_ledger {id : Spanned} {e : Edge} (h : EdgeDecl id xs e) :
    ∃ written, Ledger xs [] e.attributes [e] written := by
  cases h with
  | @intro k o c head body target attributes hk hhead ho hbody hc =>
    obtain ⟨written, hledger, hwritten⟩ := hhead.exists_ledger hk ho hc attributes
    have hall := hledger.insert hwritten hbody.ledger
    exact ⟨written, by simpa using hall⟩

/-- A node with an empty body declares its name. -/
theorem ledger_of_node {k x o c : Lexeme} {name : String} (hk : k.token = .node)
    (hx : x.token = .identifier name) (ho : o.token = .lbrace) (hc : c.token = .rbrace) :
    Ledger ([k, x, o] ++ [c]) [⟨name, x.span⟩] [] [] [] := by
  constructor <;> simp [names, Lexeme.name?, hk, hx, ho, hc]

/-- Whether a nested node, with all nodes inside of it, is listed before the node around it or behind
it does not change what is listed for them. -/
theorem perm_flatMap_preOrder {β : Type} {f : Node → List β} (id : Spanned) (as : List Attribute)
    (es : List Edge) (n : Node) (ns : List Node)
    (hf : f ⟨id, as, es, ns⟩ = f ⟨id, as, es, n :: ns⟩) :
    (n.preOrder.flatMap f ++ (Node.mk id as es ns).preOrder.flatMap f).Perm
      ((Node.mk id as es (n :: ns)).preOrder.flatMap f) := by
  simp only [Node.preOrder, Node.preOrderAll, List.flatMap_cons, List.flatMap_append, hf]
  exact List.perm_append_comm_assoc _ _ _

/-- The items of a body declare the nodes inside of it, and their attributes and edges with those of
the body. -/
theorem NodeItems.exists_ledger {id : Spanned} {as : List Attribute} {es : List Edge}
    {ns : List Node} (h : NodeItems id xs as es ns) :
    ∃ written, Ledger xs ((Node.preOrderAll ns).map Node.id)
      ((Node.mk id as es ns).preOrder.flatMap Node.ownAttributes)
      ((Node.mk id as es ns).preOrder.flatMap Node.edges) written := by
  induction h with
  | nil => exact ⟨[], .nil⟩
  | attr ha _ ih =>
    obtain ⟨written, hrest⟩ := ih
    exact ⟨written, ha.ledger.append hrest⟩
  | @edge _ _ _ e as es ns he _ ih =>
    obtain ⟨first, hfirst⟩ := he.exists_ledger
    obtain ⟨written, hrest⟩ := ih
    refine ⟨first ++ written, (hfirst.append hrest).reorder ?_ (.refl _)⟩
    -- The attributes of the edge come behind those of the node itself.
    simp only [Node.preOrder, List.flatMap_cons, Node.ownAttributes, List.append_assoc]
    exact List.perm_append_comm_assoc _ _ _
  | @child id _ _ _ _ _ _ _ n as es ns hk hx hid ho _ hc _ ihBody ih =>
    obtain ⟨inner, hinner⟩ := ihBody
    obtain ⟨written, hrest⟩ := ih
    obtain ⟨place, attributes, edges, children⟩ := n
    have hnode := (ledger_of_node hk hx ho hc).insert nofun hinner
    have hall := (hnode.append hrest).reorder
      (perm_flatMap_preOrder (f := Node.ownAttributes) id as es _ ns rfl)
      (perm_flatMap_preOrder (f := Node.edges) id as es _ ns rfl)
    refine ⟨inner ++ written, ?_⟩
    rw [Node.preOrderAll_cons, List.map_cons, hid, List.map_append]
    simpa using hall

/-! ### Edges and the nodes that they start at -/

/-- The edges of each node start at the name of that node, where it stands. -/
theorem NodeItems.source_eq {id : Spanned} {as : List Attribute} {es : List Edge} {ns : List Node}
    (h : NodeItems id xs as es ns) :
    (∀ e ∈ es, e.source = id) ∧ ∀ n ∈ Node.preOrderAll ns, ∀ e ∈ n.edges, e.source = n.id := by
  induction h with
  | nil => exact ⟨nofun, nofun⟩
  | attr _ _ ih => exact ih
  | edge he _ ih =>
    cases he with
    | intro => exact ⟨List.forall_mem_cons.2 ⟨rfl, ih.1⟩, ih.2⟩
  | child _ _ _ _ _ _ _ ihBody ih =>
    rw [Node.preOrderAll_cons, List.forall_mem_cons, List.forall_mem_append]
    exact ⟨ih.1, ihBody.1, ihBody.2, ih.2⟩

/-! ### The order of names -/

/-- The name of an attribute is its value. -/
theorem AttributeDecl.names_eq {a : Attribute} (h : AttributeDecl xs a) : names xs = [a.value] := by
  cases h with
  | color hk hc hx => simp [names, Lexeme.name?, hk, hc, hx]
  | label hk hc h =>
    cases h with
    | bare hx => simp [names, Lexeme.name?, hk, hc, hx]
    | quoted hq hx hq' => simp [names, Lexeme.name?, hk, hc, hq, hx, hq']

/-- The names of the attributes of an edge are their values. -/
theorem AttributeDecls.names_eq {as : List Attribute} (h : AttributeDecls xs as) :
    names xs = as.map Attribute.value := by
  induction h with
  | nil => rfl
  | cons ha _ ih => rw [names_append, ha.names_eq, ih, List.map_cons, List.singleton_append]

/-- The names of an edge are its target, perhaps behind its source, and the values of its
attributes. -/
theorem EdgeDecl.exists_names_eq {id : Spanned} {e : Edge} (h : EdgeDecl id xs e) :
    ∃ front, names xs = front ++ e.target :: e.attributes.map Attribute.value := by
  cases h with
  | @intro k o c _ body _ attributes hk hhead ho hbody hc =>
    have hnames : ∀ front, names (front ++ o :: (body ++ [c])) =
        names front ++ attributes.map Attribute.value := by
      intro front
      have ho' : o.name? = none := by simp [Lexeme.name?, ho]
      have hc' : c.name? = none := by simp [Lexeme.name?, hc]
      rw [names_append, names_cons_of_none ho', names_append, names_cons_of_none hc',
        hbody.names_eq]
      exact congrArg (names front ++ ·) (List.append_nil _)
    have hk' : k.name? = none := by simp [Lexeme.name?, hk]
    rw [names_cons_of_none hk', hnames]
    cases hhead with
    | implicit hx => exact ⟨[], by rw [names_cons_of_identifier hx]; rfl⟩
    | @explicit x a y _ hx ha hy =>
      have ha' : a.name? = none := by simp [Lexeme.name?, ha]
      refine ⟨[⟨id.text, x.span⟩], ?_⟩
      rw [names_cons_of_identifier hx, names_cons_of_none ha', names_cons_of_identifier hy]
      rfl

/-- The names of a node and of what follows it: its own, those in its body, and the others. -/
theorem names_of_node {k x o c : Lexeme} {name : String} (hk : k.token = .node)
    (hx : x.token = .identifier name) (ho : o.token = .lbrace) (hc : c.token = .rbrace)
    (body rest : List Lexeme) :
    names (k :: x :: o :: (body ++ c :: rest)) = ⟨name, x.span⟩ :: (names body ++ names rest) := by
  have hk' : k.name? = none := by simp [Lexeme.name?, hk]
  have ho' : o.name? = none := by simp [Lexeme.name?, ho]
  have hc' : c.name? = none := by simp [Lexeme.name?, hc]
  rw [names_cons_of_none hk', names_cons_of_identifier hx, names_cons_of_none ho', names_append,
    names_cons_of_none hc']

/-- The names of nodes stand in pre-order. -/
theorem NodeItems.sublist_ids {id : Spanned} {as : List Attribute} {es : List Edge}
    {ns : List Node} (h : NodeItems id xs as es ns) :
    ((Node.preOrderAll ns).map Node.id).Sublist (names xs) := by
  induction h with
  | nil => exact .slnil
  | attr _ _ ih =>
    rw [names_append]
    exact ih.trans (List.sublist_append_right _ _)
  | edge _ _ ih =>
    rw [names_append]
    exact ih.trans (List.sublist_append_right _ _)
  | child hk hx hid ho _ hc _ ihBody ih =>
    rw [names_of_node hk hx ho hc, Node.preOrderAll_cons, List.map_cons, hid, List.map_append]
    exact (ihBody.append ih).cons_cons _

end Placed

end Grammar

/-- What is listed in a node itself stands in the order of its lists among the names `ys`. -/
structure Node.InOrder (ys : List Spanned) (n : Node) : Prop where
  /-- The values of the attributes are in order. -/
  attributes : (n.attributes.map Attribute.value).Sublist ys
  /-- The targets of the edges are in order. -/
  targets : (n.edges.map Edge.target).Sublist ys
  /-- The values of the attributes of each edge are in order. -/
  edgeAttributes : ∀ e ∈ n.edges, (e.attributes.map Attribute.value).Sublist ys

/-- What is in order among some names is in order among more. -/
theorem Node.InOrder.mono {n : Node} {ys zs : List Spanned} (h : n.InOrder ys)
    (hys : ys.Sublist zs) : n.InOrder zs :=
  ⟨h.attributes.trans hys, h.targets.trans hys, fun e he => (h.edgeAttributes e he).trans hys⟩

namespace Grammar.Placed

variable {xs : List Lexeme}

/-- What is listed in a body, and in each node inside of it, stands in the order of the lists. -/
theorem NodeItems.inOrder {id : Spanned} {as : List Attribute} {es : List Edge} {ns : List Node}
    (h : NodeItems id xs as es ns) :
    ∀ n ∈ (Node.mk id as es ns).preOrder, n.InOrder (names xs) := by
  induction h with
  | nil => exact List.forall_mem_singleton.2 ⟨.slnil, .slnil, nofun⟩
  | @attr _ first rest a _ _ _ ha _ ih =>
    obtain ⟨hown, hnested⟩ := List.forall_mem_cons.1 ih
    have hrest : (names rest).Sublist (names (first ++ rest)) := by
      rw [names_append]
      exact List.sublist_append_right _ _
    have hown' := hown.mono hrest
    refine List.forall_mem_cons.2 ⟨⟨?_, hown'.targets, hown'.edgeAttributes⟩,
      fun n hn => (hnested n hn).mono hrest⟩
    -- The attribute stands in front of the others.
    rw [names_append, ha.names_eq]
    exact hown.attributes.cons_cons a.value
  | @edge _ first rest e _ _ _ he _ ih =>
    obtain ⟨hown, hnested⟩ := List.forall_mem_cons.1 ih
    obtain ⟨front, hfirst⟩ := he.exists_names_eq
    have hrest : (names rest).Sublist (names (first ++ rest)) := by
      rw [names_append]
      exact List.sublist_append_right _ _
    have hedge : (e.target :: e.attributes.map Attribute.value).Sublist (names first) := by
      rw [hfirst]
      exact List.sublist_append_right _ _
    have hown' := hown.mono hrest
    refine List.forall_mem_cons.2 ⟨⟨hown'.attributes, ?_, List.forall_mem_cons.2
      ⟨?_, hown'.edgeAttributes⟩⟩, fun n hn => (hnested n hn).mono hrest⟩
    · rw [names_append]
      exact ((List.singleton_sublist.2 List.mem_cons_self).trans hedge).append hown.targets
    · rw [names_append]
      exact ((List.sublist_cons_self _ _).trans hedge).trans (List.sublist_append_left _ _)
  | @child _ _ x _ _ body rest name n _ _ _ hk hx _ ho _ hc _ ihBody ih =>
    obtain ⟨hown, hnested⟩ := List.forall_mem_cons.1 ih
    rw [names_of_node hk hx ho hc]
    have hbody : (names body).Sublist (⟨name, x.span⟩ :: (names body ++ names rest)) :=
      (List.sublist_append_left _ _).cons _
    have hrest : (names rest).Sublist (⟨name, x.span⟩ :: (names body ++ names rest)) :=
      (List.sublist_append_right _ _).cons _
    have hown' := hown.mono hrest
    obtain ⟨place, attributes, edges, children⟩ := n
    refine List.forall_mem_cons.2 ⟨⟨hown'.attributes, hown'.targets, hown'.edgeAttributes⟩,
      List.forall_mem_append.2 ⟨fun m hm => (ihBody m hm).mono hbody,
        fun m hm => (hnested m hm).mono hrest⟩⟩

end Grammar.Placed

end DiagramCheck
