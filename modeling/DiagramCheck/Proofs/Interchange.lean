import DiagramCheck.Proofs.NestingLimit

/-!
# Tokens in place of others

Some rows of tokens can stand in place of others: they lead the reader from the same states to the
same ones. `Interchangeable` says this of rows that stand behind given tokens, and then it does not
matter what follows them (`Interchangeable.leads_iff`).

There are three kinds of these. A label may be written in quotes or not (`interchangeable_quotes`).
An edge may be written with its source or without it (`interchangeable_source`), where the source is
the innermost node that is open, which the tokens in front of the edge say (`InNode`). Two items
that stand next to each other in the body of a node may change places when they are of different
kinds (`interchangeable_items`), since each of them adds to a list of its own.

Places play no part here, so the tokens stand nowhere (`Token.placeless`). A source is read as the
diagram that its tokens lead to, up to places (`Diagram.exists_parse_iff_leads`).
-/

namespace DiagramCheck

open Grammar

/-! ## Tokens without places -/

/-- A token that stands nowhere. -/
def Token.placeless (t : Token) : Lexeme :=
  ⟨t, Position.origin, Span.origin⟩

/-- Tokens stay what they are without places. -/
theorem Token.map_token_placeless (ts : List Token) :
    (ts.map placeless).map Lexeme.token = ts := by
  rw [List.map_map]
  exact List.map_id ts

namespace ParseState

/-- `s.Leads ts t` says that the tokens `ts` lead from the state `s` to the state `t` when they
stand nowhere. -/
def Leads (s : ParseState) (ts : List Token) (t : ParseState) : Prop :=
  s.Reaches (ts.map Token.placeless) t

variable {s t t' : ParseState} {x : Lexeme} {xs ys : List Lexeme} {ts us : List Token}

/-- Tokens that stand one behind the other lead past a state between them. -/
theorem leads_append_iff : s.Leads (ts ++ us) t ↔ ∃ m, s.Leads ts m ∧ m.Leads us t := by
  rw [Leads, List.map_append]
  exact ⟨fun h => h.exists_of_append, fun ⟨_, hts, hus⟩ => hts.trans hus⟩

/-! ## Steps and runs have one end -/

/-- A token leads to one state. -/
theorem Takes.unique (h : s.Takes x t) (h' : s.Takes x t') : t = t' :=
  Except.ok.inj ((step_eq_ok_iff.2 h).symm.trans (step_eq_ok_iff.2 h'))

/-- Tokens lead to one state. -/
theorem Reaches.unique (h : s.Reaches xs t) (h' : s.Reaches xs t') : t = t' := by
  induction h with
  | refl =>
    cases h'
    rfl
  | cons h _ ih =>
    cases h' with
    | cons h₁ hrest =>
      cases h.unique h₁
      exact ih hrest

/-- Tokens that come to a node that is nested too deep lead nowhere. -/
theorem Exceeds.not_reaches (h : s.Exceeds xs) : ¬s.Reaches xs t := by
  obtain ⟨ys, x, zs, m, rfl, hm, hx⟩ := h
  intro hrun
  obtain ⟨m', hm', hrest⟩ := hrun.exists_of_append
  cases hm.unique hm'
  cases hrest with
  | cons h _ =>
    rw [step_eq_ok_iff.2 h] at hx
    cases hx

/-! ## Attributes -/

/-- The keyword of an attribute is taken in the body of a node or in that of an edge. -/
theorem Takes.of_keyword {kind : AttributeKind} (h : s.Takes x t) (hx : x.token = kind.keyword) :
    (∃ finished enclosing node, s = .inside finished enclosing (.nodeBody node)) ∨
      ∃ finished enclosing node edge, s = .inside finished enclosing (.edgeBody node edge) := by
  cases h with
  | nodeKeyword finished enclosing node _ _ => exact .inl ⟨finished, enclosing, node, rfl⟩
  | edgeAttributeKeyword finished enclosing node edge _ _ =>
    exact .inr ⟨finished, enclosing, node, edge, rfl⟩
  | nodeStage _ _ _ h | nodeAttribute _ _ _ h | edgeStage _ _ _ _ h | edgeAttribute _ _ _ _ h =>
    cases kind <;> cases h <;> simp_all [AttributeKind.keyword]
  | _ => cases kind <;> simp_all [AttributeKind.keyword]

/-- Two ways to write one attribute lead to the same state. -/
theorem Reaches.of_attributeDecl {a : Attribute} (hxs : Placed.AttributeDecl xs a)
    (hys : Placed.AttributeDecl ys a) (h : s.Reaches xs t) : s.Reaches ys t := by
  obtain ⟨kind, x, rest, rfl, hx, -⟩ := hxs.completes
  have hfirst : ∃ m, s.Takes x m := by
    cases h with
    | cons h _ => exact ⟨_, h⟩
  obtain ⟨m, hm⟩ := hfirst
  rcases hm.of_keyword hx with
    ⟨finished, enclosing, node, rfl⟩ | ⟨finished, enclosing, node, edge, rfl⟩
  · rw [h.unique (hxs.reaches finished enclosing node)]
    exact hys.reaches finished enclosing node
  · have hsingle : ∀ {zs : List Lexeme}, Placed.AttributeDecl zs a →
        Placed.AttributeDecls zs [a] := by
      intro zs hzs
      have hlist := Placed.AttributeDecls.cons hzs .nil
      rwa [List.append_nil] at hlist
    rw [h.unique ((hsingle hxs).reaches finished enclosing node edge)]
    exact (hsingle hys).reaches finished enclosing node edge

/-! ## Edges and items -/

/-- A keyword that begins an item, where the node `id` is the innermost open declaration, is taken
in the body of that node. -/
theorem Takes.of_item {id : String} (h : s.Takes x t)
    (hs : s.opened.head? = some (.node (some id)))
    (hx : x.token = .edge ∨ x.token = .node ∨ ∃ kind, x.token = AttributeKind.keyword kind) :
    ∃ finished enclosing node, s = .inside finished enclosing (.nodeBody node) ∧
      node.id.text = id := by
  have hname : ∀ node : Node, some node.opened = some (.node (some id)) → node.id.text = id := by
    intro node hnode
    simpa [Node.opened] using hnode
  cases h with
  | closeNode finished enclosing node _ | openNested finished enclosing node _ _
  | nodeKeyword finished enclosing node _ _ | edgeKeyword finished enclosing node _ =>
    exact ⟨finished, enclosing, node, rfl, hname node hs⟩
  | openTop | closeEdge | edgeAttributeKeyword => cases hs
  | nodeStage _ _ _ h | nodeAttribute _ _ _ h | edgeStage _ _ _ _ h | edgeAttribute _ _ _ _ h =>
    -- Inside of an attribute there is no such keyword.
    rcases hx with hx | hx | ⟨kind, hx⟩
    · cases h <;> simp_all
    · cases h <;> simp_all
    · cases kind <;> cases h <;> simp_all [AttributeKind.keyword]
  | _ =>
    rcases hx with hx | hx | ⟨kind, hx⟩
    · simp_all
    · simp_all
    · cases kind <;> simp_all [AttributeKind.keyword]

/-- Two ways to write the names of one edge of the node `id` lead to the same state. -/
theorem Reaches.of_edgeHead {id : String} {k o : Lexeme} {target : Spanned}
    (hs : s.opened.head? = some (.node (some id))) (hk : k.token = .edge) (ho : o.token = .lbrace)
    (hxs : ∀ place : Spanned, place.text = id → Placed.EdgeHead place xs target)
    (hys : ∀ place : Spanned, place.text = id → Placed.EdgeHead place ys target)
    (h : s.Reaches (k :: (xs ++ [o])) t) : s.Reaches (k :: (ys ++ [o])) t := by
  obtain ⟨finished, enclosing, node, rfl, hid⟩ : ∃ finished enclosing node,
      s = .inside finished enclosing (.nodeBody node) ∧ node.id.text = id := by
    cases h with
    | cons h _ => exact h.of_item hs (.inl hk)
  have hopened : ∀ {zs : List Lexeme}, Placed.EdgeHead node.id zs target →
      Reaches (.inside finished enclosing (.nodeBody node)) (k :: (zs ++ [o]))
        (.inside finished enclosing (.edgeBody node ⟨node.id, target, []⟩)) :=
    fun hzs => .cons (.edgeKeyword _ _ _ hk) (hzs.reaches finished enclosing node ho)
  rw [h.unique (hopened (hxs node.id hid))]
  exact hopened (hys node.id hid)

end ParseState

namespace Grammar

/-- The kinds of items in the body of a node. -/
inductive ItemKind
  /-- An attribute. -/
  | attr
  /-- An edge. -/
  | edge
  /-- A nested node. -/
  | child
  deriving DecidableEq

/-- `Item id kind ts` says that the tokens `ts` are an item of this kind in the body of the node
`id`. -/
inductive Item (id : String) : ItemKind → List Token → Prop
  /-- An attribute. -/
  | attr {ts : List Token} {a : Attribute} (h : AttributeDecl ts a) : Item id .attr ts
  /-- An edge. -/
  | edge {ts : List Token} {e : Edge} (h : EdgeDecl id ts e) : Item id .edge ts
  /-- A nested node. -/
  | child {ts : List Token} {n : Node} (h : NodeDecl ts n) : Item id .child ts

/-- An item begins with a keyword. -/
theorem Item.head_eq {id : String} {kind : ItemKind} {ts : List Token} (h : Item id kind ts) :
    ∃ keyword rest, ts = keyword :: rest ∧
      (keyword = .edge ∨ keyword = .node ∨ ∃ kind, keyword = AttributeKind.keyword kind) := by
  cases h with
  | attr h =>
    obtain ⟨rest, rfl | rfl⟩ := h.head_eq
    · exact ⟨_, rest, rfl, .inr (.inr ⟨.color, rfl⟩)⟩
    · exact ⟨_, rest, rfl, .inr (.inr ⟨.label, rfl⟩)⟩
  | edge h =>
    obtain ⟨rest, rfl⟩ := h.head_eq
    exact ⟨_, rest, rfl, .inl rfl⟩
  | child h =>
    obtain ⟨rest, rfl⟩ := h.head_eq
    exact ⟨_, rest, rfl, .inr (.inl rfl)⟩

/-- What an item of a kind adds to the lists of its node: something to one of the three, and nothing
to the other two. -/
def ItemKind.Adds : ItemKind → List Attribute → List Edge → List Node → Prop
  | .attr, _, es, ns => es = [] ∧ ns = []
  | .edge, as, _, ns => as = [] ∧ ns = []
  | .child, as, es, _ => as = [] ∧ es = []

/-- Items of different kinds add to different lists, so their order is lost. -/
theorem ItemKind.Adds.append_comm {k k' : ItemKind} (hne : k ≠ k') {as as' : List Attribute}
    {es es' : List Edge} {ns ns' : List Node} (h : k.Adds as es ns) (h' : k'.Adds as' es' ns') :
    as ++ as' = as' ++ as ∧ es ++ es' = es' ++ es ∧ ns ++ ns' = ns' ++ ns := by
  cases k <;> cases k' <;> simp_all [Adds]

/-- The lexemes of an item, with what it adds to the lists of the node that it stands in. -/
theorem Item.exists_placed {kind : ItemKind} {ts : List Token} {xs : List Lexeme} {place : Spanned}
    (h : Item place.text kind ts) (hxs : xs.map Lexeme.token = ts) :
    ∃ as es ns, Placed.NodeItems place xs as es ns ∧ kind.Adds as es ns := by
  cases h with
  | attr h =>
    obtain ⟨a, ha⟩ := h.exists_placed hxs
    have hitems : Placed.NodeItems place _ [a] [] [] := .attr ha .nil
    rw [List.append_nil] at hitems
    exact ⟨_, _, _, hitems, rfl, rfl⟩
  | edge h =>
    obtain ⟨e, he⟩ := h.exists_placed hxs
    have hitems := Placed.NodeItems.edge he .nil
    rw [List.append_nil] at hitems
    exact ⟨_, _, _, hitems, rfl, rfl⟩
  | child h =>
    -- A single node is a forest.
    have hdecls := NodeDecls.cons h .nil
    rw [List.append_nil] at hdecls
    obtain ⟨ns, hitems, -⟩ := hdecls.exists_placed place hxs
    exact ⟨_, _, _, hitems, rfl, rfl⟩

/-- Two runs of items with places in one body, one behind the other. -/
theorem Placed.NodeItems.append {id : Spanned} {xs ys : List Lexeme} {as as' : List Attribute}
    {es es' : List Edge} {ns ns' : List Node} (h : NodeItems id xs as es ns)
    (h' : NodeItems id ys as' es' ns') :
    NodeItems id (xs ++ ys) (as ++ as') (es ++ es') (ns ++ ns') := by
  induction h with
  | nil => exact h'
  | attr ha _ ih =>
    rw [List.append_assoc]
    exact .attr ha (ih h')
  | edge he _ ih =>
    rw [List.append_assoc]
    exact .edge he (ih h')
  | child hk hx hid ho hbody hc _ _ ih =>
    simp only [List.cons_append, List.append_assoc]
    exact .child hk hx hid ho hbody hc (ih h')

end Grammar

/-- Items of different kinds lead to the same state in either order. -/
theorem ParseState.Reaches.swap_items {finished enclosing : List Node} {node : Node}
    {t : ParseState} {xs ys : List Lexeme} {as as' : List Attribute} {es es' : List Edge}
    {ns ns' : List Node} (hroom : enclosing.length + 1 ≤ maxNesting)
    (hxs : Placed.NodeItems node.id xs as es ns) (hys : Placed.NodeItems node.id ys as' es' ns')
    (hcomm : as ++ as' = as' ++ as ∧ es ++ es' = es' ++ es ∧ ns ++ ns' = ns' ++ ns)
    (h : Reaches (.inside finished enclosing (.nodeBody node)) (xs ++ ys) t) :
    Reaches (.inside finished enclosing (.nodeBody node)) (ys ++ xs) t := by
  obtain ⟨has, hes, hns⟩ := hcomm
  obtain ⟨id, as₀, es₀, ns₀⟩ := node
  -- The run shows that the nested nodes fit, in whichever order they come.
  have hdepth : enclosing.length + 1 + Node.nestingAll (ns ++ ns') ≤ maxNesting := by
    by_contra hdeep
    exact ((hxs.append hys).exceeds finished enclosing as₀ es₀ ns₀ hroom
      (Nat.lt_of_not_le hdeep)).not_reaches h
  have hrun := (hxs.append hys).reaches finished enclosing as₀ es₀ ns₀ hdepth
  rw [hns] at hdepth
  have hswapped := (hys.append hxs).reaches finished enclosing as₀ es₀ ns₀ hdepth
  rw [h.unique hrun, has, hes, hns]
  exact hswapped

/-! ## Rows of tokens -/

/-- Behind the tokens `pre`, the node `id` is the innermost open declaration. -/
def InNode (pre : List Token) (id : String) : Prop :=
  (Opened.behind pre).head? = some (.node (some id))

instance (pre : List Token) (id : String) : Decidable (InNode pre id) :=
  inferInstanceAs (Decidable (_ = _))

/-- `Interchangeable pre ts us` says that behind the tokens `pre`, the tokens `ts` and `us` lead the
reader to the same states. -/
def Interchangeable (pre ts us : List Token) : Prop :=
  ∀ s t, ParseState.start.Leads pre s → (s.Leads ts t ↔ s.Leads us t)

/-- What stands behind interchangeable tokens does not matter. -/
theorem Interchangeable.leads_iff {pre ts us : List Token} (h : Interchangeable pre ts us)
    (post : List Token) (t : ParseState) :
    ParseState.start.Leads (pre ++ ts ++ post) t ↔
      ParseState.start.Leads (pre ++ us ++ post) t := by
  simp only [ParseState.leads_append_iff]
  constructor
  · rintro ⟨m, ⟨s, hs, hts⟩, hpost⟩
    exact ⟨m, ⟨s, hs, (h s m hs).1 hts⟩, hpost⟩
  · rintro ⟨m, ⟨s, hs, hus⟩, hpost⟩
    exact ⟨m, ⟨s, hs, (h s m hs).2 hus⟩, hpost⟩

/-- The innermost open declaration of a state is the one behind the tokens that led there. -/
theorem ParseState.Leads.head?_opened {pre : List Token} {id : String} {s : ParseState}
    (h : ParseState.start.Leads pre s) (hid : InNode pre id) :
    s.opened.head? = some (.node (some id)) := by
  rw [ParseState.Reaches.opened_eq_behind h, Token.map_token_placeless]
  exact hid

variable {pre : List Token}

/-- A label may be written in quotes or not. -/
theorem interchangeable_quotes (pre : List Token) (value : String) :
    Interchangeable pre [.label, .colon, .identifier value]
      [.label, .colon, .quote, .identifier value, .quote] := by
  have hbare : Placed.AttributeDecl ([.label, .colon, .identifier value].map Token.placeless)
      ⟨.label, ⟨value, Span.origin⟩⟩ := .label rfl rfl (.bare rfl)
  have hquoted : Placed.AttributeDecl
      ([.label, .colon, .quote, .identifier value, .quote].map Token.placeless)
      ⟨.label, ⟨value, Span.origin⟩⟩ := .label rfl rfl (.quoted rfl rfl rfl)
  exact fun s t _ => ⟨fun h => h.of_attributeDecl hbare hquoted,
    fun h => h.of_attributeDecl hquoted hbare⟩

/-- An edge in the node `id` may be written with that source or without one. -/
theorem interchangeable_source {id : String} (hid : InNode pre id) (target : String) :
    Interchangeable pre [.edge, .identifier target, .lbrace]
      [.edge, .identifier id, .arrow, .identifier target, .lbrace] := by
  have himplicit : ∀ place : Spanned, place.text = id →
      Placed.EdgeHead place [Token.placeless (.identifier target)] ⟨target, Span.origin⟩ :=
    fun _ _ => .implicit rfl
  have hexplicit : ∀ place : Spanned, place.text = id → Placed.EdgeHead place
      ([.identifier id, .arrow, .identifier target].map Token.placeless)
      ⟨target, Span.origin⟩ := by
    rintro place rfl
    exact .explicit rfl rfl rfl
  intro s t hs
  have hopened := hs.head?_opened hid
  exact ⟨fun h => h.of_edgeHead hopened rfl rfl himplicit hexplicit,
    fun h => h.of_edgeHead hopened rfl rfl hexplicit himplicit⟩

/-- Two items of different kinds in the node `id` lead to the same states in either order. -/
theorem leads_swap {id : String} (hid : InNode pre id) {k k' : ItemKind} {ts us : List Token}
    (hts : Item id k ts) (hus : Item id k' us) (hne : k ≠ k') {s t : ParseState}
    (hs : ParseState.start.Leads pre s) (h : s.Leads (ts ++ us) t) : s.Leads (us ++ ts) t := by
  obtain ⟨keyword, rest, hhead, hkeyword⟩ := hts.head_eq
  obtain ⟨finished, enclosing, node, rfl, hnode⟩ : ∃ finished enclosing node,
      s = .inside finished enclosing (.nodeBody node) ∧ node.id.text = id := by
    rw [hhead] at h
    cases h with
    | cons h _ => exact h.of_item (hs.head?_opened hid) hkeyword
  subst hnode
  obtain ⟨_, _, _, hxs, hadds⟩ := hts.exists_placed (Token.map_token_placeless ts)
  obtain ⟨_, _, _, hys, hadds'⟩ := hus.exists_placed (Token.map_token_placeless us)
  have hroom : enclosing.length + 1 ≤ maxNesting := ParseState.Reaches.depth_le hs
  rw [ParseState.Leads, List.map_append] at h ⊢
  exact h.swap_items hroom hxs hys (hadds.append_comm hne hadds')

/-- Two items of different kinds may change places in the node `id`. -/
theorem interchangeable_items {id : String} (hid : InNode pre id) {k k' : ItemKind}
    {ts us : List Token} (hts : Item id k ts) (hus : Item id k' us) (hne : k ≠ k') :
    Interchangeable pre (ts ++ us) (us ++ ts) :=
  fun _ _ hs => ⟨leads_swap hid hts hus hne hs, leads_swap hid hus hts hne.symm hs⟩

/-! ## Sources -/

/-- A source is read as a diagram, up to places, exactly when its tokens lead to it. -/
theorem Diagram.exists_parse_iff_leads {source : String} {d : Diagram} :
    (∃ d', Diagram.parse source = .ok d' ∧ d'.agrees d = true) ↔
      ∃ d' : Diagram, ParseState.start.Leads (TokenStream.ofString source).tokens
          (.outside d'.topLevel) ∧
        d'.agrees d = true := by
  constructor
  · rintro ⟨d₀, hparse, hagrees⟩
    obtain ⟨hderives, hdepth⟩ := derives_of_parse hparse
    obtain ⟨d', ⟨_, hitems⟩, hnesting⟩ := hderives.exists_placed (Token.map_token_placeless _)
    rw [← hnesting] at hdepth
    have hrun := hitems.reaches_outside [] rfl rfl hdepth
    -- The tokens are a text of both diagrams.
    have hderives' := ParseState.Reaches.derives hrun
    rw [Token.map_token_placeless] at hderives'
    exact ⟨d', hrun, hderives'.unambiguous (hderives.of_agrees hagrees)⟩
  · rintro ⟨d', hrun, hagrees⟩
    have hderives := ParseState.Reaches.derives hrun
    rw [Token.map_token_placeless] at hderives
    have hdepth : d'.nesting ≤ maxNesting := ParseState.Reaches.nesting_le hrun
    exact exists_parse_of_derives (hderives.of_agrees hagrees)
      (nesting_eq_of_agrees hagrees ▸ hdepth)

end DiagramCheck
