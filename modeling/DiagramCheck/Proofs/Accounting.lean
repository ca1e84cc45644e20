import DiagramCheck.Proofs.Acceptance
import DiagramCheck.Proofs.Grammar.Ledger
import DiagramCheck.Proofs.Tokenization
import DiagramCheck.Proofs.Traversal
import Mathlib

/-!
# A diagram and the source that it was read from

A diagram that is read from a source accounts for all of its tokens (`Diagram.AccountsFor`,
`Diagram.accountsFor_of_parse`): its texts are those that stand at their spans, edges start at the
very name of their node, each name of the source is used once, the numbers of tokens are those that
the diagram asks for, and each list of the diagram is in the order of the source.

Most of this is in the derivation with places that the diagram has (`Grammar.Ledger`). What is added
here is where its names stand: at their own texts (`TokenStream.marks_of_mem_names`) and one behind
the other (`TokenStream.increasing_names`).
-/

namespace DiagramCheck

open Text Grammar

/-! ## Names in a source -/

/-- The text that spells an identifier is its name, and there is no quote in it. -/
theorem Token.SpelledBy.eq_of_identifier {name : String} {text after : List Char}
    (h : (Token.identifier name).SpelledBy text after) : text = name.toList ∧ '\x22' ∉ text := by
  generalize ht : Token.identifier name = t at h
  cases h with
  | @word c cs _ hc hcs =>
    have hword : String.ofList (c :: cs) = name := by
      unfold ofWord at ht
      split at ht
      case h_7 =>
        cases ht
        rfl
      all_goals cases ht
    refine ⟨by rw [← hword, String.toList_ofList], fun hquote => ?_⟩
    rcases List.mem_cons.1 hquote with rfl | hmem
    · exact absurd hc (by decide)
    · exact absurd (hcs _ hmem) (by decide)
  | _ => cases ht

/-- Two spans are in order when the first one ends before the second one starts, and starts before
it does. -/
def Span.Precedes (a b : Span) : Prop :=
  a.start < b.start ∧ a.stop ≤ b.start

/-- Texts are in order when their spans strictly increase. -/
def Increasing (vs : List Spanned) : Prop :=
  vs.Pairwise fun v w => v.span.Precedes w.span

namespace TokenStream

/-- Each name of a source is what stands at its span. -/
theorem marks_of_mem_names {source : String} {v : Spanned}
    (h : v ∈ names (ofString source).words) :
    v.span.Marks source v.text ∧ '\x22' ∉ v.text.toList := by
  obtain ⟨x, hx, hname⟩ := List.mem_filterMap.1 h
  obtain ⟨htoken, hspan⟩ := Lexeme.eq_of_name? hname
  obtain ⟨before, text, after, hsplits, hspelled, -⟩ :=
    (cutsUp source).spelled x.placed (List.mem_map_of_mem hx)
  rw [Lexeme.placed, htoken, hspan] at hsplits hspelled
  obtain ⟨rfl, hquote⟩ := hspelled.eq_of_identifier
  exact ⟨⟨before, after, hsplits⟩, hquote⟩

/-- The names of a source are in order. -/
theorem increasing_names (source : String) : Increasing (names (ofString source).words) := by
  obtain ⟨hwords, hpairs⟩ := (Cursor.ofString source).stream_spans
  refine List.pairwise_filterMap.2 (hpairs.imp_of_mem fun hx hy hxy v hv w hw => ?_)
  have hx_pos := (hwords _ hx).2
  rw [Span.Precedes, ← (Lexeme.eq_of_name? hv).2, ← (Lexeme.eq_of_name? hw).2]
  omega

end TokenStream

/-! ## Accounting -/

/-- All texts of a diagram: the names of nodes, the values of attributes, and both ends of edges. -/
def Diagram.texts (d : Diagram) : List Spanned :=
  d.nodes.map Node.id ++ d.attributes.map Attribute.value ++
    d.edges.flatMap fun e => [e.source, e.target]

/-- `d.AccountsFor source` says that the diagram `d` tells of all tokens of the source what they are
used for, and where. -/
structure Diagram.AccountsFor (d : Diagram) (source : String) : Prop where
  /-- Every text is the one that stands at its span, and no quote belongs to it. -/
  marks : ∀ v ∈ d.texts, v.span.Marks source v.text ∧ '\x22' ∉ v.text.toList
  /-- Every edge starts at the name of the node that it is declared in, where that name stands. -/
  source_eq : ∀ n ∈ d.nodes, ∀ e ∈ n.edges, e.source = n.id
  /-- Every name of the source is used once: for a node, as a value, as a target, or as the written
  source of an edge, which has the text of that source and is written at most once. -/
  names_used : ∃ written : List (Spanned × Edge),
    (names (TokenStream.ofString source).words).Perm (d.nodes.map Node.id ++
      d.attributes.map Attribute.value ++ d.edges.map Edge.target ++ written.map Prod.fst) ∧
    (written.map Prod.snd).Subperm d.edges ∧
    ∀ p ∈ written, WritesSource (TokenStream.ofString source).words p.1 p.2
  /-- There is one keyword for each node. -/
  count_node : (TokenStream.ofString source).tokens.count .node = d.nodeCount
  /-- There is one keyword for each edge. -/
  count_edge : (TokenStream.ofString source).tokens.count .edge = d.edgeCount
  /-- There is one keyword for each attribute. -/
  count_keyword : (TokenStream.ofString source).tokens.count .color +
    (TokenStream.ofString source).tokens.count .label = d.attributes.length
  /-- There is one colon for each attribute. -/
  count_colon : (TokenStream.ofString source).tokens.count .colon = d.attributes.length
  /-- Each node and each edge has an opening brace. -/
  count_lbrace : (TokenStream.ofString source).tokens.count .lbrace = d.nodeCount + d.edgeCount
  /-- Each node and each edge has a closing brace. -/
  count_rbrace : (TokenStream.ofString source).tokens.count .rbrace = d.nodeCount + d.edgeCount
  /-- Each node, edge and attribute has a name, and so has each arrow. -/
  count_names : (names (TokenStream.ofString source).words).length =
    d.nodeCount + d.edgeCount + d.attributes.length +
      (TokenStream.ofString source).tokens.count .arrow
  /-- Quotes come in pairs. -/
  count_quote : Even ((TokenStream.ofString source).tokens.count .quote)
  /-- The names of all nodes are in order. -/
  increasing_ids : Increasing (d.nodes.map Node.id)
  /-- The names of the top-level nodes are in order. -/
  increasing_topLevel : Increasing (d.topLevel.map Node.id)
  /-- The names of the nodes nested in a node are in order. -/
  increasing_children : ∀ n ∈ d.nodes, Increasing (n.children.map Node.id)
  /-- The values of the attributes of a node are in order. -/
  increasing_attributes : ∀ n ∈ d.nodes, Increasing (n.attributes.map Attribute.value)
  /-- The targets of the edges of a node are in order. -/
  increasing_targets : ∀ n ∈ d.nodes, Increasing (n.edges.map Edge.target)
  /-- The values of the attributes of an edge are in order. -/
  increasing_edgeAttributes : ∀ e ∈ d.edges, Increasing (e.attributes.map Attribute.value)

/-- All texts of a diagram that is read are names of its source. -/
theorem Diagram.mem_names_of_mem_texts {xs : List Lexeme} {d : Diagram}
    {written : List (Spanned × Edge)}
    (hledger : Ledger xs (d.nodes.map Node.id) d.attributes d.edges written)
    (hsource : ∀ n ∈ d.nodes, ∀ e ∈ n.edges, e.source = n.id) {v : Spanned} (h : v ∈ d.texts) :
    v ∈ names xs := by
  rw [hledger.names_perm.mem_iff]
  simp only [texts, List.mem_append, List.mem_flatMap, List.mem_cons, List.not_mem_nil,
    or_false] at h ⊢
  rcases h with (hid | hvalue) | ⟨e, he, rfl | rfl⟩
  · exact .inl (.inl (.inl hid))
  · exact .inl (.inl (.inr hvalue))
  · -- The source of an edge is the name of its node.
    obtain ⟨n, hn, he⟩ := List.mem_flatMap.1 he
    rw [hsource n hn e he]
    exact .inl (.inl (.inl (List.mem_map_of_mem hn)))
  · exact .inl (.inr (List.mem_map_of_mem he))

/-- A diagram that is read from a source accounts for it. -/
theorem Diagram.accountsFor_of_parse {source : String} {d : Diagram}
    (h : Diagram.parse source = .ok d) : d.AccountsFor source := by
  obtain ⟨id, hitems⟩ := placed_of_parse h
  obtain ⟨written, hledger⟩ := hitems.exists_ledger
  change Ledger _ (d.nodes.map Node.id) d.attributes d.edges written at hledger
  have hsource := hitems.source_eq.2
  have hordered := (List.forall_mem_cons.1 hitems.inOrder).2
  have hnames := TokenStream.increasing_names source
  have hids := hnames.sublist hitems.sublist_ids
  have hnodes : (d.nodes.map Node.id).length = d.nodeCount := List.length_map _
  refine {
    marks := fun v hv => TokenStream.marks_of_mem_names (mem_names_of_mem_texts hledger hsource hv)
    source_eq := hsource
    names_used := ⟨written, hledger.names_perm, hledger.written_subperm, hledger.writesSource⟩
    count_node := hledger.count_node.trans hnodes
    count_edge := hledger.count_edge
    count_keyword := hledger.count_keyword
    count_colon := hledger.count_colon
    count_lbrace := hnodes ▸ hledger.count_lbrace
    count_rbrace := hnodes ▸ hledger.count_rbrace
    count_names := hnodes ▸ hledger.length_names
    count_quote := Nat.even_iff.2 hledger.count_quote
    increasing_ids := hids
    increasing_topLevel := hids.sublist ((Node.sublist_preOrderAll d.topLevel).map Node.id)
    increasing_children := fun n hn =>
      hids.sublist ((Node.children_sublist_preOrderAll hn).map Node.id)
    increasing_attributes := fun n hn => hnames.sublist (hordered n hn).attributes
    increasing_targets := fun n hn => hnames.sublist (hordered n hn).targets
    increasing_edgeAttributes := ?_ }
  intro e he
  obtain ⟨n, hn, hmem⟩ := List.mem_flatMap.1 he
  exact hnames.sublist ((hordered n hn).edgeAttributes e hmem)

/-- A source with a description in quotes, an edge with an arrow and a nested node is accounted for.
The written source of the edge stands at byte 22, but the edge starts where the name of the node
stands, at byte 5. -/
theorem Diagram.accountsFor_of_parse_arrow :
    let source := "node a\x7bdesc:\x22x\x22 calls a->b\x7bcolor:c\x7dnode b\x7b\x7d\x7d"
    let a : Spanned := ⟨"a", Span.ofBounds 5 6⟩
    let d : Diagram := ⟨[⟨a, [⟨.label, ⟨"x", Span.ofBounds 13 14⟩⟩],
      [⟨a, ⟨"b", Span.ofBounds 25 26⟩, [⟨.color, ⟨"c", Span.ofBounds 33 34⟩⟩]⟩],
      [.ofId ⟨"b", Span.ofBounds 40 41⟩]⟩]⟩
    Diagram.parse source = .ok d ∧ d.AccountsFor source := by
  intro source a d
  have h : Diagram.parse source = .ok d := by cbv
  exact ⟨h, accountsFor_of_parse h⟩

end DiagramCheck
