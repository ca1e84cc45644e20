import DiagramCheck.Proofs.Acceptance
import DiagramCheck.Proofs.Writing
import Mathlib

/-!
# Diagrams as texts

A diagram is writable (`Diagram.isWritable`) when all of its texts are names, its edges start at the
nodes that they are declared in, and its nodes stand on at most `maxNesting` levels. The text of a
diagram (`Layout.render`) gives for each node its attributes, its edges and its nested nodes, in
this order. A `Layout` says which blanks stand between the chunks of that text, which are not empty;
nothing stands between the tokens of one chunk.

The text of a writable diagram is read back as that diagram, and the reader builds writable diagrams
only (`Diagram.parse_render`). The first half joins two facts: the chunks are a text of the diagram
by the grammar (`Diagram.derives_chunks`), and tokens are read back from how they are written
(`Layout.tokens_render`). The second half follows a derivation all of whose tokens can be written
(`Grammar.NodeItems.isWritable`).
-/

namespace DiagramCheck

open Text Grammar

/-! ## Writable diagrams -/

/-- Whether the value of an attribute is a name. -/
def Attribute.isWritable (a : Attribute) : Bool :=
  Token.isName a.value.text

/-- Whether an edge starts at the node `id`, and all of its texts are names. -/
def Edge.isWritable (id : String) (e : Edge) : Bool :=
  e.source.text == id && Token.isName e.target.text && e.attributes.all Attribute.isWritable

/-- Whether the texts of a node are names and its edges start at it. The nodes nested in it are left
out. -/
def Node.isWritable (n : Node) : Bool :=
  Token.isName n.id.text && n.attributes.all Attribute.isWritable &&
    n.edges.all (Edge.isWritable n.id.text)

/-- Whether a diagram can be written: all of its nodes can, on few enough levels. -/
def Diagram.isWritable (d : Diagram) : Bool :=
  d.nodes.all Node.isWritable && decide (d.nesting ≤ maxNesting)

/-- An edge is writable when it starts at the node `id`, and its target and the values of its
attributes are names. -/
theorem Edge.isWritable_iff {id : String} {e : Edge} : e.isWritable id = true ↔
    e.source.text = id ∧ Token.isName e.target.text = true ∧
      ∀ a ∈ e.attributes, a.isWritable = true := by
  rw [isWritable, Bool.and_eq_true, Bool.and_eq_true, beq_iff_eq, List.all_eq_true, and_assoc]

/-- A node is writable when its name is one and its attributes and its edges are writable. -/
theorem Node.isWritable_iff {n : Node} : n.isWritable = true ↔
    Token.isName n.id.text = true ∧ (∀ a ∈ n.attributes, a.isWritable = true) ∧
      ∀ e ∈ n.edges, e.isWritable n.id.text = true := by
  rw [isWritable, Bool.and_eq_true, Bool.and_eq_true, List.all_eq_true, List.all_eq_true, and_assoc]

/-- A diagram is writable when all of its nodes are and it has few enough levels. -/
theorem Diagram.isWritable_iff {d : Diagram} : d.isWritable = true ↔
    (∀ n ∈ d.nodes, n.isWritable = true) ∧ d.nesting ≤ maxNesting := by
  rw [isWritable, Bool.and_eq_true, List.all_eq_true, decide_eq_true_eq]

/-! ## Chunks -/

/-- The chunks of an attribute. A color is a bare name, a label a name in quotes. -/
def Attribute.chunks (a : Attribute) : List (List Token) :=
  match a.kind with
  | .color => [[.color, .colon], [.identifier a.value.text]]
  | .label => [[.label, .colon], [.quote, .identifier a.value.text, .quote]]

/-- The chunks of an edge: its target, and its attributes in braces. -/
def Edge.chunks (e : Edge) : List (List Token) :=
  [.edge] :: [.identifier e.target.text] :: [.lbrace] ::
    (e.attributes.flatMap Attribute.chunks ++ [[.rbrace]])

mutual

/-- The chunks of a node: its name, and its attributes, its edges and the nodes nested in it in
braces. -/
def Node.chunks : Node → List (List Token)
  | ⟨id, attributes, edges, children⟩ =>
    [.node] :: [.identifier id.text] :: [.lbrace] :: (attributes.flatMap Attribute.chunks ++
      edges.flatMap Edge.chunks ++ Node.chunksAll children ++ [[.rbrace]])

/-- The chunks of a forest. -/
def Node.chunksAll : List Node → List (List Token)
  | [] => []
  | n :: rest => n.chunks ++ Node.chunksAll rest

end

/-- The chunks of a diagram. -/
def Diagram.chunks (d : Diagram) : List (List Token) :=
  Node.chunksAll d.topLevel

/-- The chunks of a node from its parts. -/
theorem Node.chunks_eq (n : Node) : n.chunks = [.node] :: [.identifier n.id.text] :: [.lbrace] ::
    (n.attributes.flatMap Attribute.chunks ++ n.edges.flatMap Edge.chunks ++
      Node.chunksAll n.children ++ [[.rbrace]]) := by
  cases n
  rfl

/-! ### Chunks are texts of what they stand for -/

/-- The chunks of an attribute are a text of it. -/
theorem Attribute.attributeDecl_chunks (a : Attribute) : AttributeDecl a.chunks.flatten a := by
  obtain ⟨kind, value⟩ := a
  cases kind with
  | color => exact .color value
  | label => exact .label (.quoted value)

/-- The chunks of attributes are a text of them in an edge. -/
theorem Attribute.attributeDecls_chunks (as : List Attribute) :
    AttributeDecls (as.flatMap Attribute.chunks).flatten as := by
  induction as with
  | nil => exact .nil
  | cons a as ih =>
    rw [List.flatMap_cons, List.flatten_append]
    exact .cons a.attributeDecl_chunks ih

/-- The chunks of attributes are a text of them in a node. -/
theorem Attribute.nodeItems_chunks (id : String) (as : List Attribute) :
    NodeItems id (as.flatMap Attribute.chunks).flatten as [] [] := by
  induction as with
  | nil => exact .nil
  | cons a as ih =>
    rw [List.flatMap_cons, List.flatten_append]
    exact .attr a.attributeDecl_chunks ih

/-- The chunks of an edge are a text of it in the node that it starts at. -/
theorem Edge.edgeDecl_chunks {id : String} {e : Edge} (h : e.source.text = id) :
    EdgeDecl id e.chunks.flatten e := by
  have hdecl := EdgeDecl.intro h (.implicit e.target) (Attribute.attributeDecls_chunks e.attributes)
  simpa [chunks] using hdecl

/-- The chunks of edges are a text of them in the node that they start at. -/
theorem Edge.nodeItems_chunks {id : String} {es : List Edge} (h : ∀ e ∈ es, e.source.text = id) :
    NodeItems id (es.flatMap Edge.chunks).flatten [] es [] := by
  induction es with
  | nil => exact .nil
  | cons e es ih =>
    obtain ⟨he, hes⟩ := List.forall_mem_cons.1 h
    rw [List.flatMap_cons, List.flatten_append]
    exact .edge (edgeDecl_chunks he) (ih hes)

/-- The chunks of a forest are a text of it, both inside of a node and by themselves. -/
theorem Node.nodeDecls_chunksAll {ns : List Node}
    (h : ∀ n ∈ preOrderAll ns, n.isWritable = true) :
    (∀ id, NodeItems id (chunksAll ns).flatten [] [] ns) ∧
      NodeDecls (chunksAll ns).flatten ns := by
  induction ns using Node.forest_induction with
  | nil => exact ⟨fun _ => .nil, .nil⟩
  | cons n rest ihChildren ihRest =>
    rw [preOrderAll_cons, List.forall_mem_cons, List.forall_mem_append] at h
    obtain ⟨hn, hchildren, hrest⟩ := h
    have hsource : ∀ e ∈ n.edges, e.source.text = n.id.text :=
      fun e he => (Edge.isWritable_iff.1 ((isWritable_iff.1 hn).2.2 e he)).1
    -- The body of the first node is the same on either side.
    have hbody := ((Attribute.nodeItems_chunks n.id.text n.attributes).append
      (Edge.nodeItems_chunks hsource)).append ((ihChildren hchildren).1 n.id.text)
    simp only [List.append_nil, List.nil_append] at hbody
    obtain ⟨hitems, hdecls⟩ := ihRest hrest
    constructor
    · intro id
      have hall := NodeItems.child hbody (hitems id)
      simpa [chunksAll, chunks_eq] using hall
    · have hall := NodeDecls.cons (.intro hbody) hdecls
      simpa [chunksAll, chunks_eq] using hall

/-- The chunks of a diagram are a text of it when its nodes are writable. -/
theorem Diagram.derives_chunks {d : Diagram} (h : ∀ n ∈ d.nodes, n.isWritable = true) :
    Derives d.chunks.flatten d :=
  (Node.nodeDecls_chunksAll h).2

/-! ### Chunks can be written -/

/-- A chunk can be written without blanks: it has a token, all of its tokens can be written, and
each of them is kept apart from the next. -/
structure IsTight (chunk : List Token) : Prop where
  /-- There is a token. -/
  ne_nil : chunk ≠ []
  /-- All tokens can be written. -/
  writable : ∀ t ∈ chunk, t.isWritable = true
  /-- No token is continued by the one behind it. -/
  apart : (chunk.map fun t => ([], t)).IsChain KeptApart

/-- A single token can be written without blanks. -/
theorem isTight_singleton {t : Token} (h : t.isWritable = true) : IsTight [t] :=
  ⟨List.cons_ne_nil _ _, List.forall_mem_singleton.2 h, .singleton _⟩

/-- The colon stands right behind the keyword of an attribute. -/
theorem isTight_keyword (kind : AttributeKind) : IsTight [kind.keyword, .colon] := by
  have hcolon : isAlphanumeric ':' = false := by decide
  refine ⟨List.cons_ne_nil _ _, ?_, .cons_cons ?_ (.singleton _)⟩
  · cases kind <;> simp [AttributeKind.keyword, Token.isWritable]
  · intro x hx
    obtain rfl : ':' = x := Option.some.inj hx
    cases kind <;> exact hcolon

/-- Quotes stand right before and behind a name. -/
theorem isTight_quoted {name : String} (h : Token.isName name = true) :
    IsTight [.quote, .identifier name, .quote] := by
  have hquote : isAlphanumeric '\x22' = false := by decide
  refine ⟨List.cons_ne_nil _ _, ?_, .cons_cons (fun x _ => rfl) (.cons_cons ?_ (.singleton _))⟩
  · simpa [Token.isWritable] using h
  · intro x hx
    obtain rfl : '\x22' = x := Option.some.inj hx
    exact hquote

/-- The chunks of a writable attribute can be written. -/
theorem Attribute.isTight_of_mem_chunks {a : Attribute} (h : a.isWritable = true) :
    ∀ chunk ∈ a.chunks, IsTight chunk := by
  obtain ⟨kind, value⟩ := a
  cases kind with
  | color =>
    exact List.forall_mem_cons.2 ⟨isTight_keyword .color,
      List.forall_mem_singleton.2 (isTight_singleton h)⟩
  | label =>
    exact List.forall_mem_cons.2 ⟨isTight_keyword .label,
      List.forall_mem_singleton.2 (isTight_quoted h)⟩

/-- The chunks of writable attributes can be written. -/
theorem Attribute.isTight_of_mem_flatMap {as : List Attribute}
    (h : ∀ a ∈ as, a.isWritable = true) : ∀ chunk ∈ as.flatMap Attribute.chunks, IsTight chunk := by
  intro chunk hchunk
  obtain ⟨a, ha, hmem⟩ := List.mem_flatMap.1 hchunk
  exact isTight_of_mem_chunks (h a ha) chunk hmem

/-- A keyword, a name and a body in braces can be written when the name and the body can. -/
theorem isTight_of_mem_declaration {keyword : Token} {name : String} {body : List (List Token)}
    (hkeyword : keyword.isWritable = true) (hname : Token.isName name = true)
    (hbody : ∀ chunk ∈ body, IsTight chunk) :
    ∀ chunk ∈ [keyword] :: [.identifier name] :: [.lbrace] :: (body ++ [[.rbrace]]),
      IsTight chunk := by
  simp only [List.forall_mem_cons, List.forall_mem_append, List.not_mem_nil, false_imp_iff,
    implies_true, and_true]
  exact ⟨isTight_singleton hkeyword, isTight_singleton hname, isTight_singleton rfl, hbody,
    isTight_singleton rfl⟩

/-- The chunks of a writable edge can be written. -/
theorem Edge.isTight_of_mem_chunks {id : String} {e : Edge} (h : e.isWritable id = true) :
    ∀ chunk ∈ e.chunks, IsTight chunk := by
  obtain ⟨-, htarget, hattributes⟩ := isWritable_iff.1 h
  exact isTight_of_mem_declaration rfl htarget (Attribute.isTight_of_mem_flatMap hattributes)

/-- The chunks of a forest of writable nodes can be written. -/
theorem Node.isTight_of_mem_chunksAll {ns : List Node}
    (h : ∀ n ∈ preOrderAll ns, n.isWritable = true) : ∀ chunk ∈ chunksAll ns, IsTight chunk := by
  induction ns using Node.forest_induction with
  | nil => nofun
  | cons n rest ihChildren ihRest =>
    rw [preOrderAll_cons, List.forall_mem_cons, List.forall_mem_append] at h
    obtain ⟨hn, hchildren, hrest⟩ := h
    obtain ⟨hname, hattributes, hedges⟩ := isWritable_iff.1 hn
    have hedge_chunks : ∀ chunk ∈ n.edges.flatMap Edge.chunks, IsTight chunk := by
      intro chunk hchunk
      obtain ⟨e, he, hmem⟩ := List.mem_flatMap.1 hchunk
      exact Edge.isTight_of_mem_chunks (hedges e he) chunk hmem
    have hbody := List.forall_mem_append.2 ⟨List.forall_mem_append.2
      ⟨Attribute.isTight_of_mem_flatMap hattributes, hedge_chunks⟩, ihChildren hchildren⟩
    rw [chunksAll, chunks_eq]
    exact List.forall_mem_append.2 ⟨isTight_of_mem_declaration rfl hname hbody, ihRest hrest⟩

/-! ## Layouts -/

/-- The blanks in a text: those in front of each chunk, counted from zero, and those at the end. -/
structure Layout where
  /-- The blanks in front of a chunk. -/
  gap : Nat → List Char
  /-- The blanks behind the last chunk. -/
  ending : List Char
  /-- There are only blanks in front of a chunk. -/
  isBlank_gap : ∀ i, ∀ x ∈ gap i, isBlank x = true
  /-- Two chunks are separated. -/
  gap_ne_nil : ∀ i, gap (i + 1) ≠ []
  /-- There are only blanks behind the last chunk. -/
  isBlank_ending : ∀ x ∈ ending, isBlank x = true

namespace Layout

variable (l : Layout)

/-- The layout with a single space between two chunks. -/
def spaces : Layout where
  gap
    | 0 => []
    | _ + 1 => [' ']
  ending := []
  isBlank_gap
    | 0, _, hx => nomatch hx
    | _ + 1, _, hx => List.mem_singleton.1 hx ▸ by decide
  gap_ne_nil _ := List.cons_ne_nil _ _
  isBlank_ending := nofun

/-- The tokens of a chunk, the first one behind some blanks and the others behind none. -/
def placeChunk (blank : List Char) : List Token → List (List Char × Token)
  | [] => []
  | t :: ts => (blank, t) :: ts.map fun t => ([], t)

/-- The tokens of some chunks with the blanks in front of them, where `i` chunks have come
before. -/
def place (i : Nat) : List (List Token) → List (List Char × Token)
  | [] => []
  | chunk :: rest => placeChunk (l.gap i) chunk ++ place (i + 1) rest

/-- The text of a diagram. -/
def render (d : Diagram) : String :=
  String.ofList (writeTokens (l.place 0 d.chunks) ++ l.ending)

/-- Placing the tokens of a chunk keeps them. -/
theorem map_snd_placeChunk (blank : List Char) (chunk : List Token) :
    (placeChunk blank chunk).map Prod.snd = chunk := by
  cases chunk with
  | nil => rfl
  | cons t ts =>
    rw [placeChunk, List.map_cons, List.map_map]
    exact congrArg (List.cons t) (List.map_id ts)

/-- Placing the tokens of chunks keeps them. -/
theorem map_snd_place (i : Nat) (chunks : List (List Token)) :
    (l.place i chunks).map Prod.snd = chunks.flatten := by
  induction chunks generalizing i with
  | nil => rfl
  | cons chunk rest ih =>
    rw [place, List.map_append, map_snd_placeChunk, ih, List.flatten_cons]

/-- Only blanks stand in front of the tokens of a chunk. -/
theorem isBlank_of_mem_placeChunk {blank : List Char} (hblank : ∀ x ∈ blank, isBlank x = true)
    (chunk : List Token) : ∀ p ∈ placeChunk blank chunk, ∀ x ∈ p.1, isBlank x = true := by
  cases chunk with
  | nil => nofun
  | cons t ts =>
    refine List.forall_mem_cons.2 ⟨hblank, fun p hp => ?_⟩
    obtain ⟨t', -, rfl⟩ := List.mem_map.1 hp
    exact nofun

/-- Only blanks stand in front of the tokens of chunks. -/
theorem isBlank_of_mem_place (i : Nat) (chunks : List (List Token)) :
    ∀ p ∈ l.place i chunks, ∀ x ∈ p.1, isBlank x = true := by
  induction chunks generalizing i with
  | nil => nofun
  | cons chunk rest ih =>
    exact List.forall_mem_append.2
      ⟨isBlank_of_mem_placeChunk (l.isBlank_gap i) chunk, ih (i + 1)⟩

/-- The first token behind another chunk has blanks in front of it. -/
theorem fst_of_mem_head?_place {i : Nat} {chunks : List (List Token)}
    (h : ∀ chunk ∈ chunks, IsTight chunk) {p : List Char × Token}
    (hp : p ∈ (l.place i chunks).head?) : p.1 = l.gap i := by
  cases chunks with
  | nil => cases hp
  | cons chunk rest =>
    obtain ⟨t, ts, rfl⟩ :=
      List.exists_cons_of_ne_nil (List.forall_mem_cons.1 h).1.ne_nil
    obtain rfl : (l.gap i, t) = p := Option.some.inj hp
    rfl

/-- The tokens of a chunk are kept apart whatever blanks stand in front of it. -/
theorem isChain_placeChunk {chunk : List Token} (h : IsTight chunk) (blank : List Char) :
    (placeChunk blank chunk).IsChain KeptApart := by
  have hchain := h.apart
  cases chunk with
  | nil => exact .nil
  | cons t ts =>
    cases ts with
    | nil => exact .singleton _
    | cons t' ts =>
      -- What keeps the second token apart does not depend on what stands before the first one.
      obtain ⟨hfirst, hothers⟩ := List.isChain_cons_cons.1 hchain
      exact .cons_cons hfirst hothers

/-- All tokens of chunks that can be written are kept apart. -/
theorem isChain_place {chunks : List (List Token)} (h : ∀ chunk ∈ chunks, IsTight chunk) (i : Nat) :
    (l.place i chunks).IsChain KeptApart := by
  induction chunks generalizing i with
  | nil => exact .nil
  | cons chunk rest ih =>
    obtain ⟨hchunk, hrest⟩ := List.forall_mem_cons.1 h
    refine List.isChain_append.2 ⟨isChain_placeChunk hchunk _, ih hrest (i + 1), fun p _ q hq => ?_⟩
    have hgap := l.fst_of_mem_head?_place hrest hq
    exact keptApart_of_blank (hgap ▸ l.gap_ne_nil i) (hgap ▸ l.isBlank_gap (i + 1))

/-- The tokens of the text of a diagram are those of its chunks, when these can be written. -/
theorem tokens_render {d : Diagram} (h : ∀ chunk ∈ d.chunks, IsTight chunk) :
    (TokenStream.ofString (l.render d)).tokens = d.chunks.flatten := by
  have hwritable : ∀ p ∈ l.place 0 d.chunks, p.2.isWritable = true := by
    intro p hp
    have hmem : p.2 ∈ d.chunks.flatten :=
      l.map_snd_place 0 d.chunks ▸ List.mem_map_of_mem hp
    obtain ⟨chunk, hchunk, ht⟩ := List.mem_flatten.1 hmem
    exact (h chunk hchunk).writable _ ht
  calc (TokenStream.ofString (l.render d)).tokens
      = (l.place 0 d.chunks).map Prod.snd :=
        TokenStream.tokens_ofList_writeTokens (l.isBlank_of_mem_place 0 d.chunks) hwritable
          (l.isChain_place h 0) l.isBlank_ending
    _ = d.chunks.flatten := l.map_snd_place 0 d.chunks

end Layout

/-! ## The reader builds writable diagrams -/

namespace Grammar

variable {id : String} {ts : List Token}

/-- The name of a label that is written. -/
theorem LabelValue.isName {v : Spanned} (h : LabelValue ts v)
    (hts : ∀ t ∈ ts, t.isWritable = true) : Token.isName v.text = true := by
  cases h with
  | bare => exact hts (.identifier v.text) (by simp)
  | quoted => exact hts (.identifier v.text) (by simp)

/-- An attribute that is written is writable. -/
theorem AttributeDecl.isWritable {a : Attribute} (h : AttributeDecl ts a)
    (hts : ∀ t ∈ ts, t.isWritable = true) : a.isWritable = true := by
  cases h with
  | color value => exact hts (.identifier value.text) (by simp)
  | label h => exact h.isName fun t ht => hts t (by simp [ht])

/-- Attributes that are written are writable. -/
theorem AttributeDecls.isWritable {as : List Attribute} (h : AttributeDecls ts as)
    (hts : ∀ t ∈ ts, t.isWritable = true) : ∀ a ∈ as, a.isWritable = true := by
  induction h with
  | nil => nofun
  | cons ha _ ih =>
    rw [List.forall_mem_append] at hts
    exact List.forall_mem_cons.2 ⟨ha.isWritable hts.1, ih hts.2⟩

/-- An edge that is written is writable. -/
theorem EdgeDecl.isWritable {e : Edge} (h : EdgeDecl id ts e)
    (hts : ∀ t ∈ ts, t.isWritable = true) : e.isWritable id = true := by
  cases h with
  | intro hsource hhead hbody =>
    simp only [List.forall_mem_cons, List.forall_mem_append] at hts
    have htarget : Token.isName e.target.text = true := by
      cases hhead with
      | implicit => exact hts.2.1 (.identifier e.target.text) (by simp)
      | explicit => exact hts.2.1 (.identifier e.target.text) (by simp)
    exact Edge.isWritable_iff.2 ⟨hsource, htarget, hbody.isWritable hts.2.2.2.1⟩

/-- The items of a body that is written are writable, and so are all nodes inside of it. -/
theorem NodeItems.isWritable {as : List Attribute} {es : List Edge} {ns : List Node}
    (h : NodeItems id ts as es ns) (hts : ∀ t ∈ ts, t.isWritable = true) :
    (∀ a ∈ as, a.isWritable = true) ∧ (∀ e ∈ es, e.isWritable id = true) ∧
      ∀ n ∈ Node.preOrderAll ns, n.isWritable = true := by
  induction h with
  | nil => exact ⟨nofun, nofun, nofun⟩
  | attr ha _ ih =>
    rw [List.forall_mem_append] at hts
    obtain ⟨has, hes, hns⟩ := ih hts.2
    exact ⟨List.forall_mem_cons.2 ⟨ha.isWritable hts.1, has⟩, hes, hns⟩
  | edge he _ ih =>
    rw [List.forall_mem_append] at hts
    obtain ⟨has, hes, hns⟩ := ih hts.2
    exact ⟨has, List.forall_mem_cons.2 ⟨he.isWritable hts.1, hes⟩, hns⟩
  | child _ _ ihBody ih =>
    simp only [List.forall_mem_cons, List.forall_mem_append] at hts
    obtain ⟨-, hname, -, hbody, -, hrest⟩ := hts
    obtain ⟨hattributes, hedges, hchildren⟩ := ihBody hbody
    obtain ⟨has, hes, hns⟩ := ih hrest
    have hnode := Node.isWritable_iff.2 ⟨hname, hattributes, hedges⟩
    rw [Node.preOrderAll_cons, List.forall_mem_cons, List.forall_mem_append]
    exact ⟨has, hes, hnode, hchildren, hns⟩

/-- All nodes of a forest that is written are writable. -/
theorem NodeDecls.isWritable {ns : List Node} (h : NodeDecls ts ns)
    (hts : ∀ t ∈ ts, t.isWritable = true) : ∀ n ∈ Node.preOrderAll ns, n.isWritable = true := by
  induction h with
  | nil => nofun
  | cons hn _ ih =>
    rw [List.forall_mem_append] at hts
    cases hn with
    | intro hbody =>
      -- A top-level node is written as one inside of a body.
      have hall := NodeItems.isWritable (.child hbody (.nil : NodeItems "" _ _ _ _)) hts.1
      rw [Node.preOrderAll, List.forall_mem_append]
      refine ⟨?_, ih hts.2⟩
      simpa [Node.preOrderAll] using hall.2.2

end Grammar

namespace Diagram

/-- A diagram whose text is a source, on few enough levels, is writable. -/
theorem isWritable_of_derives {source : String} {d : Diagram}
    (h : Derives (TokenStream.ofString source).tokens d) (hdepth : d.nesting ≤ maxNesting) :
    d.isWritable = true := by
  have htokens : ∀ t ∈ (TokenStream.ofString source).tokens, t.isWritable = true :=
    fun _ => TokenStream.isWritable_of_mem_tokens
  exact isWritable_iff.2 ⟨NodeDecls.isWritable h htokens, hdepth⟩

/-- The text of a writable diagram is read back as that diagram. -/
theorem exists_parse_render (l : Layout) {d : Diagram} (h : d.isWritable = true) :
    ∃ d', Diagram.parse (l.render d) = .ok d' ∧ d'.agrees d = true := by
  obtain ⟨hnodes, hdepth⟩ := isWritable_iff.1 h
  have hderives : Derives (TokenStream.ofString (l.render d)).tokens d := by
    rw [l.tokens_render (Node.isTight_of_mem_chunksAll hnodes)]
    exact derives_chunks hnodes
  exact exists_parse_of_derives hderives hdepth

/-- Texts of diagrams and reading them go together: the text of a writable diagram is read back as
that diagram, up to where its texts stand; every diagram that is read is writable, so these are the
diagrams that can be read; and the text of what was read from any source is read as the same. -/
theorem parse_render :
    (∀ (l : Layout) (d : Diagram), d.isWritable = true →
      ∃ d', Diagram.parse (l.render d) = .ok d' ∧ d'.agrees d = true) ∧
    (∀ (source : String) (d : Diagram), Diagram.parse source = .ok d → d.isWritable = true) ∧
    (∀ d : Diagram, d.isWritable = true ↔
      ∃ source d', Diagram.parse source = .ok d' ∧ d'.agrees d = true) ∧
    ∀ (l : Layout) (source : String) (d : Diagram), Diagram.parse source = .ok d →
      ∃ d', Diagram.parse (l.render d) = .ok d' ∧ d'.agrees d = true := by
  have hread : ∀ source d, Diagram.parse source = .ok d → d.isWritable = true := by
    intro source d h
    obtain ⟨hderives, hdepth⟩ := derives_of_parse h
    exact isWritable_of_derives hderives hdepth
  refine ⟨fun l d h => exists_parse_render l h, hread, fun d => ⟨fun h => ?_, ?_⟩,
    fun l source d h => exists_parse_render l (hread source d h)⟩
  · exact ⟨_, exists_parse_render .spaces h⟩
  · rintro ⟨source, d', h, hagrees⟩
    obtain ⟨hderives, hdepth⟩ := derives_of_parse h
    exact isWritable_of_derives (hderives.of_agrees hagrees) (nesting_eq_of_agrees hagrees ▸ hdepth)

/-- A diagram with both kinds of attributes and a nested node is read back from its text. The source
of an edge that is written with an arrow is left out of the text of what was read. -/
theorem parse_render_nested :
    let d : Diagram := ⟨[⟨.ofText "a", [⟨.label, .ofText "x"⟩],
      [⟨.ofText "a", .ofText "é", [⟨.color, .ofText "red"⟩]⟩], [.ofId (.ofText "é")]⟩]⟩
    let a : Spanned := ⟨"a", Span.ofBounds 5 6⟩
    let e : Diagram := ⟨[⟨a, [], [⟨a, ⟨"b", Span.ofBounds 17 18⟩, []⟩], []⟩]⟩
    (Layout.spaces.render d =
        "node a \x7b label: \x22x\x22 calls é \x7b color: red \x7d node é \x7b \x7d \x7d" ∧
      ∃ d', Diagram.parse (Layout.spaces.render d) = .ok d' ∧ d'.agrees d = true) ∧
    Diagram.parse "node a \x7bcalls a->b\x7b\x7d\x7d" = .ok e ∧ e.isWritable = true ∧
      Layout.spaces.render e = "node a \x7b calls b \x7b \x7d \x7d" ∧
      ∃ e', Diagram.parse (Layout.spaces.render e) = .ok e' ∧ e'.agrees e = true := by
  intro d a e
  obtain ⟨hrender, hread, -, hagain⟩ := parse_render
  have hd : d.isWritable = true := by decide +kernel
  have he : Diagram.parse "node a \x7bcalls a->b\x7b\x7d\x7d" = .ok e := by cbv
  exact ⟨⟨by decide +kernel, hrender .spaces d hd⟩, he, hread _ e he, by decide +kernel,
    hagain .spaces _ e he⟩

end Diagram

end DiagramCheck
