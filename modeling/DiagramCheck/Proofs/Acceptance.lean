import DiagramCheck.Proofs.Depth
import DiagramCheck.Proofs.Grammar.Placed
import DiagramCheck.Proofs.Grammar.Unambiguity

/-!
# What the reader accepts

The reader accepts exactly the token sequences of the grammar whose nodes stand on at most
`maxNesting` levels, and builds the tree that the grammar gives them.

One direction follows the reader: `ParseState.Holds` says which tokens have led to a state, in terms
of the grammar, and every step keeps it (`Takes.holds`). The other one follows the derivation with
places: each production leads the reader over its lexemes to the tree of that derivation, spans
included (`Grammar.Placed.NodeItems.reaches`), as long as the nodes around it leave enough levels
for it. So the places in what is read are those of the derivation (`Diagram.placed_of_parse`).
-/

namespace DiagramCheck

open Grammar

/-! ## Tokens behind a state -/

/-- The tokens of an attribute that have been read. -/
def AttributeStage.tokens : AttributeStage → List Token
  | .colon kind => [kind.keyword]
  | .value kind => [kind.keyword, .colon]
  | .quoted => [.label, .colon, .quote]
  | .closing text => [.label, .colon, .quote, .identifier text.text]

/-- Inside an attribute, a token is added to those before it. -/
theorem AttributeStage.Takes.tokens_eq {stage stage' : AttributeStage} {x : Lexeme}
    (h : stage.Takes x (.inl stage')) : stage'.tokens = stage.tokens ++ [x.token] := by
  cases h with
  | colon kind hx => rw [hx]; rfl
  | openQuote hx => rw [hx]; rfl
  | quoted hx => rw [hx]; rfl

/-- A complete attribute is one of the grammar. -/
theorem AttributeStage.Takes.attributeDecl {stage : AttributeStage} {x : Lexeme} {a : Attribute}
    (h : stage.Takes x (.inr a)) : AttributeDecl (stage.tokens ++ [x.token]) a := by
  cases h with
  | @bare _ name kind hx =>
    rw [hx]
    cases kind with
    | color => exact .color ⟨name, x.span⟩
    | label => exact .label (.bare ⟨name, x.span⟩)
  | closeQuote text hx =>
    rw [hx]
    exact .label (.quoted text)

/-- `EdgeOpen id ts e` says that `ts` is the text of the edge `e` up to where its body goes on. -/
def EdgeOpen (id : String) (ts : List Token) (e : Edge) : Prop :=
  ∃ head body, e.source.text = id ∧ EdgeHead id head e.target ∧ AttributeDecls body e.attributes ∧
    ts = .edge :: (head ++ .lbrace :: body)

/-- The tokens that have been read of what the innermost node is in the middle of. -/
inductive Focus.Holds : Focus → List Token → Prop
  /-- The keyword of a node. -/
  | nodeName : Holds .nodeName [.node]
  /-- The keyword and the name of a node. -/
  | nodeBrace (id : Spanned) : Holds (.nodeBrace id) [.node, .identifier id.text]
  /-- Nothing between two items. -/
  | nodeBody (node : Node) : Holds (.nodeBody node) []
  /-- A part of an attribute. -/
  | nodeAttribute (node : Node) (stage : AttributeStage) :
    Holds (.nodeAttribute node stage) stage.tokens
  /-- The keyword of an edge. -/
  | edgeName (node : Node) : Holds (.edgeName node) [.edge]
  /-- The keyword and the first name of an edge. -/
  | edgeArrow (node : Node) (name : Spanned) (position : Position) :
    Holds (.edgeArrow node name position) [.edge, .identifier name.text]
  /-- An edge up to the arrow behind its source. -/
  | edgeTarget (node : Node) :
    Holds (.edgeTarget node) [.edge, .identifier node.id.text, .arrow]
  /-- An edge up to the target behind the arrow. -/
  | edgeBrace (node : Node) (target : Spanned) : Holds (.edgeBrace node target)
    [.edge, .identifier node.id.text, .arrow, .identifier target.text]
  /-- An edge up to where its body goes on. -/
  | edgeBody {ts : List Token} (node : Node) {e : Edge} (h : EdgeOpen node.id.text ts e) :
    Holds (.edgeBody node e) ts
  /-- An edge up to a part of an attribute. -/
  | edgeAttribute {ts : List Token} (node : Node) {e : Edge} (stage : AttributeStage)
    (h : EdgeOpen node.id.text ts e) : Holds (.edgeAttribute node e stage) (ts ++ stage.tokens)

/-- `NodesOpen ts nodes` says that `ts` is the text of the open nodes, given from the inside out, up
to where the body of the innermost one goes on. -/
inductive NodesOpen : List Token → List Node → Prop
  /-- No node is open. -/
  | nil : NodesOpen [] []
  /-- A node is open in the body of the next one. -/
  | cons {ts body : List Token} {n : Node} {outer : List Node} (houter : NodesOpen ts outer)
    (hbody : NodeItems n.id.text body n.attributes n.edges n.children) :
    NodesOpen (ts ++ .node :: .identifier n.id.text :: .lbrace :: body) (n :: outer)

/-- `s.Holds ts` says that `ts` is what has been read when the reader is in the state `s`. -/
inductive ParseState.Holds : ParseState → List Token → Prop
  /-- Complete top-level nodes. -/
  | outside {ts : List Token} {finished : List Node} (h : NodeDecls ts finished) :
    Holds (.outside finished) ts
  /-- Complete top-level nodes, the open nodes, and the declaration at hand. -/
  | inside {before opened rest : List Token} {finished enclosing : List Node} (focus : Focus)
    (hfinished : NodeDecls before finished)
    (hopen : NodesOpen opened (focus.node?.toList ++ enclosing)) (hfocus : focus.Holds rest) :
    Holds (.inside finished enclosing focus) (before ++ opened ++ rest)

/-! ## The reader follows the grammar -/

/-- More items in the body of the innermost open node. -/
theorem NodesOpen.append_items {ts last : List Token} {n : Node} {outer : List Node}
    {as : List Attribute} {es : List Edge} {ns : List Node} (h : NodesOpen ts (n :: outer))
    (hlast : NodeItems n.id.text last as es ns) :
    NodesOpen (ts ++ last)
      (⟨n.id, n.attributes ++ as, n.edges ++ es, n.children ++ ns⟩ :: outer) := by
  cases h with
  | @cons ts body _ _ houter hbody =>
    have hitems := NodesOpen.cons (n := ⟨n.id, n.attributes ++ as, n.edges ++ es, n.children ++ ns⟩)
      houter (hbody.append hlast)
    simpa using hitems

/-- One more attribute in the body of the innermost open node. -/
theorem NodesOpen.addAttribute {ts last : List Token} {n : Node} {outer : List Node}
    {a : Attribute} (h : NodesOpen ts (n :: outer)) (ha : AttributeDecl last a) :
    NodesOpen (ts ++ last) (n.addAttribute a :: outer) := by
  have hitems := h.append_items (.attr ha .nil)
  simpa [Node.addAttribute] using hitems

/-- One more edge in the body of the innermost open node. -/
theorem NodesOpen.addEdge {ts last : List Token} {n : Node} {outer : List Node} {e : Edge}
    (h : NodesOpen ts (n :: outer)) (he : EdgeDecl n.id.text last e) :
    NodesOpen (ts ++ last) (n.addEdge e :: outer) := by
  have hitems := h.append_items (.edge he .nil)
  simpa [Node.addEdge] using hitems

/-- One more nested node in the body of the innermost open node. -/
theorem NodesOpen.addChild {ts last : List Token} {n child : Node} {outer : List Node}
    (h : NodesOpen ts (n :: outer)) (hchild : NodeDecl last child) :
    NodesOpen (ts ++ last) (n.addChild child :: outer) := by
  cases hchild with
  | intro hbody =>
    have hitems := h.append_items (.child hbody .nil)
    simpa [Node.addChild] using hitems

/-- Closing the innermost open node keeps what has been read. -/
theorem ParseState.holds_close {before opened : List Token} {finished enclosing : List Node}
    {node : Node} (hfinished : NodeDecls before finished)
    (hopen : NodesOpen opened (node :: enclosing)) :
    (close finished enclosing node).Holds (before ++ opened ++ [.rbrace]) := by
  cases hopen with
  | @cons ts body _ _ houter hbody =>
    cases enclosing with
    | nil =>
      -- The node is a top-level one, behind those that are complete.
      cases houter
      have hdecls := hfinished.snoc (.intro hbody)
      exact .outside (by simpa using hdecls)
    | cons outer others =>
      -- The node is an item in the body of the next one.
      have hopen' := houter.addChild (.intro hbody)
      have hholds := Holds.inside (.nodeBody (outer.addChild node)) hfinished hopen'
        (.nodeBody _)
      simpa [close] using hholds

/-- One more attribute in the body of an edge. -/
theorem EdgeOpen.addAttribute {id : String} {ts last : List Token} {e : Edge} {a : Attribute}
    (h : EdgeOpen id ts e) (ha : AttributeDecl last a) :
    EdgeOpen id (ts ++ last) (e.addAttribute a) := by
  obtain ⟨head, body, hsource, hhead, hbody, rfl⟩ := h
  exact ⟨head, body ++ last, hsource, hhead, hbody.snoc ha, by simp⟩

/-- The closing brace makes an open edge one of the grammar. -/
theorem EdgeOpen.edgeDecl {id : String} {ts : List Token} {e : Edge} (h : EdgeOpen id ts e) :
    EdgeDecl id (ts ++ [.rbrace]) e := by
  obtain ⟨head, body, hsource, hhead, hbody, rfl⟩ := h
  have hdecl := EdgeDecl.intro hsource hhead hbody
  simpa using hdecl

/-- A step inside the declaration at hand, which opens and closes no body of a node. -/
theorem ParseState.Holds.refocus {ts : List Token} {t : Token} {finished enclosing : List Node}
    {focus focus' : Focus} (h : (ParseState.inside finished enclosing focus).Holds ts)
    (hnode : focus'.node? = focus.node?)
    (hfocus : ∀ rest, focus.Holds rest → focus'.Holds (rest ++ [t])) :
    (ParseState.inside finished enclosing focus').Holds (ts ++ [t]) := by
  cases h with
  | inside _ hfinished hopen hrest =>
    rw [← hnode] at hopen
    rw [List.append_assoc]
    exact .inside _ hfinished hopen (hfocus _ hrest)

/-- A step that completes an item, which comes to stand in the body of the innermost node. -/
theorem ParseState.Holds.completeItem {ts : List Token} {t : Token}
    {finished enclosing : List Node} {focus : Focus} {node node' : Node}
    (h : (ParseState.inside finished enclosing focus).Holds ts) (hnode : focus.node? = some node)
    (hitem : ∀ opened rest, NodesOpen opened (node :: enclosing) → focus.Holds rest →
      NodesOpen (opened ++ (rest ++ [t])) (node' :: enclosing)) :
    (ParseState.inside finished enclosing (.nodeBody node')).Holds (ts ++ [t]) := by
  cases h with
  | inside _ hfinished hopen hrest =>
    rw [hnode] at hopen
    have hholds := Holds.inside (.nodeBody node') hfinished (hitem _ _ hopen hrest)
      (.nodeBody node')
    simpa using hholds

/-- Every step keeps what has been read: the token that it takes is added to it. -/
theorem ParseState.Takes.holds {s s' : ParseState} {x : Lexeme} {ts : List Token}
    (h : s.Takes x s') (hts : s.Holds ts) : s'.Holds (ts ++ [x.token]) := by
  cases h with
  | openTop finished hx =>
    cases hts with
    | outside hfinished =>
      have hholds := Holds.inside .nodeName hfinished .nil .nodeName
      simpa [hx] using hholds
  | nodeName finished enclosing hx =>
    refine hts.refocus rfl fun _ h => ?_
    cases h
    rw [hx]
    exact .nodeBrace ⟨_, x.span⟩
  | openNode finished enclosing id hx =>
    cases hts with
    | inside _ hfinished hopen hfocus =>
      cases hfocus
      -- The keyword, the name and the brace become the text of one more open node.
      have hopen' := NodesOpen.cons (n := .ofId id) hopen .nil
      have hholds := Holds.inside (.nodeBody (.ofId id)) hfinished hopen' (.nodeBody _)
      simpa [hx, Node.ofId] using hholds
  | closeNode finished enclosing node hx =>
    cases hts with
    | inside _ hfinished hopen hfocus =>
      cases hfocus
      rw [hx, List.append_nil]
      exact holds_close hfinished hopen
  | openNested finished enclosing node hx hdepth =>
    cases hts with
    | inside _ hfinished hopen hfocus =>
      cases hfocus
      have hholds := Holds.inside .nodeName hfinished hopen .nodeName
      simpa [hx] using hholds
  | nodeKeyword finished enclosing node kind hx =>
    refine hts.refocus rfl fun _ h => ?_
    cases h
    rw [hx]
    exact .nodeAttribute node (.colon kind)
  | nodeStage finished enclosing node hx =>
    refine hts.refocus rfl fun _ h => ?_
    cases h
    rw [← hx.tokens_eq]
    exact .nodeAttribute node _
  | nodeAttribute finished enclosing node hx =>
    refine hts.completeItem rfl fun _ _ hopen h => ?_
    cases h
    exact hopen.addAttribute hx.attributeDecl
  | edgeKeyword finished enclosing node hx =>
    refine hts.refocus rfl fun _ h => ?_
    cases h
    rw [hx]
    exact .edgeName node
  | edgeName finished enclosing node hx =>
    refine hts.refocus rfl fun _ h => ?_
    cases h
    rw [hx]
    exact .edgeArrow node ⟨_, x.span⟩ x.position
  | openImplicit finished enclosing node name position hx =>
    refine hts.refocus rfl fun _ h => ?_
    cases h
    rw [hx]
    exact .edgeBody node ⟨_, [], rfl, .implicit name, .nil, rfl⟩
  | arrow finished enclosing node name position hx hname =>
    -- The grammar asks for the name of the enclosing node here, and the reader has checked that.
    refine hts.refocus rfl fun _ h => ?_
    cases h
    rw [hx, Spanned.agrees_iff.1 hname]
    exact .edgeTarget node
  | edgeTarget finished enclosing node hx =>
    refine hts.refocus rfl fun _ h => ?_
    cases h
    rw [hx]
    exact .edgeBrace node ⟨_, x.span⟩
  | openExplicit finished enclosing node target hx =>
    refine hts.refocus rfl fun _ h => ?_
    cases h
    rw [hx]
    exact .edgeBody node ⟨_, [], rfl, .explicit target, .nil, rfl⟩
  | closeEdge finished enclosing node edge hx =>
    -- The text of the edge leaves the declaration at hand for the body of the node.
    refine hts.completeItem rfl fun _ _ hopen h => ?_
    cases h with
    | edgeBody _ hedge =>
      rw [hx]
      exact hopen.addEdge hedge.edgeDecl
  | edgeAttributeKeyword finished enclosing node edge kind hx =>
    refine hts.refocus rfl fun _ h => ?_
    cases h with
    | edgeBody _ hedge =>
      rw [hx]
      exact .edgeAttribute node (.colon kind) hedge
  | edgeStage finished enclosing node edge hx =>
    refine hts.refocus rfl fun _ h => ?_
    cases h with
    | edgeAttribute _ _ hedge =>
      rw [List.append_assoc, ← hx.tokens_eq]
      exact .edgeAttribute node _ hedge
  | edgeAttribute finished enclosing node edge hx =>
    refine hts.refocus rfl fun _ h => ?_
    cases h with
    | edgeAttribute _ _ hedge =>
      rw [List.append_assoc]
      exact .edgeBody node (hedge.addAttribute hx.attributeDecl)

/-- A run adds the tokens that it takes to what has been read. -/
theorem ParseState.Reaches.holds {s s' : ParseState} {xs : List Lexeme} {ts : List Token}
    (h : s.Reaches xs s') (hts : s.Holds ts) : s'.Holds (ts ++ xs.map Lexeme.token) := by
  -- The invariant is carried from state to state, with ever more tokens behind it.
  induction h generalizing ts with
  | refl => simpa using hts
  | cons h _ ih =>
    have hrest := ih (h.holds hts)
    rwa [List.append_assoc] at hrest

/-- Tokens that lead out of all nodes are the text of the diagram that has been built. -/
theorem ParseState.Reaches.derives {xs : List Lexeme} {d : Diagram}
    (h : start.Reaches xs (.outside d.topLevel)) : Derives (xs.map Lexeme.token) d := by
  have hholds := h.holds (.outside .nil)
  cases hholds with
  | outside hdecls => exact hdecls

/-! ## The grammar leads the reader -/

/-- `stage.Completes xs a` says that the tokens `xs` complete an attribute, which then is `a`. -/
inductive AttributeStage.Completes : AttributeStage → List Lexeme → Attribute → Prop
  /-- One last token. -/
  | last {stage : AttributeStage} {x : Lexeme} {a : Attribute} (h : stage.Takes x (.inr a)) :
    Completes stage [x] a
  /-- A token, then more. -/
  | more {stage stage' : AttributeStage} {x : Lexeme} {xs : List Lexeme} {a : Attribute}
    (h : stage.Takes x (.inl stage')) (hrest : Completes stage' xs a) : Completes stage (x :: xs) a

/-- The value of a label completes it behind its colon. -/
theorem Grammar.Placed.LabelValue.completes {xs : List Lexeme} {v : Spanned}
    (h : Placed.LabelValue xs v) : (AttributeStage.value .label).Completes xs ⟨.label, v⟩ := by
  cases h with
  | bare hx => exact .last (.bare .label hx)
  | quoted hq hx hq' => exact .more (.openQuote hq) (.more (.quoted hx) (.last (.closeQuote _ hq')))

/-- The lexemes of an attribute are its keyword and others that complete it. -/
theorem Grammar.Placed.AttributeDecl.completes {xs : List Lexeme} {a : Attribute}
    (h : Placed.AttributeDecl xs a) :
    ∃ kind x rest, xs = x :: rest ∧ x.token = AttributeKind.keyword kind ∧
      (AttributeStage.colon kind).Completes rest a := by
  cases h with
  | color hk hc hx =>
    exact ⟨.color, _, _, rfl, hk, .more (.colon .color hc) (.last (.bare .color hx))⟩
  | label hk hc h => exact ⟨.label, _, _, rfl, hk, .more (.colon .label hc) h.completes⟩

namespace ParseState

variable {finished enclosing : List Node} {node : Node} {xs : List Lexeme}

/-- Tokens that complete an attribute lead back into the body of the node. -/
theorem reaches_of_completes {stage : AttributeStage} {a : Attribute}
    (h : stage.Completes xs a) :
    Reaches (.inside finished enclosing (.nodeAttribute node stage)) xs
      (.inside finished enclosing (.nodeBody (node.addAttribute a))) := by
  induction h with
  | last h => exact .cons (.nodeAttribute _ _ _ h) (.refl _)
  | more h _ ih => exact .cons (.nodeStage _ _ _ h) ih

/-- Tokens that complete an attribute lead back into the body of the edge. -/
theorem reaches_of_completes_edge {edge : Edge} {stage : AttributeStage} {a : Attribute}
    (h : stage.Completes xs a) :
    Reaches (.inside finished enclosing (.edgeAttribute node edge stage)) xs
      (.inside finished enclosing (.edgeBody node (edge.addAttribute a))) := by
  induction h with
  | last h => exact .cons (.edgeAttribute _ _ _ _ h) (.refl _)
  | more h _ ih => exact .cons (.edgeStage _ _ _ _ h) ih

end ParseState

namespace Grammar.Placed

open ParseState

variable (finished enclosing : List Node) (node : Node) {xs : List Lexeme}

/-- An attribute leads from one place of a node's body to another. -/
theorem AttributeDecl.reaches {a : Attribute} (h : AttributeDecl xs a) :
    Reaches (.inside finished enclosing (.nodeBody node)) xs
      (.inside finished enclosing (.nodeBody (node.addAttribute a))) := by
  obtain ⟨kind, x, rest, rfl, hx, hrest⟩ := h.completes
  exact .cons (.nodeKeyword _ _ _ kind hx) (reaches_of_completes hrest)

/-- Attributes lead from one place of an edge's body to another. -/
theorem AttributeDecls.reaches {as : List Attribute} (edge : Edge) (h : AttributeDecls xs as) :
    Reaches (.inside finished enclosing (.edgeBody node edge)) xs
      (.inside finished enclosing
        (.edgeBody node ⟨edge.source, edge.target, edge.attributes ++ as⟩)) := by
  induction h generalizing edge with
  | nil =>
    rw [List.append_nil]
    exact .refl _
  | @cons _ _ a _ ha _ ih =>
    obtain ⟨kind, x, others, rfl, hx, hothers⟩ := ha.completes
    have hrest := ih (edge.addAttribute a)
    rw [Edge.addAttribute, List.append_assoc, List.singleton_append] at hrest
    exact .cons (.edgeAttributeKeyword _ _ _ _ kind hx)
      ((reaches_of_completes_edge hothers).trans hrest)

/-- The names of an edge and the brace behind them lead into its body. -/
theorem EdgeHead.reaches {target : Spanned} {o : Lexeme} (h : EdgeHead node.id xs target)
    (ho : o.token = .lbrace) :
    Reaches (.inside finished enclosing (.edgeName node)) (xs ++ [o])
      (.inside finished enclosing (.edgeBody node ⟨node.id, target, []⟩)) := by
  cases h with
  | implicit hx =>
    exact .cons (.edgeName _ _ _ hx) (.cons (.openImplicit _ _ _ _ _ ho) (.refl _))
  | @explicit x _ _ _ hx ha hy =>
    have hname : Spanned.agrees ⟨node.id.text, x.span⟩ node.id = true := Spanned.agrees_iff.2 rfl
    exact .cons (.edgeName _ _ _ hx) (.cons (.arrow _ _ _ _ _ ha hname)
      (.cons (.edgeTarget _ _ _ hy) (.cons (.openExplicit _ _ _ _ ho) (.refl _))))

/-- An edge leads from one place of a node's body to another. -/
theorem EdgeDecl.reaches {edge : Edge} (h : EdgeDecl node.id xs edge) :
    Reaches (.inside finished enclosing (.nodeBody node)) xs
      (.inside finished enclosing (.nodeBody (node.addEdge edge))) := by
  cases h with
  | @intro _ _ _ _ _ target _ hk hhead ho hbody hc =>
    -- The head leads into the body, the attributes through it, and the brace out of it.
    have hopened := hhead.reaches finished enclosing node ho
    have hclosed := hbody.reaches finished enclosing node ⟨node.id, target, []⟩
    have hrun := (hopened.trans hclosed).snoc (.closeEdge _ _ _ _ hc)
    refine .cons (.edgeKeyword _ _ _ hk) ?_
    simpa using hrun

/-- The items of a body lead from one place of the body to another, as long as the levels that the
open nodes leave are enough for the nested nodes. -/
theorem NodeItems.reaches {id : Spanned} {as : List Attribute} {es : List Edge} {ns : List Node}
    (h : NodeItems id xs as es ns) (as₀ : List Attribute) (es₀ : List Edge) (ns₀ : List Node)
    (hdepth : enclosing.length + 1 + Node.nestingAll ns ≤ maxNesting) :
    Reaches (.inside finished enclosing (.nodeBody ⟨id, as₀, es₀, ns₀⟩)) xs
      (.inside finished enclosing (.nodeBody ⟨id, as₀ ++ as, es₀ ++ es, ns₀ ++ ns⟩)) := by
  -- The induction is on the derivation. Nested bodies are read with more nodes around them, so the
  -- open nodes vary along it.
  induction h generalizing enclosing as₀ es₀ ns₀ with
  | nil =>
    simp only [List.append_nil]
    exact .refl _
  | @attr id _ _ a _ _ _ ha _ ih =>
    have hrest := ih enclosing (as₀ ++ [a]) es₀ ns₀ hdepth
    rw [List.append_assoc, List.singleton_append] at hrest
    exact (ha.reaches finished enclosing ⟨id, as₀, es₀, ns₀⟩).trans hrest
  | @edge id _ _ e _ _ _ he _ ih =>
    have hrest := ih enclosing as₀ (es₀ ++ [e]) ns₀ hdepth
    rw [List.append_assoc, List.singleton_append] at hrest
    exact (EdgeDecl.reaches finished enclosing ⟨id, as₀, es₀, ns₀⟩ he).trans hrest
  | @child id _ _ _ _ _ _ _ n _ _ _ hk hx hid ho _ hc _ ihBody ih =>
    simp only [Node.nestingAll, Node.nesting_eq] at hdepth
    have hrest := ih enclosing as₀ es₀ (ns₀ ++ [n]) (by omega)
    rw [List.append_assoc, List.singleton_append] at hrest
    -- The nested node is read with the present one around it.
    have hbody := ihBody (⟨id, as₀, es₀, ns₀⟩ :: enclosing) [] [] []
      (by simp only [List.length_cons]; omega)
    obtain ⟨_, attributes, edges, children⟩ := n
    subst hid
    exact .cons (.openNested _ _ _ hk (by omega)) (.cons (.nodeName _ _ hx)
      (.cons (.openNode _ _ _ ho) (hbody.trans (.cons (.closeNode _ _ _ hc) hrest))))

/-- Nodes one after the other lead from one place between top-level nodes to another. -/
theorem NodeItems.reaches_outside {id : Spanned} {as : List Attribute} {es : List Edge}
    {ns : List Node} (h : NodeItems id xs as es ns) (has : as = []) (hes : es = [])
    (hdepth : Node.nestingAll ns ≤ maxNesting) :
    Reaches (.outside finished) xs (.outside (finished ++ ns)) := by
  induction h generalizing finished with
  | nil =>
    rw [List.append_nil]
    exact .refl _
  | attr => cases has
  | edge => cases hes
  | @child _ _ _ _ _ _ _ _ n _ _ _ hk hx hid ho hbody hc _ _ ih =>
    simp only [Node.nestingAll, Node.nesting_eq] at hdepth
    have hrest := ih (finished ++ [n]) has hes (by omega)
    rw [List.append_assoc, List.singleton_append] at hrest
    have hinner := hbody.reaches finished [] [] [] [] (by simp only [List.length_nil]; omega)
    obtain ⟨_, attributes, edges, children⟩ := n
    subst hid
    exact .cons (.openTop _ hk) (.cons (.nodeName _ _ hx) (.cons (.openNode _ _ _ ho)
      (hinner.trans (.cons (.closeNode _ _ _ hc) hrest))))

end Grammar.Placed

namespace Diagram

/-! ## Acceptance -/

/-- An accepted source is a text of the diagram that is built from it, on few enough levels. -/
theorem derives_of_parse {source : String} {d : Diagram} (h : Diagram.parse source = .ok d) :
    Derives (TokenStream.ofString source).tokens d ∧ d.nesting ≤ maxNesting := by
  rw [parse_eq_ok_iff] at h
  exact ⟨h.derives, h.nesting_le⟩

/-- The diagram that a source is a text of, with the places of its texts, is read from it when it
stands on few enough levels. -/
theorem parse_of_placed {source : String} {d : Diagram}
    (h : Placed.Derives (TokenStream.ofString source).words d) (hdepth : d.nesting ≤ maxNesting) :
    Diagram.parse source = .ok d := by
  obtain ⟨id, hitems⟩ := h
  exact parse_eq_ok_iff.2 (hitems.reaches_outside [] rfl rfl hdepth)

/-- An accepted source is a text of the diagram that is built from it, with the places of its
texts. -/
theorem placed_of_parse {source : String} {d : Diagram} (h : Diagram.parse source = .ok d) :
    Placed.Derives (TokenStream.ofString source).words d := by
  obtain ⟨hderives, hdepth⟩ := derives_of_parse h
  obtain ⟨d', hplaced, hdepth'⟩ := hderives.exists_placed rfl
  -- There are places for some diagram, and the reader builds that one.
  have hparse : Diagram.parse source = .ok d' := parse_of_placed hplaced (hdepth' ▸ hdepth)
  rw [h, Except.ok.injEq] at hparse
  exact hparse ▸ hplaced

/-- A text of a diagram on few enough levels is accepted, and that diagram is built from it. -/
theorem exists_parse_of_derives {source : String} {d : Diagram}
    (h : Derives (TokenStream.ofString source).tokens d) (hdepth : d.nesting ≤ maxNesting) :
    ∃ d', Diagram.parse source = .ok d' ∧ d'.agrees d = true := by
  obtain ⟨d', hplaced, hdepth'⟩ := h.exists_placed rfl
  have hparse : Diagram.parse source = .ok d' := parse_of_placed hplaced (hdepth' ▸ hdepth)
  exact ⟨d', hparse, (derives_of_parse hparse).1.unambiguous h⟩

/-- A source is accepted and read as the diagram `d`, up to where its texts stand, exactly when its
tokens are a text of `d` by the grammar and `d` stands on at most `maxNesting` levels. No token
sequence is a text of two diagrams that differ in more than where their texts stand. -/
theorem parse_agrees_iff_derives :
    (∀ (source : String) (d : Diagram),
      (∃ d', Diagram.parse source = .ok d' ∧ d'.agrees d = true) ↔
        Derives (TokenStream.ofString source).tokens d ∧ d.nesting ≤ maxNesting) ∧
    ∀ (ts : List Token) (d d' : Diagram), Derives ts d → Derives ts d' → d.agrees d' = true := by
  refine ⟨fun source d => ⟨?_, fun ⟨h, hdepth⟩ => exists_parse_of_derives h hdepth⟩,
    fun ts d d' h h' => h.unambiguous h'⟩
  rintro ⟨d', hparse, hagrees⟩
  obtain ⟨hderives, hdepth⟩ := derives_of_parse hparse
  exact ⟨hderives.of_agrees hagrees, nesting_eq_of_agrees hagrees ▸ hdepth⟩

/-- The tokens of `node a { calls a -> b { } node c { } }` are a text of two diagrams, one of them
written down without places, and these agree. -/
theorem agrees_of_derives_nested :
    let ts : List Token := [.node, .identifier "a", .lbrace, .edge, .identifier "a", .arrow,
      .identifier "b", .lbrace, .rbrace, .node, .identifier "c", .lbrace, .rbrace, .rbrace]
    let a : Spanned := ⟨"a", Span.ofBounds 5 6⟩
    let d : Diagram := ⟨[⟨a, [], [⟨a, ⟨"b", Span.ofBounds 20 21⟩, []⟩],
      [.ofId ⟨"c", Span.ofBounds 31 32⟩]⟩]⟩
    let d' : Diagram := ⟨[⟨.ofText "a", [], [⟨.ofText "a", .ofText "b", []⟩],
      [.ofId (.ofText "c")]⟩]⟩
    Derives ts d ∧ Derives ts d' ∧ d.agrees d' = true := by
  intro ts a d d'
  have hderives (a b c : Spanned) : Derives [.node, .identifier a.text, .lbrace, .edge,
      .identifier a.text, .arrow, .identifier b.text, .lbrace, .rbrace, .node, .identifier c.text,
      .lbrace, .rbrace, .rbrace] ⟨[⟨a, [], [⟨a, b, []⟩], [.ofId c]⟩]⟩ := by
    have hedge : EdgeDecl a.text _ ⟨a, b, []⟩ := .intro rfl (.explicit b) .nil
    have hnested : NodeItems c.text [] [] [] [] := .nil
    have hitems := NodeItems.edge hedge (.child (n := .ofId c) hnested .nil)
    exact .cons (.intro (n := ⟨a, [], [⟨a, b, []⟩], [.ofId c]⟩) hitems) .nil
  have h : Derives ts d := hderives a ⟨"b", Span.ofBounds 20 21⟩ ⟨"c", Span.ofBounds 31 32⟩
  have h' : Derives ts d' := hderives (.ofText "a") (.ofText "b") (.ofText "c")
  exact ⟨h, h', parse_agrees_iff_derives.2 ts d d' h h'⟩

end Diagram

end DiagramCheck
