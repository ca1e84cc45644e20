import DiagramCheck.Proofs.CanonicalText
import DiagramCheck.Proofs.Enclosure
import DiagramCheck.Proofs.FirstFault
import DiagramCheck.Proofs.Scopes
import DiagramCheck.Proofs.Tracing

/-!
# The limit of nesting

`Diagram.nesting_limit` says that the limit of nesting is exact and that it is local. A text of a
diagram by the grammar, which knows no limit, is read unless the diagram has too many levels, and
then it fails at the first keyword of a node around which `maxNesting` nodes are open already
(`FirstAtLimit`). How many are open there is a matter of the tokens alone (`openNodes`).

Where a derivation has too many levels, it leads the reader to such a keyword
(`Grammar.Placed.NodeItems.exceeds`): over what fits and into what does not. No text fails with this
error in another way (`Diagram.firstAtLimit_of_parse`), since the levels of a state are the nodes
that are open in it, and a node is only opened where one more level is left.

The depth of a state is a number that is read off it. `ParseState.counter` counts the same by going
up and down, and never comes below zero.
-/

namespace DiagramCheck

open Grammar

/-! ## Where the limit is met -/

/-- The lexeme `found`, which stands behind the lexemes `xs`, is the first keyword of a node around
which `maxNesting` nodes are open. -/
structure FirstAtLimit (xs : List Lexeme) (found : Lexeme) : Prop where
  /-- It is the keyword of a node. -/
  token_eq : found.token = .node
  /-- The nodes that are open are as many as there may be. -/
  openNodes_eq : openNodes (xs.map Lexeme.token) = maxNesting
  /-- At the keywords of nodes in front of it they are not. -/
  openNodes_ne : ∀ ys x zs, xs = ys ++ x :: zs → x.token = .node →
    openNodes (ys.map Lexeme.token) ≠ maxNesting

/-- The keyword of a node opens one more. -/
theorem openNodes_concat_node (ts : List Token) :
    openNodes (ts ++ [.node]) = openNodes ts + 1 := by
  have hnext : ∀ os : List Opened, Opened.next os .node = .node none :: os := by
    intro os
    cases os <;> rfl
  rw [openNodes, Opened.behind, List.foldl_append, List.foldl_cons, List.foldl_nil, hnext,
    List.countP_cons_of_pos rfl]
  rfl

namespace ParseState

variable {s s' : ParseState} {xs ys : List Lexeme} {x : Lexeme}

/-- Never are more nodes open than may be. -/
theorem Reaches.depth_le (h : start.Reaches xs s) : s.depth ≤ maxNesting := by
  have hfits : s.Fits := h.fits (Nat.zero_le maxNesting)
  cases s with
  | outside finished => exact Nat.zero_le maxNesting
  | inside finished enclosing focus => exact hfits.2.1

/-- The keyword of a node is refused in the body of another one exactly where no level is left. -/
theorem step_eq_nestingTooDeep_iff {finished enclosing : List Node} {node : Node} :
    step (.inside finished enclosing (.nodeBody node)) x = .error (.nestingTooDeep x) ↔
      x.token = .node ∧ maxNesting ≤ enclosing.length + 1 := by
  constructor
  · intro h
    -- What else is refused there is so for want of the closing brace.
    have hrefuse : SyntaxError.nestingTooDeep x ≠ Wanted.refuse (.token .rbrace) x := nofun
    rcases step_eq_error h with hwanted | ⟨_, _, _, _, _, hs, -⟩ | ⟨_, _, _, hs, hx, -⟩
    · exact absurd hwanted hrefuse
    · cases hs
    · refine ⟨hx, Nat.le_of_not_lt fun hdepth => ?_⟩
      rw [step_eq_ok_iff.2 (.openNested finished enclosing node hx hdepth)] at h
      cases h
  · rintro ⟨hx, hdepth⟩
    simp [step, stepInside, hx, Nat.not_lt.2 hdepth]

/-- The first keyword that is refused because of the limit is the first one at the limit. -/
theorem Reaches.firstAtLimit (h : start.Reaches xs s) (hs : s.depth = maxNesting)
    (hx : x.token = .node) : FirstAtLimit xs x where
  token_eq := hx
  openNodes_eq := h.depth_eq ▸ hs
  openNodes_ne := by
    -- A keyword that was taken opened one more node, and there was a level left for that.
    rintro ys y zs rfl hy heq
    rw [List.append_cons] at h
    obtain ⟨t, ht, -⟩ := h.exists_of_append
    have hle := ht.depth_le
    rw [ht.depth_eq, List.map_append, List.map_singleton, hy, openNodes_concat_node, heq] at hle
    omega

/-! ## Derivations with too many levels -/

/-- The lexemes `xs` lead from the state `s` to the keyword of a node that is nested too deep. -/
def Exceeds (s : ParseState) (xs : List Lexeme) : Prop :=
  ∃ ys x zs t, xs = ys ++ x :: zs ∧ s.Reaches ys t ∧ t.step x = .error (.nestingTooDeep x)

/-- What is in front of the keyword may be longer. -/
theorem Exceeds.of_reaches (h : s.Reaches xs s') (h' : s'.Exceeds ys) : s.Exceeds (xs ++ ys) := by
  obtain ⟨ys', x, zs, t, rfl, ht, hx⟩ := h'
  exact ⟨xs ++ ys', x, zs, t, by simp, h.trans ht, hx⟩

/-- What is behind the keyword does not matter. -/
theorem Exceeds.append (h : s.Exceeds xs) (ys : List Lexeme) : s.Exceeds (xs ++ ys) := by
  obtain ⟨ys', x, zs, t, rfl, ht, hx⟩ := h
  exact ⟨ys', x, zs ++ ys, t, by simp, ht, hx⟩

/-- A token that is taken comes in front of the keyword. -/
theorem Exceeds.cons (h : s.Takes x s') (h' : s'.Exceeds xs) : s.Exceeds (x :: xs) :=
  .of_reaches (.cons h (.refl s')) h'

end ParseState

namespace Grammar.Placed

open ParseState

/-- The items of a body with more levels than are left lead to a node that is nested too deep. -/
theorem NodeItems.exceeds {id : Spanned} {xs : List Lexeme} {as : List Attribute} {es : List Edge}
    {ns : List Node} (h : NodeItems id xs as es ns) (finished enclosing : List Node)
    (as₀ : List Attribute) (es₀ : List Edge) (ns₀ : List Node)
    (hroom : enclosing.length + 1 ≤ maxNesting)
    (hdeep : maxNesting < enclosing.length + 1 + Node.nestingAll ns) :
    Exceeds (.inside finished enclosing (.nodeBody ⟨id, as₀, es₀, ns₀⟩)) xs := by
  -- The induction is on the derivation, as for what fits.
  induction h generalizing enclosing as₀ es₀ ns₀ with
  | nil =>
    simp only [Node.nestingAll] at hdeep
    omega
  | @attr id _ _ a _ _ _ ha _ ih =>
    exact .of_reaches (ha.reaches finished enclosing ⟨id, as₀, es₀, ns₀⟩)
      (ih enclosing (as₀ ++ [a]) es₀ ns₀ hroom hdeep)
  | @edge id _ _ e _ _ _ he _ ih =>
    exact .of_reaches (EdgeDecl.reaches finished enclosing ⟨id, as₀, es₀, ns₀⟩ he)
      (ih enclosing as₀ (es₀ ++ [e]) ns₀ hroom hdeep)
  | @child id k _ _ _ body rest _ n _ _ _ hk hx hid ho hbody hc _ ihBody ih =>
    obtain ⟨_, attributes, edges, children⟩ := n
    subst hid
    simp only [Node.nestingAll, Node.nesting_eq] at hdeep
    rcases hroom.eq_or_lt with hfull | hlevel
    · -- No level is left for the nested node itself.
      exact ⟨[], k, _, _, rfl, .refl _, step_eq_nestingTooDeep_iff.2 ⟨hk, hfull.ge⟩⟩
    refine .cons (.openNested _ _ _ hk hlevel) (.cons (.nodeName _ _ hx)
      (.cons (.openNode _ _ _ ho) ?_))
    rcases Nat.lt_or_ge maxNesting (enclosing.length + 2 + Node.nestingAll children) with
      hchildren | hchildren
    · -- The nested node has too many levels below it.
      exact (ihBody (⟨id, as₀, es₀, ns₀⟩ :: enclosing) [] [] []
        (by simp only [List.length_cons]; omega) (by simp only [List.length_cons]; omega)).append _
    · -- The nested node fits, and one of those behind it does not.
      have hclosed := hbody.reaches finished (⟨id, as₀, es₀, ns₀⟩ :: enclosing) [] [] []
        (by simp only [List.length_cons]; omega)
      exact .of_reaches hclosed (.cons (.closeNode _ _ _ hc)
        (ih enclosing as₀ es₀ (ns₀ ++ [_]) hroom (by omega)))

/-- Top-level nodes with too many levels lead to a node that is nested too deep. -/
theorem NodeItems.exceeds_outside {id : Spanned} {xs : List Lexeme} {as : List Attribute}
    {es : List Edge} {ns : List Node} (h : NodeItems id xs as es ns) (has : as = []) (hes : es = [])
    (finished : List Node) (hdeep : maxNesting < Node.nestingAll ns) :
    Exceeds (.outside finished) xs := by
  induction h generalizing finished with
  | nil => cases hdeep
  | attr => cases has
  | edge => cases hes
  | @child _ _ _ _ _ _ _ _ n _ _ _ hk hx hid ho hbody hc _ _ ih =>
    obtain ⟨_, attributes, edges, children⟩ := n
    subst hid
    simp only [Node.nestingAll, Node.nesting_eq] at hdeep
    refine .cons (.openTop _ hk) (.cons (.nodeName _ _ hx) (.cons (.openNode _ _ _ ho) ?_))
    rcases Nat.lt_or_ge maxNesting (1 + Node.nestingAll children) with hchildren | hchildren
    · exact (hbody.exceeds finished [] [] [] [] (by decide)
        (by simpa only [List.length_nil, Nat.zero_add] using hchildren)).append _
    · have hclosed := hbody.reaches finished [] [] [] []
        (by simpa only [List.length_nil, Nat.zero_add] using hchildren)
      exact .of_reaches hclosed (.cons (.closeNode _ _ _ hc)
        (ih has hes (finished ++ [_]) (by omega)))

end Grammar.Placed

namespace Diagram

/-- A text of a diagram with too many levels fails because of the limit. -/
theorem exists_parse_of_derives_deep {source : String} {d : Diagram}
    (h : Derives (TokenStream.ofString source).tokens d) (hdeep : maxNesting < d.nesting) :
    ∃ found, Diagram.parse source = .error (.nestingTooDeep found) := by
  obtain ⟨d', ⟨id, hitems⟩, hnesting⟩ := h.exists_placed rfl
  rw [← hnesting] at hdeep
  obtain ⟨ys, x, zs, t, hwords, ht, hx⟩ := hitems.exceeds_outside rfl rfl [] hdeep
  exact ⟨x, ParseState.run_eq_error_iff.2 (.inl ⟨ys, x, zs, t, hwords, ht, hx⟩)⟩

/-- A source that fails because of the limit does so at the first keyword where the limit is met,
and in front of that the bodies of `maxNesting` nodes are open. -/
theorem firstAtLimit_of_parse {source : String} {found : Lexeme}
    (h : Diagram.parse source = .error (.nestingTooDeep found)) :
    ∃ xs zs ids, (TokenStream.ofString source).words = xs ++ found :: zs ∧
      FirstAtLimit xs found ∧ OpenBodies xs ids ∧ ids.length = maxNesting := by
  obtain ⟨xs, x, s, hfront, hxs, hrefuses⟩ := parse_eq_error_iff.1 h
  rcases ParseState.step_eq_error hrefuses.1 with
    hwanted | ⟨_, _, _, _, _, _, _, hmismatch⟩ | ⟨finished, enclosing, node, rfl, hx, hfound⟩
  · -- What the grammar asks for is never a matter of depth.
    cases hw : s.wanted with
    | token t =>
      rw [hw] at hwanted
      cases hwanted
    | name =>
      rw [hw] at hwanted
      cases hwanted
  · cases hmismatch
  · obtain rfl : found = x := by
      cases hfound
      rfl
    have hended := (Cursor.ofString source).stream_ended
    obtain ⟨zs, hzs⟩ := hended.prefix_words hfront (by rw [hx]; nofun)
    rw [List.append_assoc] at hzs
    have hdepth : enclosing.length + 1 = maxNesting :=
      hxs.depth_le.antisymm (ParseState.step_eq_nestingTooDeep_iff.1 hrefuses.1).2
    have hstart : ParseState.start.OpenedBy [] := .nil .nil
    obtain ⟨front, _, hfront, hopen, rfl⟩ := hxs.openedBy hstart
    rw [List.nil_append, List.append_nil] at hfront
    refine ⟨xs, zs, _, hzs.symm, hxs.firstAtLimit hdepth hx, hfront ▸ hopen, ?_⟩
    rw [Focus.openIds, List.length_map]
    exact hdepth

end Diagram

/-! ## Counting -/

namespace ParseState

/-- The number of open nodes behind one more token, when there are `n` in front of it: one more
behind the keyword of a node, and one less behind the brace that closes one. There is no number
below zero. -/
def counted (s : ParseState) (x : Lexeme) (n : Nat) : Option Nat :=
  match s, x.token with
  | .outside _, .node => some (n + 1)
  | .inside _ _ (.nodeBody _), .node => some (n + 1)
  | .inside _ _ (.nodeBody _), .rbrace => if n = 0 then none else some (n - 1)
  | _, _ => some n

/-- The number of open nodes behind more tokens, counted along the way. There is none when the count
falls below zero, or when a token is refused. -/
def counter : ParseState → Nat → List Lexeme → Option Nat
  | _, n, [] => some n
  | s, n, x :: xs =>
    match s.step x with
    | .ok s' => (s.counted x n).bind fun n' => s'.counter n' xs
    | .error _ => none

/-- Every step counts the depth of the state. -/
theorem Takes.counted_eq {s s' : ParseState} {x : Lexeme} (h : s.Takes x s') :
    s.counted x s.depth = some s'.depth := by
  cases h with
  | closeNode finished enclosing node hx =>
    rw [depth_close]
    simp [counted, hx, depth]
  | nodeKeyword _ _ _ kind hx => cases kind <;> simp [counted, hx, depth, AttributeKind.keyword]
  | _ => simp [counted, depth, *]

/-- A run counts the depth of the state. -/
theorem Reaches.counter_eq {s s' : ParseState} {xs : List Lexeme} (h : s.Reaches xs s') :
    s.counter s.depth xs = some s'.depth := by
  induction h with
  | refl => rfl
  | cons h _ ih =>
    rw [counter, step_eq_ok_iff.2 h, h.counted_eq]
    exact ih

/-- The accepted tokens lead to a state. -/
theorem exists_reaches_accepted (s : ParseState) (stop : Lexeme) (xs : List Lexeme) :
    ∃ s', s.Reaches (s.run stop xs).accepted s' := by
  induction xs generalizing s with
  | nil => exact ⟨s, .refl s⟩
  | cons x xs ih =>
    rw [run]
    cases hstep : s.step x with
    | error e => exact ⟨s, .refl s⟩
    | ok s' =>
      obtain ⟨s'', hs''⟩ := ih s'
      exact ⟨s'', .cons (step_eq_ok_iff.1 hstep) hs''⟩

end ParseState

/-! ## The specification of the limit -/

/-- A text of a diagram by the grammar is read as that diagram when it has at most `maxNesting`
levels, and fails at the first keyword of a node at the limit otherwise. Every source that fails
because of the limit does so at the first keyword of a node at the limit, and exactly `maxNesting`
bodies of nodes are open there. Behind any number of accepted tokens, the count of open nodes is the
number that the tokens leave open, it is zero where the reader stands outside of all nodes, and the
diagrams that are read have at most `maxNesting` levels. -/
theorem Diagram.nesting_limit (source : String) :
    let tokens := TokenStream.ofString source
    (∀ d, Derives tokens.tokens d →
      (d.nesting ≤ maxNesting → ∃ d', Diagram.parse source = .ok d' ∧ d'.agrees d = true) ∧
      (maxNesting < d.nesting → ∃ xs found zs, tokens.words = xs ++ found :: zs ∧
        Diagram.parse source = .error (.nestingTooDeep found) ∧ FirstAtLimit xs found)) ∧
    (∀ found, Diagram.parse source = .error (.nestingTooDeep found) →
      ∃ xs zs ids, tokens.words = xs ++ found :: zs ∧ FirstAtLimit xs found ∧
        OpenBodies xs ids ∧ ids.length = maxNesting) ∧
    (∀ xs, xs <+: tokens.parse.accepted → ∃ s, ParseState.start.Reaches xs s ∧
      ParseState.start.counter 0 xs = some (openNodes (xs.map Lexeme.token)) ∧
      s.depth = openNodes (xs.map Lexeme.token) ∧
      (∀ finished, s = .outside finished → openNodes (xs.map Lexeme.token) = 0)) ∧
    ∀ d, Diagram.parse source = .ok d → d.nesting ≤ maxNesting := by
  intro tokens
  refine ⟨fun d h => ⟨fun hdepth => exists_parse_of_derives h hdepth, fun hdeep => ?_⟩,
    fun found h => firstAtLimit_of_parse h, ?_, fun d h => (derives_of_parse h).2⟩
  · obtain ⟨found, hfound⟩ := exists_parse_of_derives_deep h hdeep
    obtain ⟨xs, zs, -, hwords, hfirst, -, -⟩ := firstAtLimit_of_parse hfound
    exact ⟨xs, found, zs, hwords, hfound, hfirst⟩
  · rintro xs ⟨rest, hrest⟩
    obtain ⟨last, hlast⟩ : ∃ last, ParseState.start.Reaches tokens.parse.accepted last :=
      ParseState.start.exists_reaches_accepted tokens.stop tokens.words
    rw [← hrest] at hlast
    obtain ⟨s, hxs, -⟩ := hlast.exists_of_append
    have hdepth := hxs.depth_eq
    refine ⟨s, hxs, hdepth ▸ hxs.counter_eq, hdepth, ?_⟩
    rintro finished rfl
    exact hdepth.symm

/-- A node in a node in a node, and so on: the given number of nodes around a last one. -/
def Node.chain : Nat → Node
  | 0 => .ofId (.ofText "a")
  | k + 1 => ⟨.ofText "a", [], [], [Node.chain k]⟩

/-- A chain of as many nodes as there are levels is read, and one with one more node is not. -/
theorem Diagram.nesting_limit_chain :
    let text (k : Nat) : String := Layout.spaces.render ⟨[Node.chain k]⟩
    (∃ d, Diagram.parse (text 63) = .ok d) ∧
      ∃ found, Diagram.parse (text 64) = .error (.nestingTooDeep found) := by
  intro text
  have hderives : ∀ k ∈ [63, 64],
      Derives (TokenStream.ofString (text k)).tokens ⟨[Node.chain k]⟩ := by
    intro k hk
    have hwritable : ∀ n ∈ Node.preOrderAll [Node.chain k], n.isWritable = true := by
      revert k
      decide +kernel
    rw [Layout.spaces.tokens_render (Node.isTight_of_mem_chunksAll hwritable)]
    exact derives_chunks hwritable
  obtain ⟨d, hparse, -⟩ := ((nesting_limit (text 63)).1 _ (hderives 63 (by decide))).1
    (by decide +kernel)
  obtain ⟨_, found, _, -, herror, -⟩ :=
    ((nesting_limit (text 64)).1 _ (hderives 64 (by decide))).2 (by decide +kernel)
  exact ⟨⟨d, hparse⟩, found, herror⟩

end DiagramCheck
