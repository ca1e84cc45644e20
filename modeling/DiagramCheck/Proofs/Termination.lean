import DiagramCheck.Proofs.Beside

/-!
# Reading comes to an end

The reader `Descent.diagram` calls itself for nested nodes and goes round in the bodies, and a lexer
gives the end of the input again and again. `Lexer.descend_spec` says that the reader comes to an
end all the same, from any place of a source, with the diagram or the syntax error that the machine
comes to (`Lexer.Descends`). Every round of its three loops makes headway, it accepts at most as
many tokens as there are in front of the end of the input, and nothing but a fault of the source
breaks it.

The reader keeps a count of the open nodes, which it raises and lowers as it goes. The count is what
the accepted tokens leave open (`Descent.State.Tallies`): each round of a loop that begins so ends
so, and so does the reading of a diagram (`Descent.tallies_diagram`).
-/

namespace DiagramCheck

/-! ## How far a reading comes -/

namespace Cursor

open Text

/-- Reading a token uses up a character that is no blank. -/
theorem countP_rest_next_lt {c : Cursor} (h : c.next.1.token ≠ .endOfInput) :
    c.next.2.rest.countP (fun x => !isBlank x) < c.rest.countP fun x => !isBlank x := by
  rcases c.rest_cases with hall | ⟨blank, y, ys, hblank, hy, hrest⟩
  · exact absurd (next_token_eq_endOfInput_iff.2 hall) h
  have hnext : c.next.2.rest = (Piece.read y ys).rest := by
    rw [next_eq hblank hy hrest]
    rfl
  -- It is the first character of the token.
  rw [hnext, hrest, ← Piece.text_append_rest y ys, Piece.text_eq_cons, List.countP_append,
    List.countP_append, List.countP_cons_of_pos (by rw [hy]; rfl)]
  omega

/-- A stream has at most as many words as there are characters that are no blanks. -/
theorem length_words_le (c : Cursor) :
    c.stream.words.length ≤ c.rest.countP fun x => !isBlank x := by
  induction c using stream.induct with
  | case1 c h =>
    rw [stream, dif_pos h]
    exact Nat.zero_le _
  | case2 c h ih =>
    rw [stream, dif_neg h]
    exact Nat.lt_of_le_of_lt ih (countP_rest_next_lt h)

/-- Behind some tokens of a source, a cursor is at some place of it. -/
theorem liesIn_skip (source : String) (k : Nat) : ((ofString source).skip k).LiesIn source := by
  obtain ⟨front, hsource, hstands⟩ := exists_standsBehind source k
  exact ⟨front, hsource, hstands.offset_eq⟩

/-- No more characters are unread than there are in the source. -/
theorem LiesIn.countP_rest_le {c : Cursor} {source : String} (h : c.LiesIn source)
    (q : Char → Bool) : c.rest.countP q ≤ source.toList.countP q := by
  obtain ⟨front, hsource, -⟩ := h
  rw [hsource, List.countP_append]
  exact Nat.le_add_left _ _

end Cursor

/-- Behind any number of accepted tokens, at most `maxNesting` nodes are open. -/
theorem TokenStream.depth_le_of_accepted {ts : TokenStream} {xs : List Lexeme}
    (h : xs <+: ts.parse.accepted) : ∃ s, ParseState.start.Reaches xs s ∧ s.depth ≤ maxNesting := by
  obtain ⟨ys, hxs⟩ := h
  obtain ⟨last, hlast⟩ : ∃ last, ParseState.start.Reaches ts.parse.accepted last :=
    ParseState.start.exists_reaches_accepted ts.stop ts.words
  rw [← hxs] at hlast
  obtain ⟨s, hs, -⟩ := hlast.exists_of_append
  exact ⟨s, hs, hs.depth_le⟩

/-! ## The specification of the descent -/

namespace Descent

/-- What breaks a reading that comes to what the machine comes to is a fault of the source. -/
theorem Stop.exists_fault {result : Except SyntaxError Diagram} {stop : Stop}
    (h : result.mapError .fault = .error stop) : ∃ e, stop = .fault e := by
  cases result with
  | ok d => cases h
  | error e =>
    cases h
    exact ⟨e, rfl⟩

/-- `r.Headway result` says how a round of a loop may turn out that begins at `r`: it ends the loop,
or it finds a fault of the source, or it leaves fewer tokens unread for the next round. -/
def State.Headway {α β : Type} (r : State) : EStateM.Result Stop State (α ⊕ β) → Prop
  | .ok (.inl _) r' => r'.unread < r.unread
  | .ok (.inr _) _ => True
  | .error (.fault _) _ => True
  | .error _ _ => False

/-- A round that ends beside the machine makes headway. -/
theorem State.Headway.of_ends {α β : Type} {c : Course} {r : State} {state : α → ParseState}
    {post : β → State → Prop} {result : EStateM.Result Stop State (α ⊕ β)}
    (h : Ends c (RoundEnds c state post r) result) : r.Headway result := by
  match result, h with
  | .ok (.inl a) r', ⟨_, hadv⟩ => exact hadv.unread_lt
  | .ok (.inr b) r', _ => trivial
  | .error (.fault e) r', _ => trivial

/-- Every round over the top-level nodes makes headway. -/
theorem headway_topRound {r : State} (h : r.cursor.LiesIn r.source) (hdepth : r.depth = 0)
    (nodes : List Node) : r.Headway ((topRound nodes).run r) :=
  .of_ends (topRound_ends (State.at_start h (.outside nodes)) hdepth)

/-- Every round over the body of a node makes headway. -/
theorem headway_nodeRound {r : State} {levels : Nat} (h : r.cursor.LiesIn r.source)
    (hdepth : 0 < r.depth) (hlevels : r.depth + levels = maxNesting) (node : Node) :
    r.Headway ((nodeRound (nodeDecl levels) node).run r) := by
  -- Which nodes are open around the innermost one does not matter, only how many.
  let enclosing := List.replicate (r.depth - 1) node
  have hopen : r.depth = enclosing.length + 1 := by
    rw [List.length_replicate, Nat.sub_add_cancel hdepth]
  have hstart := State.at_start h (.inside [] enclosing (.nodeBody node))
  exact .of_ends (nodeRound_ends (readsNodes levels) hstart hopen hlevels)

/-- Every round over the body of an edge makes headway. -/
theorem headway_edgeRound {r : State} (h : r.cursor.LiesIn r.source) (edge : Edge) :
    r.Headway ((edgeRound edge).run r) :=
  .of_ends (edgeRound_ends (State.at_start h
    (.inside [] [] (.edgeBody (.ofId edge.source) edge))))

/-! ## The count of open nodes -/

section

variable {α β : Type} {c : Course} {s : ParseState} {r r' : State} {finished enclosing : List Node}
  {node : Node}

/-- `r.Tallies` says that a descent counts as many nodes as open as the tokens that it has accepted
leave open. -/
def State.Tallies (r : State) : Prop :=
  r.depth = openNodes (r.accepted.map Lexeme.token)

/-- The count is right beside the machine, if it was at the start of the course. -/
theorem State.At.tallies (h : r.At s c)
    (hreaches : ParseState.start.Reaches c.start.accepted c.origin)
    (hdepth : c.start.depth = c.origin.depth) : r.Tallies := by
  obtain ⟨xs, hxs, hahead⟩ := h.reaches
  have hs : s.depth = openNodes (r.accepted.map Lexeme.token) :=
    (hxs ▸ hreaches.trans hahead).depth_eq
  have hcount := h.depth_eq
  rw [hdepth] at hcount
  rw [State.Tallies, ← hs]
  omega

/-- The state that a piece of a descent ends in, whatever its end is. -/
def endState : EStateM.Result Stop State α → State
  | .ok _ r => r
  | .error _ r => r

/-- The count is right at both ends of a piece that ends beside the machine. -/
theorem Ends.tallies {post : α → State → Prop} {result : EStateM.Result Stop State α}
    (h : Ends c post result) (hpost : ∀ a r', post a r' → ∃ s, r'.At s c)
    (hreaches : ParseState.start.Reaches c.start.accepted c.origin)
    (hdepth : c.start.depth = c.origin.depth) : (endState result).Tallies := by
  match result, h with
  | .ok a r', h =>
    obtain ⟨s, hs⟩ := hpost a r' h
    exact hs.tallies hreaches hdepth
  | .error (.fault e) r', h =>
    obtain ⟨s, hs⟩ := h.exists_at
    exact hs.tallies hreaches hdepth

/-- A round ends beside the machine. -/
theorem RoundEnds.exists_at {state : α → ParseState} {post : β → State → Prop} {x : α ⊕ β}
    (h : RoundEnds c state post r x r') (hr : r.At s c) : ∃ s, r'.At s c := by
  cases x with
  | inl a => exact ⟨_, h.1⟩
  | inr b => exact ⟨s, h.1 ▸ hr⟩

/-- A round over the top-level nodes that begins with the right count ends with it. -/
theorem tallies_topRound {nodes : List Node} (h : r.cursor.LiesIn r.source)
    (hreaches : ParseState.start.Reaches r.accepted (.outside nodes)) (hdepth : r.depth = 0) :
    (endState ((topRound nodes).run r)).Tallies :=
  have hr := State.at_start h (.outside nodes)
  (topRound_ends hr hdepth).tallies (fun _ _ hround => hround.exists_at hr) hreaches hdepth

/-- A round over the body of a node that begins with the right count ends with it. -/
theorem tallies_nodeRound {levels : Nat} (h : r.cursor.LiesIn r.source)
    (hreaches : ParseState.start.Reaches r.accepted (.inside finished enclosing (.nodeBody node)))
    (hdepth : r.depth = enclosing.length + 1) (hlevels : r.depth + levels = maxNesting) :
    (endState ((nodeRound (nodeDecl levels) node).run r)).Tallies :=
  have hr := State.at_start h (.inside finished enclosing (.nodeBody node))
  (nodeRound_ends (readsNodes levels) hr hdepth hlevels).tallies
    (fun _ _ hround => hround.exists_at hr) hreaches hdepth

/-- A round over the body of an edge that begins with the right count ends with it. -/
theorem tallies_edgeRound {edge : Edge} (h : r.cursor.LiesIn r.source)
    (hreaches :
      ParseState.start.Reaches r.accepted (.inside finished enclosing (.edgeBody node edge)))
    (hdepth : r.depth = enclosing.length + 1) : (endState ((edgeRound edge).run r)).Tallies :=
  have hr := State.at_start h (.inside finished enclosing (.edgeBody node edge))
  (edgeRound_ends hr).tallies (fun _ _ hround => hround.exists_at hr) hreaches hdepth

/-- However the reading of a diagram ends, the count is right at the end, and behind a diagram no
node is counted as open. -/
theorem tallies_diagram (h : r.cursor.LiesIn r.source) (haccepted : r.accepted = [])
    (hdepth : r.depth = 0) :
    (endState (diagram.run r)).Tallies ∧ ∀ d r', diagram.run r = .ok d r' → r'.depth = 0 := by
  have hreaches : ParseState.start.Reaches r.accepted .start := haccepted ▸ .refl _
  have hend := diagram_ends (State.at_start h .start) hdepth
  refine ⟨hend.tallies (fun _ _ h' => h'.1.exists_at) hreaches hdepth, fun d r' hrun => ?_⟩
  rw [hrun] at hend
  exact hend.2

end

end Descent

/-- How a lexer that has come to some place of a source is read on from by descent. -/
structure Lexer.Descends (l : Lexer) (source : String) : Prop where
  /-- Wherever a round over the top-level nodes begins, it makes headway. -/
  headway_top : ∀ (r : Descent.State) (nodes : List Node), r.source = source →
    r.cursor.LiesIn source → r.depth = 0 → r.Headway ((Descent.topRound nodes).run r)
  /-- Wherever a round over the body of a node begins, with as many levels left as there are, it
  makes headway. -/
  headway_node : ∀ (r : Descent.State) (levels : Nat) (node : Node), r.source = source →
    r.cursor.LiesIn source → 0 < r.depth → r.depth + levels = maxNesting →
    r.Headway ((Descent.nodeRound (Descent.nodeDecl levels) node).run r)
  /-- Wherever a round over the body of an edge begins, it makes headway. -/
  headway_edge : ∀ (r : Descent.State) (edge : Edge), r.source = source →
    r.cursor.LiesIn source → r.Headway ((Descent.edgeRound edge).run r)
  /-- The reading comes to the diagram or the syntax error that the machine comes to. -/
  result_eq : (l.descend source).1 = l.parse.mapError .fault
  /-- Nothing but a fault of the source breaks it: there is a slice at every token, the count of
  open nodes never falls below zero, no more than `maxNesting` bodies of nodes are entered, each
  inside of the one before, and no loop stalls. -/
  isFault : ∀ stop, (l.descend source).1 = .error stop → ∃ e, stop = .fault e
  /-- The tokens that it accepts are those that the machine accepts. -/
  accepted_eq : (l.descend source).2 = l.cursor.stream.parse.accepted
  /-- They are at most as many as there are in front of the end of the input. -/
  length_accepted_le : (l.descend source).2.length ≤ l.cursor.stream.words.length
  /-- In front of the end of the input there are at most as many tokens as the source has characters
  that are no blanks. -/
  length_words_le : l.cursor.stream.words.length ≤ source.toList.countP fun c => !Text.isBlank c
  /-- The end of the input is not accepted. -/
  token_ne_endOfInput : ∀ x ∈ (l.descend source).2, x.token ≠ .endOfInput
  /-- Behind any number of accepted tokens, at most `maxNesting` nodes are open. -/
  depth_le : ∀ xs, xs <+: (l.descend source).2 →
    ∃ s, ParseState.start.Reaches xs s ∧ s.depth ≤ maxNesting

/-- Reading by descent comes to an end within the tokens that there are, from wherever a lexer has
come to in a source. -/
theorem Lexer.descend_spec (source : String) (calls : List Call) :
    ((ofString source).drive calls).2.Descends source := by
  generalize hl : ((ofString source).drive calls).2 = l
  have hlies : l.cursor.LiesIn source := by
    rw [← hl, drive_cursor]
    exact Cursor.liesIn_skip source _
  have hdescend := Lexer.descend_eq hlies
  have hresult : (l.descend source).1 = l.parse.mapError .fault := by rw [hdescend]
  have haccepted : (l.descend source).2 = l.cursor.stream.parse.accepted := by rw [hdescend]
  have hfront : l.cursor.stream.parse.accepted <+: l.cursor.stream.words :=
    ParseState.start.accepted_run_prefix _ _
  exact {
    headway_top := by
      rintro r nodes rfl h hdepth
      exact Descent.headway_topRound h hdepth nodes
    headway_node := by
      rintro r levels node rfl h hdepth hlevels
      exact Descent.headway_nodeRound h hdepth hlevels node
    headway_edge := by
      rintro r edge rfl h
      exact Descent.headway_edgeRound h edge
    result_eq := hresult
    isFault := fun stop hstop => Descent.Stop.exists_fault (hresult ▸ hstop)
    accepted_eq := haccepted
    length_accepted_le := haccepted ▸ hfront.length_le
    length_words_le := l.cursor.length_words_le.trans (hlies.countP_rest_le _)
    token_ne_endOfInput := fun x hx =>
      l.cursor.stream_ended.words_token x (hfront.subset (haccepted ▸ hx))
    depth_le := fun xs hxs => TokenStream.depth_le_of_accepted (haccepted ▸ hxs) }

end DiagramCheck
