import DiagramCheck.Diagram.Parser
import Mathlib

/-!
# Places play no part in reading

A `Relocation` changes spans and positions and leaves all texts alone. The reader copies the places
of tokens into what it builds and never looks at them, so each of its steps commutes with a
relocation (`ParseState.step_relocate`), and so does a whole reading (`ParseState.run_relocate`),
errors included. The state may moreover have other complete top-level nodes in front of its own: no
step looks at these either.
-/

namespace DiagramCheck

/-- A change of places: what becomes of each span and of each position. -/
structure Relocation where
  /-- What becomes of a span. -/
  span : Span → Span
  /-- What becomes of a position. -/
  position : Position → Position

section

variable (r : Relocation)

/-! ## Relocated values -/

/-- The same text elsewhere. -/
def Spanned.relocate (v : Spanned) : Spanned :=
  ⟨v.text, r.span v.span⟩

/-- The same token elsewhere. -/
def Lexeme.relocate (x : Lexeme) : Lexeme :=
  ⟨x.token, r.position x.position, r.span x.span⟩

/-- The same attribute elsewhere. -/
def Attribute.relocate (a : Attribute) : Attribute :=
  ⟨a.kind, a.value.relocate r⟩

/-- The same edge elsewhere. -/
def Edge.relocate (e : Edge) : Edge :=
  ⟨e.source.relocate r, e.target.relocate r, e.attributes.map (Attribute.relocate r)⟩

mutual

/-- The same node elsewhere, with everything in it. -/
def Node.relocate : Node → Node
  | ⟨id, attributes, edges, children⟩ =>
    ⟨id.relocate r, attributes.map (Attribute.relocate r), edges.map (Edge.relocate r),
      Node.relocateAll children⟩

/-- The same forest elsewhere. -/
def Node.relocateAll : List Node → List Node
  | [] => []
  | n :: rest => n.relocate :: Node.relocateAll rest

end

/-- The same diagram elsewhere. -/
def Diagram.relocate (d : Diagram) : Diagram :=
  ⟨Node.relocateAll r d.topLevel⟩

/-- The same syntax error elsewhere. -/
def SyntaxError.relocate : SyntaxError → SyntaxError
  | .unexpectedToken expected found => .unexpectedToken expected (found.relocate r)
  | .expectedIdentifier found => .expectedIdentifier (found.relocate r)
  | .edgeSourceMismatch node found position =>
    .edgeSourceMismatch (node.relocate r) (found.relocate r) (r.position position)
  | .nestingTooDeep found => .nestingTooDeep (found.relocate r)

/-- The same stage of an attribute elsewhere. -/
def AttributeStage.relocate : AttributeStage → AttributeStage
  | .colon kind => .colon kind
  | .value kind => .value kind
  | .quoted => .quoted
  | .closing text => .closing (text.relocate r)

/-- The same declaration at hand elsewhere. -/
def Focus.relocate : Focus → Focus
  | .nodeName => .nodeName
  | .nodeBrace id => .nodeBrace (id.relocate r)
  | .nodeBody node => .nodeBody (node.relocate r)
  | .nodeAttribute node stage => .nodeAttribute (node.relocate r) (stage.relocate r)
  | .edgeName node => .edgeName (node.relocate r)
  | .edgeArrow node name position =>
    .edgeArrow (node.relocate r) (name.relocate r) (r.position position)
  | .edgeTarget node => .edgeTarget (node.relocate r)
  | .edgeBrace node target => .edgeBrace (node.relocate r) (target.relocate r)
  | .edgeBody node edge => .edgeBody (node.relocate r) (edge.relocate r)
  | .edgeAttribute node edge stage =>
    .edgeAttribute (node.relocate r) (edge.relocate r) (stage.relocate r)

/-- The same state elsewhere, behind the complete top-level nodes `before`. -/
def ParseState.relocate (before : List Node) : ParseState → ParseState
  | .outside finished => .outside (before ++ Node.relocateAll r finished)
  | .inside finished enclosing focus =>
    .inside (before ++ Node.relocateAll r finished) (enclosing.map (Node.relocate r))
      (focus.relocate r)

/-! ## Relocation of forests -/

/-- A forest is relocated node by node. -/
theorem Node.relocateAll_eq_map (ns : List Node) :
    Node.relocateAll r ns = ns.map (Node.relocate r) := by
  induction ns with
  | nil => rfl
  | cons n rest ih => rw [relocateAll, ih, List.map_cons]

/-- The parts of a relocated node. -/
theorem Node.relocate_eq (n : Node) :
    n.relocate r = ⟨n.id.relocate r, n.attributes.map (Attribute.relocate r),
      n.edges.map (Edge.relocate r), n.children.map (Node.relocate r)⟩ := by
  cases n
  rw [Node.relocate, Node.relocateAll_eq_map]

/-- One more attribute in a relocated node. -/
theorem Node.relocate_addAttribute (n : Node) (a : Attribute) :
    (n.addAttribute a).relocate r = (n.relocate r).addAttribute (a.relocate r) := by
  simp [Node.relocate_eq, Node.addAttribute]

/-- One more edge in a relocated node. -/
theorem Node.relocate_addEdge (n : Node) (e : Edge) :
    (n.addEdge e).relocate r = (n.relocate r).addEdge (e.relocate r) := by
  simp [Node.relocate_eq, Node.addEdge]

/-- One more nested node in a relocated node. -/
theorem Node.relocate_addChild (n child : Node) :
    (n.addChild child).relocate r = (n.relocate r).addChild (child.relocate r) := by
  simp [Node.relocate_eq, Node.addChild]

/-- One more attribute of a relocated edge. -/
theorem Edge.relocate_addAttribute (e : Edge) (a : Attribute) :
    (e.addAttribute a).relocate r = (e.relocate r).addAttribute (a.relocate r) := by
  simp [Edge.relocate, Edge.addAttribute]

/-- The name of a relocated node. -/
theorem Node.id_relocate (n : Node) : (n.relocate r).id = n.id.relocate r := by
  rw [Node.relocate_eq]

/-! ## Steps -/

/-- The error for a refused token is the same elsewhere. -/
theorem Wanted.refuse_relocate (w : Wanted) (x : Lexeme) :
    w.refuse (x.relocate r) = (w.refuse x).relocate r := by
  cases w <;> rfl

/-- What an attribute asks for is the same elsewhere. -/
theorem AttributeStage.wanted_relocate (stage : AttributeStage) :
    (stage.relocate r).wanted = stage.wanted := by
  cases stage <;> rfl

/-- What the grammar asks for inside a node is the same elsewhere. -/
theorem Focus.wanted_relocate (focus : Focus) : (focus.relocate r).wanted = focus.wanted := by
  cases focus with
  | nodeAttribute node stage | edgeAttribute node edge stage => exact stage.wanted_relocate r
  | _ => rfl

/-- Inside an attribute, a step elsewhere is the same step. -/
theorem AttributeStage.step_relocate (stage : AttributeStage) (x : Lexeme) :
    (stage.relocate r).step (x.relocate r) =
      (stage.step x).map (Sum.map (AttributeStage.relocate r) (Attribute.relocate r)) := by
  obtain ⟨token, position, span⟩ := x
  cases stage with
  | value kind => cases kind <;> cases token <;> rfl
  | _ => cases token <;> rfl

namespace ParseState

variable (before : List Node)

/-- Closing a node elsewhere. -/
theorem close_relocate (finished enclosing : List Node) (node : Node) :
    close (before ++ Node.relocateAll r finished) (enclosing.map (Node.relocate r))
        (node.relocate r) =
      (close finished enclosing node).relocate r before := by
  cases enclosing with
  | nil =>
    show ParseState.outside (before ++ Node.relocateAll r finished ++ [node.relocate r]) =
      .outside (before ++ Node.relocateAll r (finished ++ [node]))
    rw [Node.relocateAll_eq_map, Node.relocateAll_eq_map, List.map_append, List.append_assoc]
    rfl
  | cons outer others =>
    rw [close, relocate, Focus.relocate, Node.relocate_addChild]
    rfl

/-- An edge without attributes elsewhere. -/
theorem edgeBody_relocate (finished enclosing : List Node) (node : Node) (target : Spanned) :
    inside (before ++ Node.relocateAll r finished) (enclosing.map (Node.relocate r))
        (.edgeBody (node.relocate r) ⟨(node.relocate r).id, target.relocate r, []⟩) =
      (inside finished enclosing (.edgeBody node ⟨node.id, target, []⟩)).relocate r before := by
  rw [Node.id_relocate]
  rfl

/-- A step elsewhere is the same step. -/
theorem step_relocate (s : ParseState) (x : Lexeme) :
    (s.relocate r before).step (x.relocate r) =
      ((s.step x).map (relocate r before)).mapError (SyntaxError.relocate r) := by
  cases s with
  | outside finished =>
    obtain ⟨token, position, span⟩ := x
    cases token <;> rfl
  | inside finished enclosing focus =>
    -- Where a token is refused, both sides ask for the same.
    have hrefuse : Except.error (ε := SyntaxError) (α := ParseState)
        ((focus.relocate r).wanted.refuse (x.relocate r)) =
          .error ((focus.wanted.refuse x).relocate r) := by
      rw [Focus.wanted_relocate, Wanted.refuse_relocate]
    cases focus with
    | nodeBody node =>
      obtain ⟨token, position, span⟩ := x
      cases token with
      | rbrace => exact congrArg Except.ok (close_relocate r before finished enclosing node)
      | node =>
        simp only [step, stepInside, relocate, Focus.relocate, Lexeme.relocate, List.length_map]
        split <;> rfl
      | _ => rfl
    | nodeAttribute node stage =>
      simp only [step, stepInside, relocate, Focus.relocate, AttributeStage.step_relocate]
      cases stage.step x with
      | none => exact hrefuse
      | some next =>
        cases next with
        | inl stage' => rfl
        | inr a =>
          simp only [Option.map_some, Sum.map_inr, Except.map, Except.mapError, relocate,
            Focus.relocate, Node.relocate_addAttribute]
    | edgeArrow node name position =>
      obtain ⟨token, position', span⟩ := x
      cases token with
      | arrow =>
        have hname : (name.relocate r).agrees (node.relocate r).id = name.agrees node.id := by
          rw [Node.id_relocate]
          rfl
        simp only [step, stepInside, relocate, Focus.relocate, Lexeme.relocate, hname]
        split
        · rfl
        · rw [Node.id_relocate]
          rfl
      | lbrace => exact congrArg Except.ok (edgeBody_relocate r before finished enclosing node name)
      | _ => rfl
    | edgeBrace node target =>
      obtain ⟨token, position, span⟩ := x
      cases token with
      | lbrace =>
        exact congrArg Except.ok (edgeBody_relocate r before finished enclosing node target)
      | _ => rfl
    | edgeBody node edge =>
      obtain ⟨token, position, span⟩ := x
      cases token with
      | rbrace =>
        simp only [step, stepInside, relocate, Focus.relocate, Lexeme.relocate, Except.map,
          Except.mapError, Node.relocate_addEdge]
      | _ => rfl
    | edgeAttribute node edge stage =>
      simp only [step, stepInside, relocate, Focus.relocate, AttributeStage.step_relocate]
      cases stage.step x with
      | none => exact hrefuse
      | some next =>
        cases next with
        | inl stage' => rfl
        | inr a =>
          simp only [Option.map_some, Sum.map_inr, Except.map, Except.mapError, relocate,
            Focus.relocate, Edge.relocate_addAttribute]
    | _ =>
      obtain ⟨token, position, span⟩ := x
      cases token <;> rfl

/-- The end of the input is taken or refused elsewhere as it is here. -/
theorem finish_relocate (s : ParseState) (stop : Lexeme) :
    (s.relocate r before).finish (stop.relocate r) =
      ((s.finish stop).map fun d => ⟨before ++ (d.relocate r).topLevel⟩).mapError
        (SyntaxError.relocate r) := by
  cases s with
  | outside finished => rfl
  | inside finished enclosing focus =>
    show Except.error ((focus.relocate r).wanted.refuse (stop.relocate r)) = _
    rw [Focus.wanted_relocate, Wanted.refuse_relocate]
    rfl

/-- A reading elsewhere is the same reading: what it builds comes behind the nodes in front, and an
error is the same error elsewhere. -/
theorem run_relocate (s : ParseState) (stop : Lexeme) (xs : List Lexeme) :
    ((s.relocate r before).run (stop.relocate r) (xs.map (Lexeme.relocate r))).result =
      ((s.run stop xs).result.map fun d => ⟨before ++ (d.relocate r).topLevel⟩).mapError
        (SyntaxError.relocate r) := by
  induction xs generalizing s with
  | nil => exact s.finish_relocate r before stop
  | cons x xs ih =>
    rw [List.map_cons, run, run, step_relocate]
    cases s.step x with
    | error e => rfl
    | ok s' => exact ih s'

/-- A reading elsewhere accepts as many tokens. -/
theorem length_accepted_run_relocate (s : ParseState) (stop : Lexeme) (xs : List Lexeme) :
    ((s.relocate r before).run (stop.relocate r) (xs.map (Lexeme.relocate r))).accepted.length =
      (s.run stop xs).accepted.length := by
  induction xs generalizing s with
  | nil => rfl
  | cons x xs ih =>
    rw [List.map_cons, run, run, step_relocate]
    cases s.step x with
    | error e => rfl
    | ok s' => exact congrArg Nat.succ (ih s')

end ParseState

end

end DiagramCheck
