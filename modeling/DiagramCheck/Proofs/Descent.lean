import DiagramCheck.Proofs.Driving
import DiagramCheck.Proofs.NestingLimit

/-!
# Reading by descent

A diagram is read by a machine that takes one token at a time and keeps the open declarations in its
state. The same grammar can be read by descent: a function for each kind of declaration, which holds
one token of lookahead, calls the functions for the parts of the declaration, and goes round in a
loop over the items of a body. `Descent.diagram` is that reader.

Whatever could keep it from coming to an end, or break it on the way, is an outcome of its own
(`Descent.Stop`): a slice of the source that is not there, a count of open nodes below zero, more
bodies of nodes inside of each other than there may be, and a round of a loop that asks for another
one but has left as many tokens unread as it found.
-/

namespace DiagramCheck

open Text

/-! ## Slices -/

namespace Text

/-- A text cut in two at a byte offset, which there is not when the offset lies inside of a
character or behind the end. -/
def cutAt? (n : Nat) : List Char → Option (List Char × List Char)
  | [] => if n = 0 then some ([], []) else none
  | c :: cs =>
    if n = 0 then some ([], c :: cs)
    else if n < c.utf8Size then none
    else (cutAt? (n - c.utf8Size) cs).map fun p => (c :: p.1, p.2)

/-- The slice of a text between two byte offsets. -/
def slice? (cs : List Char) (start stop : Nat) : Option (List Char) :=
  if start ≤ stop then
    (cutAt? start cs).bind fun p => (cutAt? (stop - start) p.2).map Prod.fst
  else none

/-- A text is cut behind its first part. -/
theorem cutAt?_append (a b : List Char) : cutAt? (byteLength a) (a ++ b) = some (a, b) := by
  induction a with
  | nil => cases b <;> rfl
  | cons c a ih =>
    have hpos := byteLength_pos (List.cons_ne_nil c a)
    have hle : ¬byteLength (c :: a) < c.utf8Size := Nat.not_lt.2 (Nat.le_add_right _ _)
    rw [List.cons_append, cutAt?, if_neg hpos.ne', if_neg hle, byteLength, Nat.add_sub_cancel_left,
      ih]
    rfl

/-- The slice at the middle part of a text is that part. -/
theorem slice?_append (a b c : List Char) :
    slice? (a ++ (b ++ c)) (byteLength a) (byteLength (a ++ b)) = some b := by
  have hlength : byteLength (a ++ b) - byteLength a = byteLength b := by
    rw [byteLength_append, Nat.add_sub_cancel_left]
  have hle : byteLength a ≤ byteLength (a ++ b) := byteLength_append a b ▸ Nat.le_add_right _ _
  rw [slice?, if_pos hle, cutAt?_append, Option.bind_some, hlength, cutAt?_append]
  rfl

/-- There is no slice that begins inside of a character. -/
example : slice? ['é'] 1 2 = none := by decide

end Text

namespace Cursor

/-- `c.LiesIn source` says that a cursor has come to some place of a source and counts its bytes. -/
def LiesIn (c : Cursor) (source : String) : Prop :=
  ∃ front, source.toList = front ++ c.rest ∧ c.offset = byteLength front

/-- Reads a token as `Cursor.next` does, where the text that the position moves over is the slice of
the source at the span of the token. -/
def next? (c : Cursor) (source : String) : Option (Lexeme × Cursor) :=
  (slice? source.toList c.next.1.span.start c.next.1.span.stop).map fun text =>
    (c.next.1, ⟨c.next.2.rest, c.next.2.offset, c.next.1.position.advanceOver text⟩)

/-- At a place of the source, the slice is there, and its text is that of the token. -/
theorem LiesIn.next?_eq {c : Cursor} {source : String} (h : c.LiesIn source) :
    c.next? source = some c.next := by
  obtain ⟨front, hsource, hoffset⟩ := h
  obtain ⟨blank, text, hrest, hnext, hposition, hstart⟩ := c.exists_next
  have hsplit : source.toList = front ++ blank ++ (text ++ c.next.2.rest) := by
    rw [hsource, hrest]
    simp
  have hstart' : c.next.1.span.start = byteLength (front ++ blank) := by
    rw [hstart, hoffset, byteLength_append]
  have hstop : c.next.1.span.stop = byteLength (front ++ blank ++ text) := by
    rw [c.stop_span_next, hnext, pass, hoffset, List.append_assoc, byteLength_append front]
  have hbehind : c.next.2.position = (c.position.advanceOver blank).advanceOver text := by
    rw [hnext, pass, Position.advanceOver_append]
  rw [next?, hsplit, hstart', hstop, slice?_append, Option.map_some, hposition, ← hbehind]

/-- A cursor stays in the source. -/
theorem LiesIn.next {c : Cursor} {source : String} (h : c.LiesIn source) :
    c.next.2.LiesIn source := by
  obtain ⟨front, hsource, hoffset⟩ := h
  obtain ⟨blank, text, hrest, hnext, -, -⟩ := c.exists_next
  refine ⟨front ++ (blank ++ text), ?_, ?_⟩
  · rw [hsource, List.append_assoc front, ← hrest]
  · rw [hnext, pass, hoffset, byteLength_append front]

end Cursor

/-! ## The descent -/

/-- Why a reading by descent comes to no result. -/
inductive Descent.Stop
  /-- The source has a fault. -/
  | fault (e : SyntaxError)
  /-- The source has no slice at the span of a token. -/
  | noSlice
  /-- A node is left, and none is counted as open. -/
  | underflow
  /-- The body of a node is entered, and there is no level left for it. -/
  | overflow
  /-- A loop is to go round again, and the last round has left as many tokens unread as it found. -/
  | stalled
  deriving DecidableEq

/-- A reading by descent at work. -/
structure Descent.State where
  /-- The source that slices are taken of. -/
  source : String
  /-- The place behind the lookahead. -/
  cursor : Cursor
  /-- The token that comes next. -/
  lookahead : Lexeme
  /-- The number of nodes that are counted as open. -/
  depth : Nat
  /-- The tokens that have been accepted. -/
  accepted : List Lexeme

/-- A piece of a reading by descent. -/
abbrev Descent (α : Type) : Type :=
  EStateM Descent.Stop Descent.State α

namespace Descent

/-- The tokens that are still to be accepted. -/
def State.upcoming (r : State) : TokenStream :=
  if r.lookahead.token = .endOfInput then ⟨[], r.lookahead⟩
  else ⟨r.lookahead :: r.cursor.stream.words, r.cursor.stream.stop⟩

/-- The number of unread tokens in front of the end of the input. -/
def State.unread (r : State) : Nat :=
  r.upcoming.words.length

/-! ### Tokens -/

/-- The token that comes next. -/
def lookahead : Descent Lexeme := do
  return (← get).lookahead

/-- Accepts the token that comes next, and looks at the one behind it. -/
def advance : Descent Unit := do
  let r ← get
  match r.cursor.next? r.source with
  | some (x, c) =>
    set { r with cursor := c, lookahead := x, accepted := r.accepted ++ [r.lookahead] }
  | none => throw .noSlice

/-- The token that comes next is accepted where the one behind it can be read. -/
theorem advance_run {r : State} {q : Lexeme × Cursor} (h : r.cursor.next? r.source = some q) :
    advance.run r = .ok () ⟨r.source, q.2, q.1, r.depth, r.accepted ++ [r.lookahead]⟩ := by
  simp [advance, h]

/-- Accepts one fixed token. -/
def expect (t : Token) : Descent Unit := do
  let x ← lookahead
  if x.token = t then advance else throw (.fault (.unexpectedToken t x))

/-- Accepts a name. -/
def identifier : Descent Spanned := do
  let x ← lookahead
  match x.token with
  | .identifier name =>
    advance
    return ⟨name, x.span⟩
  | _ => throw (.fault (.expectedIdentifier x))

/-! ### Loops -/

/-- Goes round until there is a result. A round hands on to another one, with what it has come to,
or ends the loop. -/
def loop {α β : Type} (round : α → Descent (α ⊕ β)) (a : α) (r : State) :
    EStateM.Result Stop State β :=
  match (round a).run r with
  | .ok (.inr b) r' => .ok b r'
  | .ok (.inl a') r' =>
    if _h : r'.unread < r.unread then loop round a' r' else .error .stalled r'
  | .error stop r' => .error stop r'
termination_by r.unread

/-- A round that accepts nothing and asks for another one stalls. -/
example (r : State) :
    (loop (fun a : Nat => return .inl (a + 1)) 0 r : EStateM.Result Stop State Unit) =
      .error .stalled r := by
  rw [loop]
  exact dif_neg (Nat.lt_irrefl _)

/-! ### Declarations -/

/-- Reads the color of a node or an edge. -/
def colorValue : Descent Spanned := do
  expect .color
  expect .colon
  identifier

/-- Reads the label of a node or an edge. -/
def labelValue : Descent Spanned := do
  expect .label
  expect .colon
  if (← lookahead).token = .quote then
    advance
    let text ← identifier
    expect .quote
    return text
  else identifier

/-- Reads on behind the first name of an edge: up to its target. -/
def edgeTarget (enclosing name : Spanned) (position : Position) : Descent Spanned := do
  if (← lookahead).token = .arrow then
    if name.agrees enclosing then
      advance
      identifier
    else throw (.fault (.edgeSourceMismatch enclosing name position))
  else return name

/-- A round over the body of an edge. -/
def edgeRound (edge : Edge) : Descent (Edge ⊕ Edge) := do
  let x ← lookahead
  match x.token with
  | .rbrace => return .inr edge
  | .color =>
    let color ← colorValue
    return .inl (edge.addAttribute ⟨.color, color⟩)
  | .label =>
    let label ← labelValue
    return .inl (edge.addAttribute ⟨.label, label⟩)
  | _ => throw (.fault (.unexpectedToken .rbrace x))

/-- Reads an edge that is declared in a node. -/
def edgeDecl (enclosing : Spanned) : Descent Edge := do
  expect .edge
  let position := (← lookahead).position
  let name ← identifier
  let target ← edgeTarget enclosing name position
  expect .lbrace
  let edge ← loop edgeRound ⟨enclosing, target, []⟩
  expect .rbrace
  return edge

/-- A round over the body of a node, where `child` reads a nested node. -/
def nodeRound (child : Descent Node) (node : Node) : Descent (Node ⊕ Node) := do
  let x ← lookahead
  match x.token with
  | .rbrace => return .inr node
  | .color =>
    let color ← colorValue
    return .inl (node.addAttribute ⟨.color, color⟩)
  | .label =>
    let description ← labelValue
    return .inl (node.addAttribute ⟨.label, description⟩)
  | .edge =>
    let edge ← edgeDecl node.id
    return .inl (node.addEdge edge)
  | .node =>
    let n ← child
    return .inl (node.addChild n)
  | _ => throw (.fault (.unexpectedToken .rbrace x))

/-- Counts one more node as open, unless there are as many as there may be. -/
def enter : Descent Unit := do
  let r ← get
  if r.depth = maxNesting then throw (.fault (.nestingTooDeep r.lookahead))
  else set { r with depth := r.depth + 1 }

/-- Counts one node less as open. -/
def leave : Descent Unit := do
  let r ← get
  if r.depth = 0 then throw .underflow else set { r with depth := r.depth - 1 }

/-- Reads a node, where `levels` bodies of nodes may still be entered, each inside of the one
before. -/
def nodeDecl : (levels : Nat) → Descent Node
  | 0 => do
    enter
    throw .overflow
  | levels + 1 => do
    enter
    expect .node
    let id ← identifier
    expect .lbrace
    let node ← loop (nodeRound (nodeDecl levels)) (.ofId id)
    expect .rbrace
    leave
    return node

/-- A round over the top-level nodes. -/
def topRound (nodes : List Node) : Descent (List Node ⊕ Diagram) := do
  let x ← lookahead
  match x.token with
  | .endOfInput => return .inr ⟨nodes⟩
  | .node =>
    let n ← nodeDecl maxNesting
    return .inl (nodes ++ [n])
  | _ => throw (.fault (.unexpectedToken .node x))

/-- Reads a diagram. -/
def diagram : Descent Diagram :=
  loop topRound []

end Descent

/-- Reads a diagram by descent from the tokens that a lexer still has of a source: the diagram, or
why there is none, and the tokens that have been accepted. -/
def Lexer.descend (l : Lexer) (source : String) : Except Descent.Stop Diagram × List Lexeme :=
  match l.cursor.next? source with
  | none => (.error .noSlice, [])
  | some (x, c) =>
    match Descent.diagram.run ⟨source, c, x, 0, []⟩ with
    | .ok d r => (.ok d, r.accepted)
    | .error stop r => (.error stop, r.accepted)

end DiagramCheck
