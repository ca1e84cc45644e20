import DiagramCheck.Diagram
import DiagramCheck.Diagram.SyntaxError
import DiagramCheck.Token.Lexer

/-!
# Reading a diagram from its tokens

The grammar of diagrams is

    diagram    = nodeDecl*
    nodeDecl   = "node" name "{" nodeItem* "}"
    nodeItem   = attribute | edgeDecl | nodeDecl
    edgeDecl   = "calls" name [ "->" name ] "{" attribute* "}"
    attribute  = "color" ":" name | "label" ":" ( name | '"' name '"' )

where an edge written with an arrow must name the enclosing node as its source, and nodes are nested
at most `maxNesting` deep.

A `ParseState` is what has been read so far: the complete top-level nodes, the nodes that are still
open, and the declaration that the innermost one is in the middle of. `ParseState.step` takes one
token and never looks at another, so reading is a fold over the tokens. `ParseState.wanted` is what
the grammar asks for at each point, and `Wanted.refuse` the error for a token that is not it. The
first refused token ends the reading.
-/

namespace DiagramCheck

/-! ## What the grammar asks for -/

/-- What has to come where a token is refused. -/
inductive Wanted
  /-- One fixed token. -/
  | token (t : Token)
  /-- A name, whichever it is. -/
  | name
  deriving DecidableEq

/-- The error for a token that is not what the grammar asks for. -/
def Wanted.refuse : Wanted → Lexeme → SyntaxError
  | .token t, found => .unexpectedToken t found
  | .name, found => .expectedIdentifier found

/-- How far an attribute has been read. -/
inductive AttributeStage
  /-- The keyword has been read, the colon comes next. -/
  | colon (kind : AttributeKind)
  /-- The colon has been read, the value comes next. -/
  | value (kind : AttributeKind)
  /-- The opening quote of a label has been read, its name comes next. -/
  | quoted
  /-- The name of a quoted label has been read, the closing quote comes next. -/
  | closing (text : Spanned)
  deriving DecidableEq

namespace AttributeStage

/-- What the grammar asks for inside an attribute. A label's value may also open with a quote. -/
def wanted : AttributeStage → Wanted
  | .colon _ => .token .colon
  | .value _ => .name
  | .quoted => .name
  | .closing _ => .token .quote

/-- Reads on in an attribute: the next stage, or the attribute when it is complete, or nothing when
the token is refused. -/
def step (stage : AttributeStage) (x : Lexeme) : Option (AttributeStage ⊕ Attribute) :=
  match stage, x.token with
  | .colon kind, .colon => some (.inl (.value kind))
  | .value kind, .identifier name => some (.inr ⟨kind, ⟨name, x.span⟩⟩)
  | .value .label, .quote => some (.inl .quoted)
  | .quoted, .identifier name => some (.inl (.closing ⟨name, x.span⟩))
  | .closing text, .quote => some (.inr ⟨.label, text⟩)
  | _, _ => none

end AttributeStage

/-- What the innermost open node is in the middle of. -/
inductive Focus
  /-- The keyword of the node has been read, its name comes next. -/
  | nodeName
  /-- The name of the node has been read, its opening brace comes next. -/
  | nodeBrace (id : Spanned)
  /-- Between two items of the node's body. -/
  | nodeBody (node : Node)
  /-- In an attribute of the node. -/
  | nodeAttribute (node : Node) (stage : AttributeStage)
  /-- The keyword of an edge has been read, a name comes next. -/
  | edgeName (node : Node)
  /-- The first name of an edge has been read: its source if an arrow follows, and its target
  otherwise. -/
  | edgeArrow (node : Node) (name : Spanned) (position : Position)
  /-- The arrow of an edge has been read, its target comes next. -/
  | edgeTarget (node : Node)
  /-- The target behind the arrow has been read, the opening brace comes next. -/
  | edgeBrace (node : Node) (target : Spanned)
  /-- Between two attributes of an edge. -/
  | edgeBody (node : Node) (edge : Edge)
  /-- In an attribute of an edge. -/
  | edgeAttribute (node : Node) (edge : Edge) (stage : AttributeStage)

/-- What the grammar asks for inside a node. Where a body goes on, this is its closing brace. -/
def Focus.wanted : Focus → Wanted
  | .nodeName => .name
  | .nodeBrace _ => .token .lbrace
  | .nodeBody _ => .token .rbrace
  | .nodeAttribute _ stage => stage.wanted
  | .edgeName _ => .name
  | .edgeArrow .. => .token .lbrace
  | .edgeTarget _ => .name
  | .edgeBrace .. => .token .lbrace
  | .edgeBody .. => .token .rbrace
  | .edgeAttribute _ _ stage => stage.wanted

/-- What has been read of a diagram. -/
inductive ParseState
  /-- Between two top-level nodes. -/
  | outside (finished : List Node)
  /-- Inside a node: the complete top-level nodes, the open nodes around the innermost one from the
  inside out, and what the innermost one is in the middle of. -/
  | inside (finished : List Node) (enclosing : List Node) (focus : Focus)

/-! ## Reading on -/

namespace ParseState

/-- Before the first token. -/
def start : ParseState :=
  .outside []

/-- The number of node declarations that are open. -/
def depth : ParseState → Nat
  | .outside _ => 0
  | .inside _ enclosing _ => enclosing.length + 1

/-- What the grammar asks for. Between top-level nodes this is another node. -/
def wanted : ParseState → Wanted
  | .outside _ => .token .node
  | .inside _ _ focus => focus.wanted

/-- Closes the innermost node: it is nested in the node around it, or is a top-level node itself. -/
def close (finished enclosing : List Node) (node : Node) : ParseState :=
  match enclosing with
  | [] => .outside (finished ++ [node])
  | outer :: others => .inside finished others (.nodeBody (outer.addChild node))

/-- Reads one token between two top-level nodes. -/
def stepOutside (finished : List Node) (x : Lexeme) : Except SyntaxError ParseState :=
  match x.token with
  | .node => .ok (.inside finished [] .nodeName)
  | _ => .error (.unexpectedToken .node x)

/-- Reads one token inside a node. -/
def stepInside (finished enclosing : List Node) (focus : Focus) (x : Lexeme) :
    Except SyntaxError ParseState :=
  match focus, x.token with
  | .nodeName, .identifier name => .ok (.inside finished enclosing (.nodeBrace ⟨name, x.span⟩))
  | .nodeBrace id, .lbrace => .ok (.inside finished enclosing (.nodeBody (.ofId id)))
  | .nodeBody node, .rbrace => .ok (close finished enclosing node)
  | .nodeBody node, .color =>
    .ok (.inside finished enclosing (.nodeAttribute node (.colon .color)))
  | .nodeBody node, .label =>
    .ok (.inside finished enclosing (.nodeAttribute node (.colon .label)))
  | .nodeBody node, .edge => .ok (.inside finished enclosing (.edgeName node))
  | .nodeBody node, .node =>
    if enclosing.length + 1 < maxNesting then .ok (.inside finished (node :: enclosing) .nodeName)
    else .error (.nestingTooDeep x)
  | .nodeAttribute node stage, _ =>
    match stage.step x with
    | some (.inl stage') => .ok (.inside finished enclosing (.nodeAttribute node stage'))
    | some (.inr a) => .ok (.inside finished enclosing (.nodeBody (node.addAttribute a)))
    | none => .error (stage.wanted.refuse x)
  | .edgeName node, .identifier name =>
    .ok (.inside finished enclosing (.edgeArrow node ⟨name, x.span⟩ x.position))
  | .edgeArrow node name _, .lbrace =>
    .ok (.inside finished enclosing (.edgeBody node ⟨node.id, name, []⟩))
  | .edgeArrow node name position, .arrow =>
    if name.agrees node.id then .ok (.inside finished enclosing (.edgeTarget node))
    else .error (.edgeSourceMismatch node.id name position)
  | .edgeTarget node, .identifier name =>
    .ok (.inside finished enclosing (.edgeBrace node ⟨name, x.span⟩))
  | .edgeBrace node target, .lbrace =>
    .ok (.inside finished enclosing (.edgeBody node ⟨node.id, target, []⟩))
  | .edgeBody node edge, .rbrace =>
    .ok (.inside finished enclosing (.nodeBody (node.addEdge edge)))
  | .edgeBody node edge, .color =>
    .ok (.inside finished enclosing (.edgeAttribute node edge (.colon .color)))
  | .edgeBody node edge, .label =>
    .ok (.inside finished enclosing (.edgeAttribute node edge (.colon .label)))
  | .edgeAttribute node edge stage, _ =>
    match stage.step x with
    | some (.inl stage') => .ok (.inside finished enclosing (.edgeAttribute node edge stage'))
    | some (.inr a) => .ok (.inside finished enclosing (.edgeBody node (edge.addAttribute a)))
    | none => .error (stage.wanted.refuse x)
  | _, _ => .error (focus.wanted.refuse x)

/-- Reads one token. -/
def step : ParseState → Lexeme → Except SyntaxError ParseState
  | .outside finished, x => stepOutside finished x
  | .inside finished enclosing focus, x => stepInside finished enclosing focus x

/-- Reads the end of the input: the diagram is complete exactly when no node is open. -/
def finish (s : ParseState) (stop : Lexeme) : Except SyntaxError Diagram :=
  match s with
  | .outside finished => .ok ⟨finished⟩
  | .inside _ _ focus => .error (focus.wanted.refuse stop)

end ParseState

/-! ## Reading all tokens -/

/-- How the reading of a diagram went. -/
structure Parse where
  /-- The tokens that were accepted, up to the end of the input or the first refused one. -/
  accepted : List Lexeme
  /-- The diagram, or the first fault. -/
  result : Except SyntaxError Diagram

/-- Reads tokens up to the end of the input, or up to the first one that is refused. -/
def ParseState.run (stop : Lexeme) : ParseState → List Lexeme → Parse
  | s, [] => ⟨[], s.finish stop⟩
  | s, x :: xs =>
    match s.step x with
    | .ok s' =>
      let following := s'.run stop xs
      ⟨x :: following.accepted, following.result⟩
    | .error e => ⟨[], .error e⟩

/-- Reads a diagram from a stream of tokens. -/
def TokenStream.parse (tokens : TokenStream) : Parse :=
  ParseState.start.run tokens.stop tokens.words

/-- Reads a diagram from a source. -/
def Diagram.parse (source : String) : Except SyntaxError Diagram :=
  (TokenStream.ofString source).parse.result

/-- Reads a diagram from the tokens that a lexer still has, also behind the end of an iteration. -/
def Lexer.parse (l : Lexer) : Except SyntaxError Diagram :=
  l.cursor.stream.parse.result

end DiagramCheck
