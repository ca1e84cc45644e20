import DiagramCheck.Source.Span
import DiagramCheck.Source.Position

/-!
# Tokens

The vocabulary of the diagram language. A token has two texts of its own: `Token.text` is how it is
written in a source, and `Token.symbol` is how messages name it. A `Lexeme` is a token with the
place that it was read from.
-/

namespace DiagramCheck

/-- The tokens of the diagram language. -/
inductive Token
  /-- The keyword that declares a node. -/
  | node
  /-- The keyword that declares an edge, written `calls` or `edge`. -/
  | edge
  /-- The keyword of a color. -/
  | color
  /-- The keyword of a label, written `label` or `desc`. -/
  | label
  /-- A word that is no keyword. -/
  | identifier (name : String)
  /-- The arrow between the source and the target of an edge. -/
  | arrow
  /-- The colon between an attribute's keyword and its value. -/
  | colon
  /-- The brace that opens a body. -/
  | lbrace
  /-- The brace that closes a body. -/
  | rbrace
  /-- The double quote around a label. -/
  | quote
  /-- A character that the language has no use for. -/
  | unknown (text : String)
  /-- What stands behind the last token. -/
  | endOfInput
  deriving DecidableEq

namespace Token

/-- The token that a whole word is: a keyword, or an identifier. Keywords are lower case. -/
def ofWord (word : String) : Token :=
  match word with
  | "node" => .node
  | "edge" => .edge
  | "calls" => .edge
  | "color" => .color
  | "label" => .label
  | "desc" => .label
  | _ => .identifier word

/-- How messages name a token. Identifiers and unknown characters are named by their kind. -/
def symbol : Token → String
  | .node => "'node'"
  | .edge => "'calls'"
  | .color => "'color'"
  | .label => "'label'"
  | .identifier _ => "Identifier"
  | .arrow => "'->'"
  | .colon => "':'"
  | .lbrace => "lbrace '\x7b'"
  | .rbrace => "rbrace '\x7d'"
  | .quote => "'\x22'"
  | .unknown _ => "unknown token"
  | .endOfInput => "end of input"

/-- A token as it is written in a source; of two spellings the first one named above. -/
def text : Token → String
  | .node => "node"
  | .edge => "calls"
  | .color => "color"
  | .label => "label"
  | .identifier name => name
  | .arrow => "->"
  | .colon => ":"
  | .lbrace => "\x7b"
  | .rbrace => "\x7d"
  | .quote => "\x22"
  | .unknown text => text
  | .endOfInput => "<eof>"

/-- Whether a token marks the end of the source. -/
def isEndOfInput (t : Token) : Bool :=
  t == .endOfInput

end Token

/-- A token together with where it starts and which bytes it covers. -/
structure Lexeme where
  /-- The token. -/
  token : Token
  /-- The line and column of its first character. -/
  position : Position
  /-- Its bytes. -/
  span : Span
  deriving DecidableEq

/-- A lexeme as messages describe it: its symbol and its position. -/
def Lexeme.describe (x : Lexeme) : String :=
  s!"{x.token.symbol} at {x.position.display}"

end DiagramCheck
