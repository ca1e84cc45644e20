import DiagramCheck.Diagnostic
import DiagramCheck.Token

/-!
# Syntax errors

The reader of a diagram stops at the first token that the grammar has no place for. A `SyntaxError`
says what was wrong there, and keeps the token or the name that was, so that the error can be shown
in the source.
-/

namespace DiagramCheck

/-- How deep nodes may be nested, the top level included. -/
def maxNesting : Nat := 64

/-- The first fault of a source. -/
inductive SyntaxError
  /-- A fixed token was needed and another one found. -/
  | unexpectedToken (expected : Token) (found : Lexeme)
  /-- A name was needed and something else found. -/
  | expectedIdentifier (found : Lexeme)
  /-- An edge declared in `node` is written as starting at `found`. -/
  | edgeSourceMismatch (node found : Spanned) (position : Position)
  /-- A node declaration is nested too deep. -/
  | nestingTooDeep (found : Lexeme)
  deriving DecidableEq

namespace SyntaxError

/-- The code of a syntax error. -/
def code : SyntaxError → Code
  | .unexpectedToken .. => .unexpectedToken
  | .expectedIdentifier _ => .expectedIdentifier
  | .edgeSourceMismatch .. => .edgeSourceMismatch
  | .nestingTooDeep _ => .nestingTooDeep

/-- The line and column of the fault. -/
def position : SyntaxError → Position
  | .unexpectedToken _ found => found.position
  | .expectedIdentifier found => found.position
  | .edgeSourceMismatch _ _ position => position
  | .nestingTooDeep found => found.position

/-- The bytes of the fault. -/
def span : SyntaxError → Span
  | .unexpectedToken _ found => found.span
  | .expectedIdentifier found => found.span
  | .edgeSourceMismatch _ found _ => found.span
  | .nestingTooDeep found => found.span

/-- A syntax error on one line, with its position. -/
def message : SyntaxError → String
  | .unexpectedToken expected found => s!"expected {expected.symbol}, found {found.describe}"
  | .expectedIdentifier found => s!"expected Identifier, found {found.describe}"
  | .edgeSourceMismatch node found position =>
    s!"edge in node `{node.text}` must start at `{node.text}`, found `{found.text}` at " ++
      position.display
  | .nestingTooDeep found =>
    s!"nodes nested deeper than {maxNesting} levels, found {found.describe}"

/-- A syntax error as a diagnostic. The labels mark the fault, and for an edge with a wrong source
also the name of the node that the edge is declared in. -/
def diagnostic (e : SyntaxError) : Diagnostic :=
  match e with
  | .unexpectedToken expected found =>
    let d := ((Diagnostic.error s!"unexpected {found.token.symbol}").withCode e.code).withLabel
      found.span s!"expected {expected.symbol}"
    if found.token = .endOfInput ∧ expected = .rbrace then
      d.withHelp "the input ended before every `\x7b` was closed"
    else d
  | .expectedIdentifier found =>
    (((Diagnostic.error s!"expected Identifier, found {found.token.symbol}").withCode
      e.code).withLabel found.span "expected a name here").withHelp
        "names start with a letter and contain only letters and digits"
  | .edgeSourceMismatch node found _ =>
    ((((Diagnostic.error
      s!"edge source `{found.text}` does not match enclosing node `{node.text}`").withCode
        e.code).withLabel found.span s!"expected `{node.text}`").withSecondaryLabel
          node.span "enclosing node declared here").withHelp
            ("edges start at the node they are declared in; write " ++
              s!"`edge {node.text} -> <target>` or just `edge <target>`")
  | .nestingTooDeep found =>
    (((Diagnostic.error s!"nodes nested more than {maxNesting} levels deep").withCode
      e.code).withLabel found.span "this node exceeds the nesting limit").withHelp
        "move some nested nodes to the top level and connect them with edges"

end SyntaxError

end DiagramCheck
