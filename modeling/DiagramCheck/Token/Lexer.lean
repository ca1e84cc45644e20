import DiagramCheck.Text.Character
import DiagramCheck.Token

/-!
# Reading tokens

A `Cursor` is a place in a source: the characters that are still unread, and how many bytes, lines
and columns lie before them. `Cursor.next` skips blanks and reads one token, and `Cursor.stream`
reads all of them up to the end of the input. Reading never fails: a character that the language
has no use for is a token of its own.

Every token but the last shortens what is unread (`Cursor.next_rest_lt`), so the stream is finite.

A `Lexer` drives a cursor by single calls. It can be read on for ever, token by token, where the
end of the input comes again and again; or it can be iterated, where the end comes once.
-/

namespace DiagramCheck

open Text

/-! ## The first token of a text -/

/-- The first token of a text, the characters that spell it and those behind it. -/
structure Piece where
  /-- The token. -/
  token : Token
  /-- The characters that spell it. -/
  text : List Char
  /-- The characters behind it. -/
  rest : List Char

/-- The first token of the text `c :: cs`, where `c` is no blank: the arrow, a single character of
punctuation, a word taken as long as possible, or a single unknown character. -/
def Piece.read (c : Char) (cs : List Char) : Piece :=
  if c = '-' ∧ cs.head? = some '>' then ⟨.arrow, ['-', '>'], cs.tail⟩
  else if c = '\x7b' then ⟨.lbrace, [c], cs⟩
  else if c = '\x7d' then ⟨.rbrace, [c], cs⟩
  else if c = ':' then ⟨.colon, [c], cs⟩
  else if c = '\x22' then ⟨.quote, [c], cs⟩
  else if isAlphabetic c then
    let word := c :: cs.takeWhile isAlphanumeric
    ⟨.ofWord (String.ofList word), word, cs.dropWhile isAlphanumeric⟩
  else ⟨.unknown (String.singleton c), [c], cs⟩

/-- The first token takes its characters from the front of the text, and leaves the rest. -/
theorem Piece.text_append_rest (c : Char) (cs : List Char) :
    (Piece.read c cs).text ++ (Piece.read c cs).rest = c :: cs := by
  unfold Piece.read
  split
  next h =>
    obtain ⟨rfl, h⟩ := h
    cases cs with
    | nil => simp at h
    | cons d ds => simp_all
  · repeat' split
    all_goals simp [List.takeWhile_append_dropWhile]

/-- The first token takes at least one character. -/
theorem Piece.text_ne_nil (c : Char) (cs : List Char) : (Piece.read c cs).text ≠ [] := by
  unfold Piece.read
  repeat' split
  all_goals simp

/-- What follows the first token is shorter than the text. -/
theorem Piece.rest_length_lt (c : Char) (cs : List Char) :
    (Piece.read c cs).rest.length < (c :: cs).length := by
  have h := congrArg List.length (text_append_rest c cs)
  have hpos := List.length_pos_iff.mpr (text_ne_nil c cs)
  rw [List.length_append] at h
  omega

/-! ## Cursors -/

/-- A place in a source. -/
structure Cursor where
  /-- The characters that are still unread. -/
  rest : List Char
  /-- The number of bytes read. -/
  offset : Nat
  /-- The position of the first unread character. -/
  position : Position
  deriving DecidableEq

namespace Cursor

/-- The start of a source. -/
def ofString (source : String) : Cursor :=
  ⟨source.toList, 0, Position.origin⟩

/-- The place behind `text`, when `rest` is what follows it. -/
def pass (c : Cursor) (text rest : List Char) : Cursor :=
  ⟨rest, c.offset + byteLength text, c.position.advanceOver text⟩

/-- The place of the first unread character that is no blank. -/
def skipBlanks (c : Cursor) : Cursor :=
  c.pass (c.rest.takeWhile isBlank) (c.rest.dropWhile isBlank)

/-- Reads the token that starts right here. Behind the last character this is the end of the
input, with the empty span there. -/
def read (c : Cursor) : Lexeme × Cursor :=
  match c.rest with
  | [] => (⟨.endOfInput, c.position, Span.emptyAt c.offset⟩, c)
  | x :: xs =>
    let piece := Piece.read x xs
    let stop := c.pass piece.text piece.rest
    (⟨piece.token, c.position, ⟨c.offset, stop.offset, Nat.le_add_right _ _⟩⟩, stop)

/-- Skips blanks and reads one token. -/
def next (c : Cursor) : Lexeme × Cursor :=
  c.skipBlanks.read

/-- Every token but the end of the input is read from at least one character. -/
theorem read_rest_lt {c : Cursor} (h : c.read.1.token ≠ .endOfInput) :
    c.read.2.rest.length < c.rest.length := by
  obtain ⟨rest, offset, position⟩ := c
  cases rest with
  | nil => exact absurd rfl h
  | cons x xs => exact Piece.rest_length_lt x xs

/-- Skipping blanks leaves no more to read. -/
theorem skipBlanks_rest_length_le (c : Cursor) : c.skipBlanks.rest.length ≤ c.rest.length :=
  (List.dropWhile_sublist isBlank).length_le

/-- Every token but the end of the input leaves less to read. -/
theorem next_rest_lt {c : Cursor} (h : c.next.1.token ≠ .endOfInput) :
    c.next.2.rest.length < c.rest.length :=
  Nat.lt_of_lt_of_le (read_rest_lt h) (skipBlanks_rest_length_le c)

end Cursor

/-! ## Streams of tokens -/

/-- All tokens of a text: those before the end of the input, and the end of the input itself. -/
structure TokenStream where
  /-- The tokens before the end of the input. -/
  words : List Lexeme
  /-- The end of the input. -/
  stop : Lexeme
  deriving DecidableEq

namespace TokenStream

/-- The tokens up to and including the end of the input. -/
def toList (s : TokenStream) : List Lexeme :=
  s.words ++ [s.stop]

/-- The tokens without their places, the end of the input left out. -/
def tokens (s : TokenStream) : List Token :=
  s.words.map Lexeme.token

end TokenStream

/-- All tokens from a place of a source on. -/
def Cursor.stream (c : Cursor) : TokenStream :=
  if _h : c.next.1.token = .endOfInput then ⟨[], c.next.1⟩
  else
    let following := c.next.2.stream
    ⟨c.next.1 :: following.words, following.stop⟩
termination_by c.rest.length
decreasing_by exact Cursor.next_rest_lt _h

/-- The place behind the last token, with its blanks. -/
def Cursor.finish (c : Cursor) : Cursor :=
  c.pass c.rest []

/-- All tokens of a source. -/
def TokenStream.ofString (source : String) : TokenStream :=
  (Cursor.ofString source).stream

/-! ## Driving a lexer -/

/-- A lexer at work: a place in the source, and whether iteration has come to its end. -/
structure Lexer where
  /-- The place in the source. -/
  cursor : Cursor
  /-- Whether iteration has yielded the end of the input. -/
  exhausted : Bool
  deriving DecidableEq

namespace Lexer

/-- A lexer at the start of a source. -/
def ofString (source : String) : Lexer :=
  ⟨Cursor.ofString source, false⟩

/-- Reads one token; at the end of the input that token comes again and again. -/
def nextToken (l : Lexer) : Lexeme × Lexer :=
  (l.cursor.next.1, ⟨l.cursor.next.2, l.exhausted⟩)

/-- Yields one token; nothing more comes once the end of the input has been yielded. -/
def next? (l : Lexer) : Option Lexeme × Lexer :=
  if l.exhausted then (none, l)
  else (some l.cursor.next.1, ⟨l.cursor.next.2, l.cursor.next.1.token.isEndOfInput⟩)

/-- Yields all tokens that iteration still has, and leaves it exhausted. -/
def drain (l : Lexer) : List Lexeme × Lexer :=
  if l.exhausted then ([], l)
  else (l.cursor.stream.toList, ⟨l.cursor.finish, true⟩)

end Lexer

end DiagramCheck
