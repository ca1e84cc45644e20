import DiagramCheck.Toml.Value

/-!
# The lexical part of TOML

Blanks, comments, keys and texts. Each reader takes what it needs from the front of the
characters and returns it with the characters behind it, or nothing when it is not there.
-/

namespace DiagramCheck.Toml

/-- The blanks that may stand between the parts of a line. -/
def isLineBlank (c : Char) : Bool :=
  c == ' ' || c == '\t'

/-- The control characters that may stand nowhere in a file. -/
def isControl (c : Char) : Bool :=
  (c.toNat < 0x20 && c != '\t') || c.toNat == 0x7F

/-- Skips the blanks of a line. -/
def skipLineBlanks (cs : List Char) : List Char :=
  cs.dropWhile isLineBlank

/-- Skips blanks, line ends and comments. It fails on a control character inside a comment. -/
def skipFiller (inComment : Bool) : List Char → Option (List Char)
  | [] => some []
  | '\n' :: cs => skipFiller false cs
  | '\r' :: '\n' :: cs => skipFiller false cs
  | c :: cs =>
    if inComment then
      if isControl c then none else skipFiller true cs
    else if isLineBlank c then skipFiller false cs
    else if c = '#' then skipFiller true cs
    else some (c :: cs)

/-- Skips what may stand behind the last part of a line: blanks, a comment, and the line end. -/
def lineEnd (cs : List Char) : Option (List Char) :=
  match skipLineBlanks cs with
  | [] => some []
  | '\n' :: rest => some rest
  | '\r' :: '\n' :: rest => some rest
  | '#' :: rest => skipFiller true rest
  | _ => none

/-! ## Texts -/

/-- The value of a hexadecimal digit. -/
def hexDigit? (c : Char) : Option Nat :=
  if '0' ≤ c ∧ c ≤ '9' then some (c.toNat - 0x30)
  else if 'a' ≤ c ∧ c ≤ 'f' then some (c.toNat - 0x61 + 10)
  else if 'A' ≤ c ∧ c ≤ 'F' then some (c.toNat - 0x41 + 10)
  else none

/-- The character whose code point is written in hexadecimal, if there is one. -/
def hexChar? (digits : List Char) : Option Char := do
  let code ← digits.foldlM (fun n c => (hexDigit? c).map (16 * n + ·)) 0
  if code.isValidChar then some (Char.ofNat code) else none

/-- The character that a backslash and one letter stand for. -/
def simpleEscape? (c : Char) : Option Char :=
  match c with
  | 'b' => some '\x08'
  | 't' => some '\t'
  | 'n' => some '\n'
  | 'f' => some '\x0c'
  | 'r' => some '\r'
  | 'e' => some '\x1b'
  | '\x22' => some '\x22'
  | '\\' => some '\\'
  | _ => none

/-- Puts a character in front of a text that was read. -/
def prepend (c : Char) (read : Option (List Char × List Char)) : Option (List Char × List Char) :=
  read.map fun r => (c :: r.1, r.2)

/-- Reads a text up to its closing double quote. -/
def quotedText : List Char → Option (List Char × List Char)
  | [] => none
  | '\x22' :: cs => some ([], cs)
  | '\\' :: 'x' :: a :: b :: cs => do prepend (← hexChar? [a, b]) (quotedText cs)
  | '\\' :: 'u' :: a :: b :: c :: d :: cs => do prepend (← hexChar? [a, b, c, d]) (quotedText cs)
  | '\\' :: 'U' :: a :: b :: c :: d :: e :: f :: g :: h :: cs => do
    prepend (← hexChar? [a, b, c, d, e, f, g, h]) (quotedText cs)
  | '\\' :: c :: cs => do prepend (← simpleEscape? c) (quotedText cs)
  | c :: cs => if isControl c ∨ c = '\\' then none else prepend c (quotedText cs)

/-- Reads a text up to its closing single quote. Nothing is escaped in it. -/
def literalText : List Char → Option (List Char × List Char)
  | [] => none
  | '\x27' :: cs => some ([], cs)
  | c :: cs => if isControl c then none else prepend c (literalText cs)

/-- Reads a text of several lines up to three double quotes; up to two more belong to the text. Line
ends behind a backslash are left out, with the blanks around them: `folding` says that this is
going on. -/
def quotedLines (folding : Bool) : List Char → Option (List Char × List Char)
  | '\x22' :: '\x22' :: '\x22' :: '\x22' :: '\x22' :: cs => some (['\x22', '\x22'], cs)
  | '\x22' :: '\x22' :: '\x22' :: '\x22' :: cs => some (['\x22'], cs)
  | '\x22' :: '\x22' :: '\x22' :: cs => some ([], cs)
  | '\\' :: 'x' :: a :: b :: cs => do prepend (← hexChar? [a, b]) (quotedLines false cs)
  | '\\' :: 'u' :: a :: b :: c :: d :: cs => do
    prepend (← hexChar? [a, b, c, d]) (quotedLines false cs)
  | '\\' :: 'U' :: a :: b :: c :: d :: e :: f :: g :: h :: cs => do
    prepend (← hexChar? [a, b, c, d, e, f, g, h]) (quotedLines false cs)
  | '\\' :: c :: cs =>
    match simpleEscape? c with
    | some escaped => prepend escaped (quotedLines false cs)
    | none =>
      if (lineEnd (c :: cs)).isSome ∧ skipLineBlanks (c :: cs) ≠ [] ∧
          (skipLineBlanks (c :: cs)).head? ≠ some '#' then
        quotedLines true cs
      else none
  | '\r' :: '\n' :: cs =>
    if folding then quotedLines true cs else prepend '\n' (quotedLines false cs)
  | '\n' :: cs =>
    if folding then quotedLines true cs else prepend '\n' (quotedLines false cs)
  | c :: cs =>
    if folding ∧ isLineBlank c then quotedLines true cs
    else if isControl c ∨ c = '\\' then none
    else prepend c (quotedLines false cs)
  | [] => none

/-- Reads a text of several lines up to three single quotes; up to two more belong to the text. -/
def literalLines : List Char → Option (List Char × List Char)
  | '\x27' :: '\x27' :: '\x27' :: '\x27' :: '\x27' :: cs => some (['\x27', '\x27'], cs)
  | '\x27' :: '\x27' :: '\x27' :: '\x27' :: cs => some (['\x27'], cs)
  | '\x27' :: '\x27' :: '\x27' :: cs => some ([], cs)
  | '\r' :: '\n' :: cs => prepend '\n' (literalLines cs)
  | '\n' :: cs => prepend '\n' (literalLines cs)
  | c :: cs => if isControl c then none else prepend c (literalLines cs)
  | [] => none

/-- A text of several lines starts on the line of its opening quotes or on the next one. -/
def skipFirstLineEnd : List Char → List Char
  | '\n' :: cs => cs
  | '\r' :: '\n' :: cs => cs
  | cs => cs

/-- Reads a text with its quotes, of one line or of several. -/
def text? : List Char → Option (String × List Char)
  | '\x22' :: '\x22' :: '\x22' :: cs =>
    (quotedLines false (skipFirstLineEnd cs)).map fun r => (String.ofList r.1, r.2)
  | '\x22' :: cs => (quotedText cs).map fun r => (String.ofList r.1, r.2)
  | '\x27' :: '\x27' :: '\x27' :: cs =>
    (literalLines (skipFirstLineEnd cs)).map fun r => (String.ofList r.1, r.2)
  | '\x27' :: cs => (literalText cs).map fun r => (String.ofList r.1, r.2)
  | _ => none

/-! ## Keys -/

/-- The characters of a key that needs no quotes. -/
def isBareKey (c : Char) : Bool :=
  c.isAlphanum || c == '_' || c == '-'

/-- Reads one part of a key: a bare word, or a text of one line. -/
def simpleKey? : List Char → Option (String × List Char)
  | '\x22' :: cs => (quotedText cs).map fun r => (String.ofList r.1, r.2)
  | '\x27' :: cs => (literalText cs).map fun r => (String.ofList r.1, r.2)
  | cs =>
    match cs.takeWhile isBareKey with
    | [] => none
    | word => some (String.ofList word, cs.dropWhile isBareKey)

/-- Reads a dotted key of at most `limit` parts: its first part, the others, and what follows, with
the blanks around the key skipped. -/
def dottedKey? : Nat → List Char → Option (String × List String × List Char)
  | 0, _ => none
  | limit + 1, cs => do
    let (key, rest) ← simpleKey? (skipLineBlanks cs)
    match skipLineBlanks rest with
    | '.' :: rest =>
      let (next, others, rest) ← dottedKey? limit rest
      some (key, next :: others, rest)
    | rest => some (key, [], rest)

end DiagramCheck.Toml
