import DiagramCheck.Toml.Lexical

/-!
# Bare words of TOML

What a value can be without quotes and brackets: a truth value, a whole number, a decimal fraction,
or a date, a time or both. Numbers that are too large for their kind are refused, and so are dates
that are in no calendar.
-/

namespace DiagramCheck.Toml

/-! ## Whole numbers -/

/-- The value of digits in a base, behind digits with the value `read` if there were any. Single
underscores may stand between digits. -/
def digitsFrom? (base : Nat) (read : Option Nat) : List Char → Option Nat
  | [] => read
  | '_' :: c :: cs => do
    let before ← read
    let digit ← hexDigit? c
    if digit < base then digitsFrom? base (some (base * before + digit)) cs else none
  | c :: cs => do
    let digit ← hexDigit? c
    if digit < base then digitsFrom? base (some (base * read.getD 0 + digit)) cs else none

/-- The value of digits in a base. -/
def digits? (base : Nat) (cs : List Char) : Option Nat :=
  digitsFrom? base none cs

/-- The value of a decimal number without its sign. It has no leading zeros. -/
def decimal? : List Char → Option Nat
  | '0' :: _ :: _ => none
  | cs => digits? 10 cs

/-- The value of a whole number: decimal with an optional sign, or hexadecimal, octal or binary. -/
def integer? : List Char → Option Int
  | '0' :: 'x' :: cs => (digits? 16 cs).map Int.ofNat
  | '0' :: 'o' :: cs => (digits? 8 cs).map Int.ofNat
  | '0' :: 'b' :: cs => (digits? 2 cs).map Int.ofNat
  | '+' :: cs => (decimal? cs).map Int.ofNat
  | '-' :: cs => (decimal? cs).map fun n => -Int.ofNat n
  | cs => (decimal? cs).map Int.ofNat

/-! ## Decimal fractions -/

/-- The power of ten that the end of a number stands for, where there is one. -/
def exponent? : List Char → Option Int
  | [] => some 0
  | mark :: cs =>
    if mark = 'e' ∨ mark = 'E' then
      match cs with
      | '+' :: cs => (digits? 10 cs).map Int.ofNat
      | '-' :: cs => (digits? 10 cs).map fun n => -Int.ofNat n
      | cs => (digits? 10 cs).map Int.ofNat
    else none

/-- The characters of digits. -/
def isDigitChar (c : Char) : Bool :=
  c.isDigit || c == '_'

/-- A number without its sign that has places behind the point, or an exponent, or both: the number
that all digits make, and the power of ten that it is to be multiplied with. -/
def fraction? (cs : List Char) : Option (Nat × Int) := do
  let whole := cs.takeWhile isDigitChar
  let number ← decimal? whole
  match cs.dropWhile isDigitChar with
  | [] => none
  | '.' :: cs =>
    let places := cs.takeWhile isDigitChar
    let _ ← digits? 10 places
    let power ← exponent? (cs.dropWhile isDigitChar)
    some (← digits? 10 (whole ++ places), power - (places.filter Char.isDigit).length)
  | cs => some (number, ← exponent? cs)

/-- The least number that rounds to no fraction of 64 bits. -/
def fractionLimit : Nat :=
  Nat.pow 2 1024 - Nat.pow 2 970

/-- Whether a number times a power of ten rounds to a fraction of 64 bits. -/
def isInRange (number : Nat) (power : Int) : Bool :=
  let size := (Nat.toDigits 10 number).length + power
  if number = 0 ∨ size ≤ 308 then true
  else if 310 ≤ size then false
  else if 0 ≤ power then number * Nat.pow 10 power.toNat < fractionLimit
  else number < fractionLimit * Nat.pow 10 (-power).toNat

/-- Whether a word is a decimal fraction. -/
def isFraction (word : List Char) : Bool :=
  let unsigned := match word with
    | '+' :: cs => cs
    | '-' :: cs => cs
    | cs => cs
  match String.ofList unsigned with
  | "inf" => true
  | "nan" => true
  | _ => (fraction? unsigned).any fun f => isInRange f.1 f.2

/-! ## Dates and times -/

/-- Reads two digits whose number lies between two others. -/
def twoDigits? (least most : Nat) : List Char → Option (Nat × List Char)
  | a :: b :: cs =>
    match if a.isDigit && b.isDigit then digits? 10 [a, b] else none with
    | none => none
    | some n => if least ≤ n ∧ n ≤ most then some (n, cs) else none
  | _ => none

/-- How many days a month has. -/
def daysIn (year month : Nat) : Nat :=
  if month = 2 then
    if year % 4 = 0 ∧ (year % 100 ≠ 0 ∨ year % 400 = 0) then 29 else 28
  else if month = 4 ∨ month = 6 ∨ month = 9 ∨ month = 11 then 30
  else 31

/-- Reads a date: what follows it. -/
def date? : List Char → Option (List Char)
  | a :: b :: c :: d :: '-' :: cs => do
    let year ← if [a, b, c, d].all Char.isDigit then digits? 10 [a, b, c, d] else none
    match ← twoDigits? 1 12 cs with
    | (month, '-' :: cs) => (twoDigits? 1 (daysIn year month) cs).map Prod.snd
    | _ => none
  | _ => none

/-- Reads a time, where the seconds may be left out: what follows it. -/
def time? (cs : List Char) : Option (List Char) := do
  match ← twoDigits? 0 23 cs with
  | (_, ':' :: cs) =>
    match ← twoDigits? 0 59 cs with
    | (_, ':' :: cs) =>
      match ← twoDigits? 0 60 cs with
      | (_, '.' :: cs) =>
        if cs.head?.any Char.isDigit then some (cs.dropWhile Char.isDigit) else none
      | (_, cs) => some cs
    | (_, cs) => some cs
  | _ => none

/-- Whether a text is the offset of a time from that of Greenwich, or empty. -/
def isOffset : List Char → Bool
  | [] => true
  | ['Z'] => true
  | ['z'] => true
  | sign :: cs =>
    (sign == '+' || sign == '-') &&
      match twoDigits? 0 23 cs with
      | some (_, ':' :: cs) => (twoDigits? 0 59 cs).any fun r => r.2.isEmpty
      | _ => false

/-- Whether a word is a date, a time, or both with or without an offset. -/
def isDateTime (word : List Char) : Bool :=
  match date? word with
  | some [] => true
  | some (mark :: cs) =>
    (mark == 'T' || mark == 't' || mark == ' ') && (time? cs).any isOffset
  | none => (time? word).any List.isEmpty

/-! ## Words -/

/-- The value of a bare word. A whole number has at most 128 bits. -/
def word? (word : List Char) : Option Value :=
  match String.ofList word with
  | "true" => some (.boolean true)
  | "false" => some (.boolean false)
  | written =>
    match integer? word with
    | some n => if isLongInteger n then some (.integer n) else none
    | none =>
      if isFraction word then some (.fraction written)
      else if isDateTime word then some (.dateTime written)
      else none

/-- The characters of a bare word. -/
def isWordChar (c : Char) : Bool :=
  isBareKey c || c == '+' || c == '.' || c == ':'

/-- The bare word at the front of a text, and what follows it. The blank between a date and a time
belongs to the word. -/
def bareWord (cs : List Char) : List Char × List Char :=
  let word := cs.takeWhile isWordChar
  match date? word, cs.dropWhile isWordChar with
  | some [], ' ' :: d :: rest =>
    if d.isDigit then
      (word ++ ' ' :: (d :: rest).takeWhile isWordChar, (d :: rest).dropWhile isWordChar)
    else (word, ' ' :: d :: rest)
  | _, rest => (word, rest)

end DiagramCheck.Toml
