import DiagramCheck.Text.Ranges
import DiagramCheck.Text.Alphabetic
import DiagramCheck.Text.Numeral

/-!
# Classes of characters

The three classes that divide a source text: blanks, which separate tokens and mean nothing else;
alphabetic characters, which start a word; and alphanumeric ones, which continue it. All three are
Unicode properties. On ASCII they are the familiar ones, and beyond it they are read from the
tables of ranges.
-/

namespace DiagramCheck.Text

/-- The blank characters: those with the Unicode property `White_Space`. -/
def blanks : List (Nat × Nat) :=
  [(0x0009, 0x000D), (0x0020, 0x0020), (0x0085, 0x0085), (0x00A0, 0x00A0), (0x1680, 0x1680),
   (0x2000, 0x200A), (0x2028, 0x2029), (0x202F, 0x202F), (0x205F, 0x205F), (0x3000, 0x3000)]

/-- Whether a character separates tokens and is otherwise skipped. -/
def isBlank (c : Char) : Bool :=
  inRanges blanks c.toNat

/-- Whether a character can start a word: the Unicode property `Alphabetic`. -/
def isAlphabetic (c : Char) : Bool :=
  if c.toNat < 0x80 then c.isAlpha
  else inRanges alphabeticLow c.toNat || inRanges alphabeticHigh c.toNat ||
    inRanges alphabeticSupplementary c.toNat || inRanges alphabeticIdeographic c.toNat

/-- Whether a character is a numeral: the Unicode general categories `Nd`, `Nl` and `No`. -/
def isNumeral (c : Char) : Bool :=
  if c.toNat < 0x80 then c.isDigit
  else inRanges numeralBasic c.toNat || inRanges numeralSupplementary c.toNat

/-- Whether a character can continue a word. -/
def isAlphanumeric (c : Char) : Bool :=
  isAlphabetic c || isNumeral c

/-- Whatever starts a word can also continue one. -/
theorem isAlphanumeric_of_isAlphabetic {c : Char} (h : isAlphabetic c = true) :
    isAlphanumeric c = true := by
  simp [isAlphanumeric, h]

/-- The bytes that a text takes in UTF-8. -/
def byteLength : List Char → Nat
  | [] => 0
  | c :: cs => c.utf8Size + byteLength cs

/-- The byte length of a text is the sum of those of its two parts. -/
theorem byteLength_append (a b : List Char) :
    byteLength (a ++ b) = byteLength a + byteLength b := by
  induction a with
  | nil => simp [byteLength]
  | cons c cs ih => simp [byteLength, ih, Nat.add_assoc]

end DiagramCheck.Text
