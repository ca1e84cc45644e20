/-!
# Lines and columns

A position names a character of the source by its line and its column. Both count from one, and
columns count characters, not bytes. Only a line feed starts a new line.
-/

namespace DiagramCheck

/-- A line and a column, both counted from one. -/
structure Position where
  /-- The line, counted from one. -/
  line : Nat
  /-- The column within the line, counted from one. -/
  column : Nat
  /-- There is no line zero. -/
  line_pos : 1 ≤ line
  /-- There is no column zero. -/
  column_pos : 1 ≤ column
  deriving DecidableEq

namespace Position

/-- The position of a line and a column, where zero counts as one. -/
def ofCounts (line column : Nat) : Position :=
  ⟨max 1 line, max 1 column, Nat.le_max_left 1 line, Nat.le_max_left 1 column⟩

/-- The position of the first character. -/
def origin : Position :=
  ⟨1, 1, Nat.le_refl 1, Nat.le_refl 1⟩

/-- The position behind a character that stands at `p`. -/
def advance (p : Position) (c : Char) : Position :=
  if c = '\n' then ⟨p.line + 1, 1, Nat.le_add_left 1 p.line, Nat.le_refl 1⟩
  else ⟨p.line, p.column + 1, p.line_pos, Nat.le_add_left 1 p.column⟩

/-- The position behind a text that starts at `p`. -/
def advanceOver (p : Position) (text : List Char) : Position :=
  text.foldl advance p

/-- A position as it is written in messages: line, colon, column. -/
def display (p : Position) : String :=
  s!"{p.line}:{p.column}"

/-- Advancing over two texts in turn is advancing over their concatenation. -/
theorem advanceOver_append (p : Position) (a b : List Char) :
    p.advanceOver (a ++ b) = (p.advanceOver a).advanceOver b := by
  simp [advanceOver]

end Position

end DiagramCheck
