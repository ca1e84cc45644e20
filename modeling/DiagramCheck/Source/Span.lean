/-!
# Spans of source text

A span is a half-open range of byte offsets into the source. It never ends before it starts: the
bound is part of the type, and `Span.ofBounds` builds a span from any two numbers by raising the
end to the start where needed.
-/

namespace DiagramCheck

/-- A half-open range of byte offsets. -/
structure Span where
  /-- The offset of the first byte. -/
  start : Nat
  /-- The offset just behind the last byte. -/
  stop : Nat
  /-- A span does not end before it starts. -/
  start_le_stop : start ≤ stop
  deriving DecidableEq

namespace Span

/-- The span from `start` to `stop`, or the empty span at `start` when `stop` lies before it. -/
def ofBounds (start stop : Nat) : Span :=
  ⟨start, max start stop, Nat.le_max_left start stop⟩

/-- The empty span at an offset. -/
def emptyAt (offset : Nat) : Span :=
  ⟨offset, offset, Nat.le_refl offset⟩

/-- The empty span at the start of the source, for what was written down without one. -/
def origin : Span :=
  emptyAt 0

/-- The number of bytes that a span covers. -/
def length (s : Span) : Nat :=
  s.stop - s.start

/-- Whether a span covers nothing. -/
def isEmpty (s : Span) : Bool :=
  s.start == s.stop

end Span

/-- A piece of text together with where it stands in the source. -/
structure Spanned where
  /-- The text itself. -/
  text : String
  /-- The bytes of the source that it was read from. -/
  span : Span
  deriving DecidableEq

namespace Spanned

/-- A text that was read from nowhere. -/
def ofText (text : String) : Spanned :=
  ⟨text, Span.origin⟩

/-- Two pieces of text agree when their texts do, wherever they stand. -/
def agrees (a b : Spanned) : Bool :=
  a.text == b.text

end Spanned

end DiagramCheck
