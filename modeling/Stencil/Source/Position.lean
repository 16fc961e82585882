/-!
# Positions and spans

A position is a byte offset with the line and column it falls on, which are kept in 32 bits. A span
is a pair of them.
-/

namespace Stencil

/-- A place in a source: a byte offset from zero, a line and a column from one. Columns count
characters. -/
structure Position where
  offset : Nat
  line : Nat
  column : Nat
  deriving DecidableEq

namespace Position

/-- The place where every source begins. -/
def start : Position := ⟨0, 1, 1⟩

/-- What 32 bits hold of a number: its remainder, so that nothing is lost of a smaller one. -/
def held (number : Nat) : Nat := number.toUInt32.toNat

/-- The position that is kept of one by its offset and with a line and a column of any size. -/
def narrowed (place : Position) : Position :=
  { place with line := held place.line, column := held place.column }

/-- Line and column. -/
def label (position : Position) : String :=
  toString position.line ++ ":" ++ toString position.column

/-- Order by offset, then line, then column. -/
def compare (a b : Position) : Ordering :=
  (Ord.compare a.offset b.offset).then
    ((Ord.compare a.line b.line).then (Ord.compare a.column b.column))

end Position

/-- A range of a source; the end does not belong to it. -/
structure Span where
  start : Position
  stop : Position
  deriving DecidableEq

namespace Span

/-- The span of no width at a position. -/
def point (position : Position) : Span := ⟨position, position⟩

/-- The number of bytes covered. -/
def size (span : Span) : Nat := span.stop.offset - span.start.offset

/-- Whether no byte is covered. -/
def isEmpty (span : Span) : Bool := span.start.offset = span.stop.offset

/-- The smallest span that covers both; of equal ends the first span's is taken. -/
def merge (a b : Span) : Span where
  start := if a.start.offset ≤ b.start.offset then a.start else b.start
  stop := if a.stop.offset ≥ b.stop.offset then a.stop else b.stop

/-- Columns alone when the span stays on its line, both positions otherwise. -/
def label (span : Span) : String :=
  if span.start.line = span.stop.line then
    span.start.label ++ "-" ++ toString span.stop.column
  else
    span.start.label ++ "-" ++ span.stop.label

end Span
end Stencil
