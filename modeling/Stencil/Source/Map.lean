import Stencil.Source.Position
import Stencil.Text.Slice
/-!
# Lines of a source

Offsets are resolved to lines and columns by the places where lines start. A message can be shown
with the line it is about and marks under the span it is about.
-/

namespace Stencil

/-- A source and the offsets where its lines start. -/
structure SourceMap where
  source : String
  lineStarts : Array Nat

namespace SourceMap

/-- The offset after each line feed from an offset on, onto the starts found before. -/
def startsFrom (source : String) (offset : Nat) (found : Array Nat) : Array Nat :=
  if inside : offset < source.utf8ByteSize then
    let next := offset + 1
    startsFrom source next
      (if source.getUTF8Byte ⟨offset⟩ inside = 10 then found.push next else found)
  else
    found
termination_by source.utf8ByteSize - offset

/-- A source with its line starts: offset zero and the offset after every line feed. -/
def ofSource (source : String) : SourceMap := ⟨source, startsFrom source 0 #[0]⟩

/-- The number of lines; a line feed at the end begins a last, empty one. -/
def lineCount (map : SourceMap) : Nat := map.lineStarts.size

/-- The last index in `low ≤ i < high` whose line starts at or before an offset, given that the
line at `low` does and that lines start in increasing order. -/
def lastStart (starts : Array Nat) (offset low high : Nat) : Nat :=
  if h : low + 1 < high then
    let middle := (low + high) / 2
    if (starts[middle]?.getD 0) ≤ offset then lastStart starts offset middle high
    else lastStart starts offset low middle
  else
    low
termination_by high - low
decreasing_by all_goals omega

/-- Line and column of an offset. One past the end stands for the end, one inside a character for
the start of that character. Of the two numbers what 32 bits hold is kept. -/
def positionAt (map : SourceMap) (offset : Nat) : Position :=
  let offset := Text.boundaryBefore map.source (min offset map.source.utf8ByteSize)
  let line := lastStart map.lineStarts offset 0 map.lineStarts.size
  let lineStart := map.lineStarts[line]?.getD 0
  Position.narrowed ⟨offset, line + 1, (Text.slice map.source lineStart offset).length + 1⟩

/-- The span of two offsets; an end before the start stands for the start. -/
def span (map : SourceMap) (start stop : Nat) : Span :=
  ⟨map.positionAt start, map.positionAt (max stop start)⟩

/-- The span of no width at an offset. -/
def pointSpan (map : SourceMap) (offset : Nat) : Span := map.span offset offset

/-- A line without its terminator and without carriage returns before it. -/
def line? (map : SourceMap) (number : Nat) : Option String :=
  match number with
  | 0 => none
  | index + 1 =>
    map.lineStarts[index]?.map fun start =>
      let stop := match map.lineStarts[index + 1]? with
        | some next => next - 1
        | none => map.source.utf8ByteSize
      ((Text.slice map.source start stop).dropEndWhile (· = '\r')).toString

/-- The text a span covers, unless its offsets run backwards or cut a character. -/
def spanText? (map : SourceMap) (span : Span) : Option String :=
  Text.slice? map.source span.start.offset span.stop.offset

/-- The number of marks under a line for a span that starts on it: up to the end of the span, or to
the end of the line when the span goes on below. Nothing if that end lies before the start. -/
def underlineWidth? (line : String) (span : Span) : Option Nat :=
  let stop := if span.start.line = span.stop.line then span.stop.column else line.length + 1
  if stop < span.start.column then none else some (max 1 (stop - span.start.column))

/-- So many copies of a character. -/
def copies (count : Nat) (c : Char) : String := "".pushn c count

/-- A message with the place it is about, the line there, and marks under the span. There is no such
picture when the span starts beyond the line it would be drawn under. -/
def render? (map : SourceMap) (file : String) (span : Span) (message : String) : Option String :=
  let head := "error: " ++ message ++ "\n  --> " ++ file ++ ":" ++ span.start.label ++ "\n"
  match map.line? span.start.line with
  | none => some head
  | some line =>
    match underlineWidth? line span, span.start.column with
    | some width, before + 1 =>
      let number := toString span.start.line
      let margin := copies number.length ' '
      some (head ++ margin ++ " |\n" ++ number ++ " | " ++ line ++ "\n" ++
        margin ++ " | " ++ copies before ' ' ++ copies width '^' ++ "\n")
    | _, _ => none

end SourceMap
end Stencil
