/-!
# Byte ranges of text

Offsets into a text are byte offsets of its UTF-8 form. A range yields text only when both of its
ends lie on character boundaries.
-/

namespace Stencil.Text

/-- The UTF-8 bytes of a text, in order. -/
def bytes (text : String) : List UInt8 := text.toUTF8.toList

/-- An offset is a boundary when a character starts there or the text ends there. -/
def isBoundary (text : String) (offset : Nat) : Bool :=
  decide ((⟨offset⟩ : String.Pos.Raw).IsValid text)

/-- The text between two boundaries, or nothing for any other pair of offsets. -/
def slice? (text : String) (start stop : Nat) : Option String :=
  if h : start ≤ stop ∧ (⟨start⟩ : String.Pos.Raw).IsValid text ∧
      (⟨stop⟩ : String.Pos.Raw).IsValid text then
    some (text.extract ⟨⟨start⟩, h.2.1⟩ ⟨⟨stop⟩, h.2.2⟩)
  else
    none

/-- The text between two offsets, empty when the range is not one of whole characters. -/
def slice (text : String) (start stop : Nat) : String := (slice? text start stop).getD ""

/-- A text with the bytes from an offset on, so many of them, replaced by another text; nothing if
that leaves no text. -/
def splice? (text : String) (offset size : Nat) (inserted : String) : Option String :=
  let bytes := text.toUTF8
  String.fromUTF8? (bytes.extract 0 offset ++ inserted.toUTF8 ++
    bytes.extract (offset + size) bytes.size)

/-- The greatest boundary not beyond an offset. -/
def boundaryBefore (text : String) : Nat → Nat
  | 0 => 0
  | offset + 1 =>
    if isBoundary text (offset + 1) then offset + 1 else boundaryBefore text offset

/-- The bytes of a slice are the bytes of the text between its ends. -/
theorem toByteArray_of_slice? {text part : String} {start stop : Nat}
    (h : slice? text start stop = some part) :
    part.toByteArray = text.toByteArray.extract start stop := by
  unfold slice? at h
  split at h
  · simp only [Option.some.injEq] at h
    rw [← h]
    rfl
  · simp at h

/-- A snapped offset never moves forward. -/
theorem boundaryBefore_le (text : String) (offset : Nat) :
    boundaryBefore text offset ≤ offset := by
  induction offset with
  | zero => simp [boundaryBefore]
  | succ offset ih => unfold boundaryBefore; split <;> omega

end Stencil.Text
