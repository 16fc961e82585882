import Stencil.Text.CodeRange
/-!
# Blank characters

The characters with the White_Space property, and trimming by them.
-/

namespace Stencil.Text

/-- Inclusive code point ranges of the White_Space property. -/
def blankRanges : CodeRanges where
  ranges :=
    [(0x09, 0x0D), (0x20, 0x20), (0x85, 0x85), (0xA0, 0xA0), (0x1680, 0x1680), (0x2000, 0x200A),
     (0x2028, 0x2029), (0x202F, 0x202F), (0x205F, 0x205F), (0x3000, 0x3000)]
  increasing := by decide

/-- A character is blank when it has the White_Space property. -/
def isBlank (c : Char) : Bool := c.toNat ∈ blankRanges

/-- Characters without the blank ones at either end. -/
def trimChars (chars : List Char) : List Char :=
  ((chars.dropWhile isBlank).reverse.dropWhile isBlank).reverse

/-- A text without the blank characters at either end. -/
def trim (text : String) : String := String.ofList (trimChars text.toList)

/-- A text is blank when it has no character that is not. -/
def isBlankText (text : String) : Bool := text.toList.all isBlank

end Stencil.Text
