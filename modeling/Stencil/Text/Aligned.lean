/-!
# Aligned text

Texts made as wide as a column by spaces. A text that is wider stays as it is.
-/

namespace Stencil.Text

/-- A text with spaces before it up to a width. -/
def padLeft (width : Nat) (text : String) : String :=
  "".pushn ' ' (width - text.length) ++ text

/-- A text with spaces after it up to a width. -/
def padRight (width : Nat) (text : String) : String :=
  text ++ "".pushn ' ' (width - text.length)

end Stencil.Text
