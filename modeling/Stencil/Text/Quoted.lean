import Stencil.Text.Hidden
/-!
# Quoted text

The one-line form of a text used in dumps and error messages: double quotes around it, and an
escape for every character that would not show.
-/

namespace Stencil.Text

/-- The digits of a number in base sixteen, lower case, no leading zeros. -/
def hexDigits (n : Nat) : String := String.ofList (Nat.toDigits 16 n)

/-- The written form of one character between double quotes. -/
def quoteChar (c : Char) : String :=
  if c = '"' then "\\\""
  else if c = '\\' then "\\\\"
  else if c = '\t' then "\\t"
  else if c = '\n' then "\\n"
  else if c = '\r' then "\\r"
  else if c.toNat = 0 then "\\0"
  else if isHidden c then "\\u\x7b" ++ hexDigits c.toNat ++ "\x7d"
  else c.toString

/-- A text in double quotes with hidden characters escaped. -/
def quote (text : String) : String :=
  text.foldl (fun out c => out ++ quoteChar c) "\"" ++ "\""

end Stencil.Text
