import Stencil.Toml.Quoted
/-!
# Writing TOML

A text is written in the first form that suits it: in double quotes as long as nothing has to be
escaped, then in single quotes, then in three of either, and only then with escapes.
-/

namespace Stencil.Toml

/-- Whether a character is a control that cannot stand in a text as it is. -/
def isControl (c : Char) : Bool := (c.toNat < 32 && c ≠ '\t' && c ≠ '\n') || c.toNat = 127

/-- The length of the longest run of a character, of which some came before. -/
def longestRun (c : Char) (before : Nat) : List Char → Nat
  | [] => before
  | d :: rest => if d = c then longestRun c (before + 1) rest else max before (longestRun c 0 rest)

/-- The form a text is written in. -/
def formOf (text : List Char) : QuoteForm :=
  let hasControl := text.any isControl
  let hasNewline := text.contains '\n'
  let hasBackslash := text.contains '\\'
  if !hasControl && !hasNewline && !hasBackslash && !text.contains '"' then ⟨'"', false, true⟩
  else if !hasControl && !hasNewline && !text.contains '\'' then ⟨'\'', false, false⟩
  else if !hasControl && !hasBackslash && longestRun '"' 0 text ≤ 2 then ⟨'"', true, true⟩
  else if !hasControl && longestRun '\'' 0 text ≤ 2 then ⟨'\'', true, false⟩
  else ⟨'"', hasNewline, true⟩

/-- A number in base sixteen with four digits, in capitals. -/
def hexText (n : Nat) : String :=
  let digits := String.ofList ((Nat.toDigits 16 n).map Char.toUpper)
  "".pushn '0' (4 - digits.length) ++ digits

/-- A character other than a quote between double quotes. -/
def escape (isLong : Bool) (c : Char) : String :=
  if c = '\\' then "\\\\"
  else if c = '\t' then "\\t"
  else if c = '\r' then "\\r"
  else if c = '\n' then if isLong then "\n" else "\\n"
  else if c.toNat = 8 then "\\b"
  else if c.toNat = 12 then "\\f"
  else if isControl c then "\\u" ++ hexText c.toNat
  else c.toString

/-- A text between double quotes, of which some came just before. Between three quotes only every
third quote in a row is escaped. -/
def escapeAll (isLong : Bool) (quotes : Nat) : List Char → String
  | [] => ""
  | c :: rest =>
    if c = '"' then
      if isLong && quotes < 2 then "\"" ++ escapeAll isLong (quotes + 1) rest
      else "\\\"" ++ escapeAll isLong 0 rest
    else
      escape isLong c ++ escapeAll isLong 0 rest

/-- A text in a form. -/
def writeAs (form : QuoteForm) (text : List Char) : String :=
  let quotes := "".pushn form.quote (if form.isLong then 3 else 1)
  let start := if form.isLong && text.contains '\n' then "\n" else ""
  let inside := if form.hasEscapes then escapeAll form.isLong 0 text else String.ofList text
  quotes ++ start ++ inside ++ quotes

/-- A text as a value. -/
def write (text : String) : String := writeAs (formOf text.toList) text.toList

end Stencil.Toml
