import Stencil.Toml.Reader
/-!
# Texts and keys of TOML

Texts are written in four forms: in double quotes with escapes or in single quotes without, each on
one line or, with the quotes tripled, on several. Keys are bare words or texts on one line, with
dots between them.
-/

namespace Stencil.Toml

/-- A step into a text in quotes: a piece of the text, or what comes before the closing quotes. -/
inductive QuotedStep where
  | piece (text : List Char)
  | close (text : List Char)

/-- What the steps of a reader spell up to the close. -/
def spell (step : Reader QuotedStep) (text : List Char) : Option (List Char × List Char) :=
  match step text with
  | none => none
  | some (.close last, rest) => some (last, rest)
  | some (.piece part, rest) =>
    if rest.length < text.length then
      (spell step rest).map fun others => (part ++ others.1, others.2)
    else
      none
termination_by text.length

/-- The value of a digit in base sixteen or less. -/
def digitValue (c : Char) : Nat :=
  if c.isDigit then c.toNat - '0'.toNat else c.toLower.toNat - 'a'.toNat + 10

/-- The number that digits stand for. -/
def numberOf (base : Nat) (digits : List Char) : Nat :=
  digits.foldl (fun n c => n * base + digitValue c) 0

/-- Whether a character is a digit in base sixteen. -/
def isHexDigit (c : Char) : Bool :=
  c.isDigit || ('a' ≤ c && c ≤ 'f') || ('A' ≤ c && c ≤ 'F')

/-- How a text is written. -/
structure QuoteForm where
  quote : Char
  /-- The quotes are tripled and the text can have line ends. -/
  isLong : Bool
  /-- A backslash begins an escape. -/
  hasEscapes : Bool

namespace Reader

/-- One character by its number, which has so many digits in base sixteen. -/
def codePoint (size : Nat) : Reader Char := do
  let digits := (← get).take size
  guard (digits.length = size && digits.all isHexDigit)
  modify (·.drop size)
  let number := numberOf 16 digits
  guard (Nat.isValidChar number)
  return Char.ofNat number

/-- One character. -/
def character : Reader Char := do
  match ← get with
  | c :: rest =>
    set rest
    return c
  | [] => failure

/-- What stands after a backslash. -/
def escaped : Reader Char := do
  match ← character with
  | 'b' => return Char.ofNat 8
  | 't' => return '\t'
  | 'n' => return '\n'
  | 'f' => return Char.ofNat 12
  | 'r' => return '\r'
  | '"' => return '"'
  | '\\' => return '\\'
  | 'u' => codePoint 4
  | 'U' => codePoint 8
  | _ => failure

/-- A backslash at the end of a line and everything up to the next character that is neither blank
nor a line end. -/
def continuation : Reader Unit := do
  expect "\\"
  blanks
  newline
  let _ ← many (newline <|> do
    guard ((← get).head? == some ' ' || (← get).head? == some '\t')
    blanks)

/-- One step into a text on one line. -/
def shortStep (form : QuoteForm) : Reader QuotedStep := do
  let c ← character
  if c = form.quote then return .close []
  else if form.hasEscapes && c = '\\' then return .piece [← escaped]
  else
    guard (isVisible c)
    return .piece [c]

/-- One step into a text on several lines. Up to two quotes belong to the text, and so do up to two
before the closing three. -/
def longStep (form : QuoteForm) : Reader QuotedStep := do
  let quotes := (← get).takeWhile (· = form.quote)
  if quotes.length = 0 then
    if form.hasEscapes && (← peek?) = some '\\' then
      (do continuation; return .piece []) <|> (do expect "\\"; return .piece [← escaped])
    else
      (do newline; return .piece ['\n']) <|> (do
        let c ← character
        guard (isVisible c)
        return .piece [c])
  else if quotes.length < 3 then
    modify (·.drop quotes.length)
    return .piece quotes
  else
    let kept := quotes.take (min (quotes.length - 3) 2)
    modify (·.drop (kept.length + 3))
    return .close kept

/-- A text in quotes of a form. -/
def quotedAs (form : QuoteForm) : Reader String := do
  if form.isLong then
    expect (String.ofList [form.quote, form.quote, form.quote])
    optional newline
    return String.ofList (← spell (longStep form))
  else
    expect form.quote.toString
    return String.ofList (← spell (shortStep form))

/-- A text on one line. -/
def shortText : Reader String := quotedAs ⟨'"', false, true⟩ <|> quotedAs ⟨'\'', false, false⟩

/-- A text in any form. -/
def text : Reader String :=
  quotedAs ⟨'"', true, true⟩ <|> quotedAs ⟨'\'', true, false⟩ <|> shortText

/-- Whether a character can stand in a bare key. -/
def isBare (c : Char) : Bool := c.isAlphanum || c = '_' || c = '-'

/-- One part of a key. -/
def keyPart : Reader String := do
  blanks
  let part ← shortText <|> do
    let word ← takeWhile isBare
    guard !word.isEmpty
    return String.ofList word
  blanks
  return part

/-- Keys and values nest this deep, less one. -/
def maxDepth : Nat := 80

/-- A key: its parts. -/
def key : Reader (List String) := do
  let parts ← separated "." keyPart
  guard (parts.length < maxDepth)
  return parts

end Reader
end Stencil.Toml
