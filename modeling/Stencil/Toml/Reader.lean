/-!
# Reading TOML

A reader takes something off the front of a text, or refuses the text. What TOML has between its
keys and values is read here: blanks, line ends and comments.
-/

namespace Stencil.Toml

/-- Takes a value off the front of a text, or refuses the text. -/
abbrev Reader (α : Type) := StateT (List Char) Option α

/-- What a reader takes again and again, until it refuses or takes nothing, and the rest. -/
def repeated {α : Type} (reader : Reader α) (text : List Char) : List α × List Char :=
  match reader text with
  | none => ([], text)
  | some (a, rest) =>
    if rest.length < text.length then
      let others := repeated reader rest
      (a :: others.1, others.2)
    else
      ([], text)
termination_by text.length

namespace Reader

/-- The next character, which stays where it is. -/
def peek? : Reader (Option Char) := do return (← get).head?

/-- Exactly these characters. -/
def expect (expected : String) : Reader Unit := do
  let text ← get
  guard (expected.toList.isPrefixOf text)
  set (text.drop expected.length)

/-- All characters up to the first that fails a test. -/
def takeWhile (test : Char → Bool) : Reader (List Char) := do
  let text ← get
  set (text.dropWhile test)
  return text.takeWhile test

/-- A reader as often as it takes something. -/
def many {α : Type} (reader : Reader α) : Reader (List α) := fun text => some (repeated reader text)

/-- A reader once or not at all. -/
def optional (reader : Reader Unit) : Reader Unit := reader <|> pure ()

/-- One or more of what a reader takes, with something between each two. -/
def separated {α : Type} (separator : String) (reader : Reader α) : Reader (List α) := do
  let first ← reader
  return first :: (← many do expect separator; reader)

/-- Spaces and tabs. -/
def blanks : Reader Unit := do
  let _ ← takeWhile fun c => c = ' ' || c = '\t'

/-- A line feed, or a carriage return and a line feed. -/
def newline : Reader Unit := expect "\n" <|> expect "\r\n"

/-- Whether a character can stand in a comment: no control but the tab. -/
def isVisible (c : Char) : Bool := c = '\t' || (32 ≤ c.toNat && c.toNat ≠ 127)

/-- A comment up to the end of its line. -/
def comment : Reader Unit := do
  expect "#"
  let _ ← takeWhile isVisible

/-- The end of a line or of the text. -/
def lineEnd : Reader Unit := newline <|> do guard (← get).isEmpty

/-- What may follow a value or a header in its line, and the end of the line. -/
def trailing : Reader Unit := do
  blanks
  optional comment
  lineEnd

/-- Blanks, line ends and comments. -/
def space : Reader Unit := do
  let _ ← many do
    blanks
    optional comment
    newline
  blanks

end Reader
end Stencil.Toml
