import Stencil.Toml.Number
import Stencil.Toml.Table
/-!
# Documents of TOML

A document is read line by line: assignments, headers of tables and of lists of tables, comments and
empty lines. An assignment adds to the table of the last header.
-/

namespace Stencil.Toml

/-- A document so far, and where the next assignment goes. -/
structure Draft where
  root : Item := .document
  path : List String := []

/-- The draft with an assignment. -/
def Draft.assign (draft : Draft) (key : List String) (value : Item) : Option Draft :=
  (draft.root.update false (fun table => table.assign key value) draft.path).map fun root =>
    { draft with root := root }

/-- The draft with a header. -/
def Draft.header (draft : Draft) (isList : Bool) (key : List String) : Option Draft :=
  (draft.root.header isList key).map fun root => ⟨root, key⟩

namespace Reader

/-- Values with commas between them and after them. -/
def array (value : Reader Value) : Reader Unit := do
  expect "["
  optional do
    let _ ← separated "," do
      space
      let _ ← value
      space
    optional (expect ",")
  space
  expect "]"

/-- Assignments with commas between them. -/
def inlineTable (value : Reader Value) : Reader Unit := do
  expect "\x7b"
  let entries ← (separated "," do
    let name ← key
    expect "="
    blanks
    let content ← value
    blanks
    return (name, content)) <|> pure []
  blanks
  expect "\x7d"
  let _ ← entries.foldlM (fun table entry => table.assign entry.1 (.value entry.2)) Item.document

/-- A value in which arrays and tables nest less deep than a number of levels. -/
def valueBelow : (levels : Nat) → Reader Value
  | 0 => failure
  | levels + 1 => do
    match ← peek? with
    | some '[' =>
      guard (levels ≠ 0)
      array (valueBelow levels)
      return .other
    | some '{' =>
      guard (levels ≠ 0)
      inlineTable (valueBelow levels)
      return .other
    | _ =>
      .text <$> text <|> do
        expect "true" <|> expect "false" <|> number
        return .other

/-- A value. -/
def value : Reader Value := valueBelow maxDepth

/-- A line that begins with a bracket. -/
def headerLine (draft : Draft) : Reader Draft := do
  expect "["
  let isList ← (do expect "["; return true) <|> pure false
  let name ← key
  expect (if isList then "]]" else "]")
  trailing
  draft.header isList name

/-- A line that gives a key its value. -/
def assignment (draft : Draft) : Reader Draft := do
  let name ← key
  expect "="
  blanks
  let content ← value
  trailing
  draft.assign name (.value content)

/-- One line. -/
def line (draft : Draft) : Reader Draft := do
  blanks
  match ← peek? with
  | none => return draft
  | some '#' =>
    comment
    lineEnd
    return draft
  | some '[' => headerLine draft
  | some '\n' | some '\r' =>
    newline
    return draft
  | some _ => assignment draft

end Reader

/-- The lines of a text, added to a draft. -/
def Draft.lines (draft : Draft) (text : List Char) : Option Draft :=
  if text.isEmpty then some draft
  else
    match Reader.line draft text with
    | none => none
    | some (draft, rest) => if rest.length < text.length then draft.lines rest else none
termination_by text.length

/-- The table that a text describes. A byte order mark in front is skipped. -/
def document? (text : String) : Option Item :=
  let chars := text.toList
  let chars := if chars.head? = some '\uFEFF' then chars.tail else chars
  (Draft.lines {} chars).map (·.root)

end Stencil.Toml
