import Stencil.Text.Quoted
/-!
# JSON

The values that results are handed out as, and their two written forms: compact, and one entry a
line. Objects keep the order of their fields.
-/

namespace Stencil

/-- A JSON value. Numbers are natural, or given by their written form. -/
inductive Json where
  | null
  | bool (b : Bool)
  | nat (n : Nat)
  /-- A number as it is written. -/
  | number (text : String)
  | str (s : String)
  | arr (items : List Json)
  | obj (fields : List (String × Json))

namespace Json

instance : Coe Bool Json := ⟨.bool⟩
instance : Coe Nat Json := ⟨.nat⟩
instance : Coe String Json := ⟨.str⟩

/-- Null for nothing. -/
def ofOption {α : Type} (encode : α → Json) : Option α → Json
  | none => .null
  | some a => encode a

/-- An array of texts. -/
def strs (items : List String) : Json := .arr (items.map .str)

/-- An array of numbers. -/
def nats (items : List Nat) : Json := .arr (items.map .nat)

/-- A field for a value that may be missing. -/
def optionalField (key : String) (value : Option Json) : List (String × Json) :=
  (value.map fun value => (key, value)).toList

/-- A number as exactly four digits in base sixteen, at least. -/
def hex4 (n : Nat) : String :=
  let digits := Text.hexDigits n
  "".pushn '0' (4 - digits.length) ++ digits

/-- A character between the quotes of a JSON string. Controls are escaped, all else stands for
itself. -/
def escape (c : Char) : String :=
  match c with
  | '"' => "\\\""
  | '\\' => "\\\\"
  | '\n' => "\\n"
  | '\r' => "\\r"
  | '\t' => "\\t"
  | c =>
    if c.toNat = 8 then "\\b"
    else if c.toNat = 12 then "\\f"
    else if c.toNat < 32 then "\\u" ++ hex4 c.toNat
    else c.toString

/-- A JSON string after a text. -/
def quoteOnto (out s : String) : String :=
  (s.foldl
    (fun out c => if c.toNat < 32 || c = '"' || c = '\\' then out ++ escape c else out.push c)
    (out.push '"')).push '"'

mutual

/-- The compact form of a value, after a text. -/
def compactOnto (out : String) : Json → String
  | .null => out ++ "null"
  | .bool b => out ++ (if b then "true" else "false")
  | .nat n => out ++ toString n
  | .number text => out ++ text
  | .str s => quoteOnto out s
  | .arr items => (compactItems (out.push '[') true items).push ']'
  | .obj fields => (compactFields (out.push '{') true fields).push '}'

/-- The compact forms of values with commas between them, after a text. -/
def compactItems (out : String) (isFirst : Bool) : List Json → String
  | [] => out
  | item :: rest =>
    let out := if isFirst then out else out.push ','
    compactItems (compactOnto out item) false rest

/-- The compact forms of fields with commas between them, after a text. -/
def compactFields (out : String) (isFirst : Bool) : List (String × Json) → String
  | [] => out
  | (key, value) :: rest =>
    let out := if isFirst then out else out.push ','
    compactFields (compactOnto ((quoteOnto out key).push ':') value) false rest

end

/-- The compact form: no space at all. -/
def compact (json : Json) : String := compactOnto "" json

/-- A new line at a level, two spaces for each. -/
def newLine (out : String) (level : Nat) : String := (out.push '\n').pushn ' ' (2 * level)

mutual

/-- The spread form of a value at a level, after a text. -/
def prettyOnto (out : String) (level : Nat) : Json → String
  | .arr [] => out ++ "[]"
  | .obj [] => out ++ "\x7b\x7d"
  | .arr items => (newLine (prettyItems (out.push '[') (level + 1) true items) level).push ']'
  | .obj fields => (newLine (prettyFields (out.push '{') (level + 1) true fields) level).push '}'
  | json => compactOnto out json

/-- The spread forms of values, each on a line, after a text. -/
def prettyItems (out : String) (level : Nat) (isFirst : Bool) : List Json → String
  | [] => out
  | item :: rest =>
    let out := newLine (if isFirst then out else out.push ',') level
    prettyItems (prettyOnto out level item) level false rest

/-- The spread forms of fields, each on a line, after a text. -/
def prettyFields (out : String) (level : Nat) (isFirst : Bool) : List (String × Json) → String
  | [] => out
  | (key, value) :: rest =>
    let out := newLine (if isFirst then out else out.push ',') level
    prettyFields (prettyOnto (quoteOnto out key ++ ": ") level value) level false rest

end

/-- The spread form: every entry on a line of its own. -/
def pretty (json : Json) : String := prettyOnto "" 0 json

end Json
end Stencil
