import Stencil.Lexer.Scan
/-!
# The lexer

A lexer is a position in a source that is being read: the bytes that are left and what is known of
the bytes before them. It hands out one token at a time and never fails; a byte that fits nowhere
becomes a token of its own, and an unfinished tag runs to the end of the range.
-/

namespace Stencil

/-- A position in a source that is being read. -/
structure Lexer where
  marks : Marks
  /-- The bytes of the range that are left. -/
  rest : List UInt8
  /-- Where in the source they begin. -/
  offset : Nat
  mode : Mode
  /-- Nothing but space has been read since the last line end. -/
  lineStart : Bool
  /-- The block tag being read has the word `raw` in it. -/
  rawPending : Bool

/-- A token and the mode it was read in. -/
structure Lexed where
  token : Token
  mode : Mode
  deriving DecidableEq

namespace Lexer

/-- A lexer at the start of a range of a source. The end is cut to the source and the start to the
end, so that every range can be read. -/
def ofRange (source : String) (start stop : Nat) (mode : Mode) (d : Delimiters) : Lexer :=
  let all := Text.bytes source
  let stop := min stop source.utf8ByteSize
  let start := min start stop
  { marks := d.marks
    rest := (all.drop start).take (stop - start)
    offset := start
    mode := mode
    lineStart := start = 0 || all[start - 1]? = some Scan.lineFeed
    rawPending := false }

/-- A lexer at the start of a source. -/
def ofSource (source : String) (d : Delimiters) : Lexer :=
  ofRange source 0 source.utf8ByteSize .template d

/-- What the lexer reads next. -/
def scan (lexer : Lexer) : Scan :=
  Scan.next lexer.marks lexer.mode lexer.lineStart lexer.rawPending lexer.rest

/-- Whether nothing but space has been read since the last line end, after a token. -/
def lineStartAfter (kind : TokenKind) (lineStart : Bool) : Bool :=
  match kind with
  | .newline => true
  | .whitespace => lineStart
  | _ => false

/-- The token at the lexer's position, and the mode it is read in. -/
def current (lexer : Lexer) : Lexed :=
  ⟨⟨lexer.scan.kind, lexer.offset, lexer.offset + lexer.scan.width⟩, lexer.mode⟩

/-- The lexer after a scan of its position. -/
def after (lexer : Lexer) (scan : Scan) : Lexer :=
  { lexer with
    rest := lexer.rest.drop scan.width
    offset := lexer.offset + scan.width
    mode := scan.mode
    lineStart := lineStartAfter scan.kind lexer.lineStart
    rawPending := scan.rawPending }

/-- The next token and the lexer after it, as long as bytes are left. -/
def next? (lexer : Lexer) : Option (Lexed × Lexer) :=
  if lexer.rest.isEmpty then
    none
  else
    let scan := lexer.scan
    some (⟨⟨scan.kind, lexer.offset, lexer.offset + scan.width⟩, lexer.mode⟩, lexer.after scan)

/-- Tokens read one after another, at most `budget` of them, after those read already. -/
def readOnto (read : Array Lexed) (lexer : Lexer) : Nat → Array Lexed × Lexer
  | 0 => (read, lexer)
  | budget + 1 =>
    match lexer.next? with
    | none => (read, lexer)
    | some (lexed, lexer) => readOnto (read.push lexed) lexer budget

/-- At most `budget` tokens and the lexer after them. -/
def read (lexer : Lexer) (budget : Nat) : Array Lexed × Lexer := readOnto #[] lexer budget

/-- All tokens and the lexer after them. A token takes at least one byte, so that there are no more
tokens than bytes. -/
def readAll (lexer : Lexer) : Array Lexed × Lexer := lexer.read lexer.rest.length

end Lexer
end Stencil
