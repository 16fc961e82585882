import Stencil.Limits
import Stencil.Parser.Diagnostic
import Stencil.Tree.Builder
/-!
# The parser's state

A parser is a position in a token stream, the tree built so far and the diagnostics so far. White
space is invisible to it: it looks at significant tokens alone, and white space before a token
becomes a leaf when the token does.
-/

namespace Stencil

/-- How deep a parse may nest and how many diagnostics it records. -/
structure ParseLimits where
  depth : Nat := Limits.maxParseDepth
  diagnostics : Nat := Limits.maxDiagnostics

/-- A parse under way. -/
structure Parser where
  stream : TokenStream
  limits : ParseLimits
  /-- The index of the next token, white space included. -/
  position : Nat
  builder : TreeBuilder
  diagnostics : Array Diagnostic
  /-- The number of diagnostics beyond the limit. -/
  suppressed : Nat
  /-- The present level of nesting. -/
  depth : Nat
  /-- The deepest level so far. -/
  maxDepth : Nat
  /-- The limit on nesting has been reported; it is reported once. -/
  depthReported : Bool
  /-- The keywords that close the bodies being read, innermost first. -/
  awaited : List TokenKind

namespace Parser

/-- A parser at the start of a stream. -/
def ofStream (stream : TokenStream) (limits : ParseLimits := {}) : Parser where
  stream := stream
  limits := limits
  position := 0
  builder := .empty stream.tokens
  diagnostics := #[]
  suppressed := 0
  depth := 0
  maxDepth := 0
  depthReported := false
  awaited := []

/-! ### Looking ahead -/

/-- The number of tokens from the position on. -/
def remaining (p : Parser) : Nat := p.stream.size - p.position

/-- The index of the `n`-th significant token at or after an index, among so many tokens. -/
def significantFrom (tokens : Array Token) : (among n index : Nat) → Option Nat
  | 0, _, _ => none
  | among + 1, n, index =>
    match tokens[index]? with
    | none => none
    | some token =>
      if token.kind = .whitespace then significantFrom tokens among n (index + 1)
      else match n with
        | 0 => some index
        | n + 1 => significantFrom tokens among n (index + 1)

/-- The index of the `n`-th significant token from the position on. -/
def significant? (p : Parser) (n : Nat) : Option Nat :=
  significantFrom p.stream.tokens p.remaining n p.position

/-- The kind of the `n`-th significant token from the position on. -/
def nth? (p : Parser) (n : Nat) : Option TokenKind := (p.significant? n).bind p.stream.kindAt?

/-- The kind of the current significant token. -/
def current? (p : Parser) : Option TokenKind := p.nth? 0

/-- Whether the current token is of a kind. -/
def isAt (p : Parser) (kind : TokenKind) : Bool := p.current? = some kind

/-- The mode the current token leaves the lexer in. -/
def nextMode? (p : Parser) : Option Mode := (p.significant? 0).bind p.stream.modeAfter?

/-- Where the current token starts, or the end of the source. -/
def offset (p : Parser) : Nat :=
  (((p.significant? 0).bind fun index => p.stream.tokens[index]?).map (·.start)).getD
    p.stream.source.utf8ByteSize

/-! ### Moving on -/

/-- Adds the token at the position to the open node. -/
def take (p : Parser) : Parser :=
  { p with builder := p.builder.token p.position, position := p.position + 1 }

/-- Adds the white space at the position, among so many tokens. -/
def takeSpace : (among : Nat) → Parser → Parser
  | 0, p => p
  | among + 1, p =>
    if p.stream.kindAt? p.position = some .whitespace then takeSpace among p.take else p

/-- Adds the white space before the current token to the open node. -/
def skipSpace (p : Parser) : Parser := p.takeSpace p.remaining

/-- Adds the white space before the current token, and that token, to the open node. -/
def bump (p : Parser) : Parser :=
  let p := p.skipSpace
  if p.position < p.stream.size then p.take else p

/-! ### Building -/

/-- Opens a node at the current token. -/
def start (p : Parser) (kind : NodeKind) : Parser :=
  let p := p.skipSpace
  let offset := p.offset
  { p with builder := p.builder.start kind offset }

/-- The present moment in the tree, after the white space before the current token. -/
def checkpoint (p : Parser) : Checkpoint × Parser :=
  let p := p.skipSpace
  (p.builder.checkpoint, p)

/-- Opens a node around what was added since a checkpoint. -/
def startAt (p : Parser) (checkpoint : Checkpoint) (kind : NodeKind) : Parser :=
  let offset := p.offset
  { p with builder := p.builder.startAt checkpoint kind offset }

/-- Closes the innermost open node. -/
def finish (p : Parser) : Parser := { p with builder := p.builder.finishNode }

/-! ### Diagnostics -/

/-- Records a diagnostic, or counts it once the limit is reached. -/
def errorAt (p : Parser) (offset : Nat) (fault : SyntaxFault) (message : String) : Parser :=
  if p.limits.diagnostics ≤ p.diagnostics.size then { p with suppressed := p.suppressed + 1 }
  else { p with diagnostics := p.diagnostics.push ⟨offset, fault, message⟩ }

/-- Records a diagnostic at the current token. -/
def error (p : Parser) (fault : SyntaxFault) (message : String) : Parser :=
  p.errorAt p.offset fault message

/-! ### Nesting -/

/-- The number of levels left. -/
def levels (p : Parser) : Nat := p.limits.depth - p.depth

/-- One level deeper. -/
def descend (p : Parser) : Parser :=
  { p with depth := p.depth + 1, maxDepth := max p.maxDepth (p.depth + 1) }

/-- One level up. -/
def ascend (p : Parser) : Parser := { p with depth := p.depth - 1 }

/-- Reports that there is no deeper level, the first time. -/
def refuse (p : Parser) : Parser :=
  if p.depthReported then p
  else
    { p with depthReported := true }.error .maxRecursionDepth
      ("Nesting deeper than " ++ toString p.limits.depth ++ " levels")

/-- One level deeper if there is one, and a report if not. -/
def enter (p : Parser) : Bool × Parser :=
  if p.limits.depth ≤ p.depth then (false, p.refuse) else (true, p.descend)

/-- A body begins that a keyword closes. -/
def openBody (p : Parser) (closer : TokenKind) : Parser :=
  { p with awaited := closer :: p.awaited }

/-- The innermost body ends. -/
def closeBody (p : Parser) : Parser := { p with awaited := p.awaited.tail }

/-- Whether a body being read is closed by a keyword. -/
def awaits (p : Parser) (closer : TokenKind) : Bool := p.awaited.contains closer

/-! ### Small steps of the grammar -/

/-- A part of the grammar: what it does to the parser. -/
abbrev Step := Parser → Parser

/-- A step repeated as long as a test holds, so many times at most. -/
def repeatWhile (test : Parser → Bool) (body : Step) : (times : Nat) → Step
  | 0, p => p
  | times + 1, p => if test p then repeatWhile test body times (body p) else p

/-- A step repeated as long as a test holds. It takes a token each time, so the tokens that are
left bound the repetitions. -/
def loop (test : Parser → Bool) (body : Step) (p : Parser) : Parser :=
  repeatWhile test body p.remaining p

/-- Whether the current token is of one of some kinds. -/
def atAny (p : Parser) (kinds : List TokenKind) : Bool := p.current?.any kinds.contains

/-- Whether the current token belongs to the construct around an expression, or there is none. -/
def atStructural (p : Parser) : Bool :=
  match p.current? with
  | some kind => kind.isStructural
  | none => true

/-- Takes the current token if it is of a kind, and says whether it was. -/
def eat (p : Parser) (kind : TokenKind) : Bool × Parser :=
  if p.isAt kind then (true, p.bump) else (false, p)

/-- Takes the current token if it is of a kind. -/
def skip (p : Parser) (kind : TokenKind) : Parser := (p.eat kind).2

/-- Takes a closing bracket, or reports an unclosed group. -/
def expectCloser (p : Parser) (closer : TokenKind) (message : String) : Parser :=
  if p.isAt closer then p.bump else p.error .unclosedGroup message

/-- Takes a name, or reports that there is none; and says which. -/
def expectName (p : Parser) (message : String) : Bool × Parser :=
  if p.isAt .identifier then (true, p.bump) else (false, p.error .expectedName message)

/-- Takes a token of a kind, or reports an unexpected token. -/
def expect (p : Parser) (kind : TokenKind) (message : String) : Parser :=
  if p.isAt kind then p.bump else p.error .unexpectedToken message

/-- Moves everything up to a terminator into an error node. -/
def skipUntil (p : Parser) (terminator : TokenKind) : Parser :=
  if p.current?.isNone || p.isAt terminator then p
  else
    ((p.start .error).loop
      (fun p => p.current?.isSome && !p.isAt terminator) bump).finish

/-- Reports that an expression is missing and puts an error node in its place. The node takes the
current token, unless that belongs to the construct around the expression. -/
def placeholder (p : Parser) : Parser :=
  let p := (p.error .expectedExpression "Expected expression").start .error
  (if p.atStructural then p else p.bump).finish

/-- A node of one token. -/
def single (p : Parser) (kind : NodeKind) : Parser := (p.start kind).bump.finish

end Parser
end Stencil
