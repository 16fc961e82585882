import Stencil.Text.Aligned
import Stencil.Lexer.Mode
import Stencil.Text.Quoted
import Stencil.Token.Basic
/-!
# Token streams

A stream is a source, the tokens of it, white space included, the mode each token was read in, and
the mode after the last. With the modes at hand reading can resume in the middle of the source.
-/

namespace Stencil

/-- The tokens of a source and the modes they were read in. -/
structure TokenStream where
  source : String
  tokens : Array Token
  modes : Array Mode
  /-- The mode after the last token. -/
  endMode : Mode := .template
  deriving DecidableEq

namespace TokenStream

/-- The number of tokens. -/
def size (stream : TokenStream) : Nat := stream.tokens.size

/-- Whether there is no token. -/
def isEmpty (stream : TokenStream) : Bool := stream.tokens.isEmpty

/-- The kind of a token. -/
def kindAt? (stream : TokenStream) (index : Nat) : Option TokenKind :=
  stream.tokens[index]?.map (·.kind)

/-- The text of a token, empty past the end. -/
def textAt (stream : TokenStream) (index : Nat) : String :=
  (stream.tokens[index]?.map fun token => token.text stream.source).getD ""

/-- The mode after a token. -/
def modeAfter? (stream : TokenStream) (index : Nat) : Option Mode :=
  if index < stream.size then some (stream.modes[index + 1]?.getD stream.endMode) else none

/-- Text read inside a comment. -/
def isCommentText (stream : TokenStream) (index : Nat) : Bool :=
  stream.kindAt? index = some .text && stream.modes[index]?.any Mode.isComment

/-- The category of a token, which for text depends on the mode it was read in. -/
def categoryAt? (stream : TokenStream) (index : Nat) : Option Category :=
  (stream.kindAt? index).map fun kind =>
    if stream.isCommentText index then .comment else kind.category

/-- The kinds of the tokens that are not space, in order. -/
def significantKinds (stream : TokenStream) : List TokenKind :=
  (stream.tokens.toList.filter fun token => !token.kind.isTrivia).map (·.kind)

/-- The texts of the tokens that satisfy a condition on their index, in order. -/
def textsWhere (stream : TokenStream) (wanted : Nat → Bool) : List String :=
  ((List.range stream.size).filter wanted).map stream.textAt

/-- The names in a stream. -/
def identifiers (stream : TokenStream) : List String :=
  stream.textsWhere fun i => stream.kindAt? i = some .identifier

/-- The texts of the comments in a stream. -/
def commentTexts (stream : TokenStream) : List String := stream.textsWhere stream.isCommentText

/-- The string literals in a stream, quotes included. -/
def stringLiterals (stream : TokenStream) : List String :=
  stream.textsWhere fun i => stream.kindAt? i = some (.literal .string)

/-- The number of tokens of a kind. -/
def countKind (stream : TokenStream) (kind : TokenKind) : Nat :=
  stream.tokens.countP fun token => token.kind = kind

/-- The texts of all tokens, one after another. -/
def text (stream : TokenStream) : String :=
  stream.tokens.foldl (fun out token => out ++ token.text stream.source) ""

/-! ### Coverage -/

/-- Why the tokens of a stream do not cover its source. -/
inductive Gap where
  | misplaced (index start expected : Nat)
  | empty (index : Nat) (kind : TokenKind)
  | short (stop size : Nat)
  deriving DecidableEq

/-- What is wrong with the tokens, in one line. -/
def Gap.message : Gap → String
  | .misplaced index start expected =>
    "Token " ++ toString index ++ " starts at " ++ toString start ++
      " but previous token ended at " ++ toString expected
  | .empty index kind => "Token " ++ toString index ++ " (" ++ kind.name ++ ") is empty"
  | .short stop size =>
    "Tokens end at " ++ toString stop ++ " but source is " ++ toString size ++ " bytes"

/-- The first token that is empty or does not start where the one before it ended, and otherwise
where the last one ends. -/
def contiguous : (index expected : Nat) → List Token → Except Gap Nat
  | _, expected, [] => .ok expected
  | index, expected, token :: rest =>
    if token.start ≠ expected then .error (.misplaced index token.start expected)
    else if token.isEmpty then .error (.empty index token.kind)
    else contiguous (index + 1) token.stop rest

/-- The tokens cover the source when none is empty, each starts where the one before it ended, and
the last ends with the source. The first may start anywhere. -/
def coverage (stream : TokenStream) : Except Gap Unit :=
  match stream.tokens[0]? with
  | none => .ok ()
  | some first => do
    let stop ← contiguous 0 first.start stream.tokens.toList
    if stop ≠ stream.source.utf8ByteSize then throw (.short stop stream.source.utf8ByteSize)

/-! ### Dumps -/

/-- One line per token: its kind, its range and its text. -/
def dump (stream : TokenStream) : String :=
  stream.tokens.foldl
    (fun out token =>
      out ++ Text.padRight 14 token.kind.name ++ " " ++ toString token.start ++ ".." ++
        toString token.stop ++ " " ++ Text.quote (token.text stream.source) ++ "\n")
    ""

/-! ### Restarting -/

/-- Why reading cannot resume at a token. -/
inductive RestartFault where
  /-- There is no such token. -/
  | pastEnd
  /-- The stream has no mode for a token on the way. -/
  | modeMissing
  deriving DecidableEq

/-- The last token at or before `index` that was not read in a block tag, or else the first. What a
block tag has announced is known only from its start. -/
def restartIndex (stream : TokenStream) : Nat → Except RestartFault Nat
  | 0 => .ok 0
  | index + 1 =>
    match stream.modes[index + 1]? with
    | none => .error .modeMissing
    | some .blockTag => restartIndex stream index
    | some _ => .ok (index + 1)

/-- Where and in which mode reading can resume for the token `index` to be read again. -/
def restartPoint (stream : TokenStream) (index : Nat) : Except RestartFault (Nat × Mode) :=
  if index < stream.size then do
    let i ← stream.restartIndex index
    match stream.tokens[i]?, stream.modes[i]? with
    | some token, some mode => pure (token.start, mode)
    | _, _ => throw .modeMissing
  else
    throw .pastEnd

/-- The number of leading tokens that start before an offset. -/
def keptBefore (stream : TokenStream) (offset : Nat) : Nat :=
  (stream.tokens.toList.takeWhile fun token => token.start < offset).length

/-- The first token that ends at or after an offset, or else the last token. -/
def touched? (stream : TokenStream) (offset : Nat) : Option Nat :=
  match stream.tokens.findIdx? fun token => offset ≤ token.stop with
  | some index => some index
  | none => if stream.isEmpty then none else some (stream.size - 1)

end TokenStream

/-! ### Cursors -/

/-- A read position over a stream. -/
structure TokenCursor where
  stream : TokenStream
  position : Nat := 0

namespace TokenCursor

/-- The token at the position. -/
def current? (cursor : TokenCursor) : Option Token := cursor.stream.tokens[cursor.position]?

/-- The kind of the token so many places ahead. -/
def peekKind? (cursor : TokenCursor) (ahead : Nat) : Option TokenKind :=
  cursor.stream.kindAt? (cursor.position + ahead)

/-- Whether all tokens have been passed. -/
def isAtEnd (cursor : TokenCursor) : Bool := cursor.stream.size ≤ cursor.position

/-- The offset of the token at the position, or the end of the source. -/
def offset (cursor : TokenCursor) : Nat :=
  (cursor.current?.map (·.start)).getD cursor.stream.source.utf8ByteSize

/-- The index of the token at the position, and the cursor past it. -/
def advance (cursor : TokenCursor) : Option Nat × TokenCursor :=
  if cursor.isAtEnd then (none, cursor)
  else (some cursor.position, { cursor with position := cursor.position + 1 })

/-- The cursor at a position, no further than the end. -/
def moveTo (cursor : TokenCursor) (position : Nat) : TokenCursor :=
  { cursor with position := min position cursor.stream.size }

end TokenCursor
end Stencil
