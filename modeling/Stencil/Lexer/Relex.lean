import Stencil.Journal.Code
import Stencil.Lexer.Basic
import Stencil.Limits
import Stencil.Token.Stream
/-!
# Reading a source, and reading it again after an edit

A source is read into a stream unless it has too many tokens. After an edit the tokens before a
restart point are kept and only the rest of the new source is read.
-/

namespace Stencil

/-- Why a source was not read. Its content is never a reason, only its size and the range asked
for. -/
inductive LexerFault where
  | tooManyTokens (count : Nat)
  | invalidRange (start stop size : Nat)
  deriving DecidableEq

/-- What went wrong, in one line. -/
def LexerFault.message : LexerFault → String
  | .tooManyTokens count =>
    "Too many tokens: " ++ toString count ++ " (max " ++ toString Limits.maxTokenCount ++ ")"
  | .invalidRange start stop size =>
    "Invalid lexing range " ++ toString start ++ ".." ++ toString stop ++ " for buffer of " ++
      toString size ++ " bytes"

/-- The code of a fault. -/
def LexerFault.code : LexerFault → Code
  | .tooManyTokens _ => .tooManyTokens
  | .invalidRange .. => .invalidRange

/-- What was read of a range: tokens within the limit and the lexer after them. -/
structure Reading where
  lexed : Array Lexed
  lexer : Lexer

namespace TokenStream

/-- A range can be read when it lies in the source and does not run backwards. -/
def rangeFault? (source : String) (start stop : Nat) : Option LexerFault :=
  if start > stop || stop > source.utf8ByteSize then
    some (.invalidRange start stop source.utf8ByteSize)
  else
    none

/-- The tokens of a range, up to a limit on their number. -/
def readRange (source : String) (start stop : Nat) (mode : Mode) (d : Delimiters)
    (limit : Nat) : Reading :=
  let (lexed, lexer) := (Lexer.ofRange source start stop mode d).read limit
  ⟨lexed, lexer⟩

/-- The stream of a source of which this was read. -/
def ofReading (source : String) (reading : Reading) : TokenStream :=
  { source := source
    tokens := reading.lexed.map (·.token)
    modes := reading.lexed.map (·.mode)
    endMode := reading.lexer.mode }

/-- The stream of a range, unless the range is not one of the source or has too many tokens. -/
def ofRange (source : String) (start stop : Nat) (mode : Mode) (d : Delimiters)
    (limit : Nat := Limits.maxTokenCount) : Except LexerFault TokenStream :=
  match rangeFault? source start stop with
  | some fault => .error fault
  | none =>
    let reading := readRange source start stop mode d limit
    if reading.lexer.next?.isSome then .error (.tooManyTokens reading.lexed.size)
    else .ok (ofReading source reading)

/-- The stream of a whole source. -/
def ofSource (source : String) (d : Delimiters) (limit : Nat := Limits.maxTokenCount) :
    Except LexerFault TokenStream :=
  ofRange source 0 source.utf8ByteSize .template d limit

/-- Whether a stream is the one that reading its source gives. -/
def isFresh (stream : TokenStream) (d : Delimiters) : Bool :=
  (ofSource stream.source d).toOption = some stream

/-- Whether reading from an offset to the end of the source gives the tokens that the stream has
from there. The modes may differ: a tag that begins where a line starts can also be read as a line
statement. -/
def resumesAt (stream : TokenStream) (offset : Nat) (mode : Mode) (d : Delimiters) : Bool :=
  let source := stream.source
  let (lexed, _) := (Lexer.ofRange source offset source.utf8ByteSize mode d).readAll
  lexed.map (·.token) = stream.tokens.extract (stream.keptBefore offset) stream.size

/-- Where reading resumes after an edit: one token before the restart point of the first token the
edit touches, since an edit inside a delimiter can turn it into text that joins the text before. -/
def relexPoint? (stream : TokenStream) (editOffset : Nat) : Option (Nat × Mode) := do
  let touched ← stream.touched? editOffset
  let first ← (stream.restartPoint touched).toOption
  let earlier : Option (Nat × Mode) :=
    match stream.keptBefore first.1 with
    | 0 => none
    | kept + 1 => (stream.restartPoint kept).toOption
  pure (earlier.getD first)

/-- The stream of a new source that agrees with the old one before `editOffset`. The tokens before
the restart point are kept. -/
def relex (stream : TokenStream) (newSource : String) (editOffset : Nat) (d : Delimiters)
    (limit : Nat := Limits.maxTokenCount) : Except LexerFault TokenStream :=
  match stream.relexPoint? editOffset with
  | none => ofSource newSource d limit
  | some (offset, mode) => do
    let kept := stream.keptBefore offset
    let tail ← ofRange newSource offset newSource.utf8ByteSize mode d limit
    pure
      { source := newSource
        tokens := stream.tokens.take kept ++ tail.tokens
        modes := stream.modes.take kept ++ tail.modes
        endMode := tail.endMode }

end TokenStream
end Stencil
