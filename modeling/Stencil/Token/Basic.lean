import Stencil.Text.Slice
import Stencil.Token.Kind
/-!
# Tokens

A token is a kind and the byte range it covers. It owns no text; the text is cut from the source.
-/

namespace Stencil

/-- A kind and the byte range `start..stop` of the source. -/
structure Token where
  kind : TokenKind
  start : Nat
  stop : Nat
  deriving DecidableEq

namespace Token

/-- A token is empty when it covers no byte. -/
def isEmpty (token : Token) : Bool := token.start = token.stop

/-- The number of bytes a token covers. -/
def size (token : Token) : Nat := token.stop - token.start

/-- The text a token covers, empty when its ends are not on character boundaries. -/
def text (token : Token) (source : String) : String := Text.slice source token.start token.stop

/-- The kind and range of a token, as shown in trees and messages. -/
def label (token : Token) : String :=
  token.kind.name ++ "@" ++ toString token.start ++ ".." ++ toString token.stop

end Token
end Stencil
