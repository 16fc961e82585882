import Stencil.Token.Kind
import Stencil.Tree.Kind
/-!
# Statement keywords

Which keywords open a body, which keyword closes it, which may split it, and what node the tag of a
keyword becomes.
-/

namespace Stencil
namespace Keyword

/-- The keyword that closes the body a keyword opens. -/
def closer? : Keyword → Option Keyword
  | .forKw => some .endFor
  | .ifKw => some .endIf
  | .withKw => some .endWith
  | .blockKw => some .endBlock
  | .macroKw => some .endMacro
  | .callKw => some .endCall
  | .filterKw => some .endFilter
  | .rawKw => some .endRaw
  | .autoescapeKw => some .endAutoescape
  | .transKw => some .endTrans
  | _ => none

/-- The keyword whose body a keyword closes. -/
def opener? : Keyword → Option Keyword
  | .endFor => some .forKw
  | .endIf => some .ifKw
  | .endWith => some .withKw
  | .endBlock => some .blockKw
  | .endMacro => some .macroKw
  | .endCall => some .callKw
  | .endFilter => some .filterKw
  | .endRaw => some .rawKw
  | .endAutoescape => some .autoescapeKw
  | .endTrans => some .transKw
  | _ => none

/-- Openers and closers are paired. -/
theorem opener?_eq_some_iff (opener closer : Keyword) :
    closer.opener? = some opener ↔ opener.closer? = some closer := by
  cases opener <;> cases closer <;> decide

/-- The keywords that may split the body a keyword opens. -/
def branches : Keyword → List Keyword
  | .forKw => [.elseKw]
  | .ifKw => [.elifKw, .elseKw]
  | .transKw => [.pluralizeKw]
  | _ => []

/-- Keywords that close a body. -/
def isCloser (keyword : Keyword) : Bool := keyword.opener?.isSome

/-- Keywords that split some body. -/
def isBranch : Keyword → Bool
  | .elifKw | .elseKw | .pluralizeKw => true
  | _ => false

/-- The node a statement's tag becomes. Closers have none of their own. -/
def node : Keyword → NodeKind
  | .forKw => .forBlock
  | .ifKw => .ifBlock
  | .elifKw => .elifBlock
  | .elseKw => .elseBlock
  | .setKw => .setBlock
  | .withKw => .withBlock
  | .blockKw => .blockDefinition
  | .extendsKw => .extendsBlock
  | .includeKw => .includeBlock
  | .importKw => .importBlock
  | .fromKw => .fromImportBlock
  | .macroKw => .macroBlock
  | .callKw => .callBlock
  | .filterKw => .filterBlock
  | .rawKw => .rawBlock
  | .autoescapeKw => .autoescapeBlock
  | .transKw => .transBlock
  | .pluralizeKw => .pluralizeBlock
  | _ => .genericBlock

end Keyword

namespace TokenKind

/-- The keyword a kind is. -/
def keyword? : TokenKind → Option Keyword
  | .keyword k => some k
  | _ => none

/-- Kinds of keywords that close a body. -/
def isCloser (kind : TokenKind) : Bool := kind.keyword?.any Keyword.isCloser

/-- The node of a block tag whose first token is of a kind. -/
def statementNode : Option TokenKind → NodeKind
  | some (.keyword k) => k.node
  | _ => .genericBlock

end TokenKind
end Stencil
