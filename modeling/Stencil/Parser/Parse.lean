import Stencil.Lexer.Relex
import Stencil.Parser.Statement
/-!
# Parsing

A token stream becomes a tree with the stream's tokens as its leaves, diagnostics, and a few counts.
Parsing never fails.
-/

namespace Stencil

/-- Counts of a parse. -/
structure ParseStatistics where
  nodeCount : Nat
  maxDepth : Nat
  recorded : Nat
  /-- Diagnostics beyond the limit. -/
  suppressed : Nat
  deriving DecidableEq

/-- Counts as data. -/
def ParseStatistics.toJson (counts : ParseStatistics) : Json :=
  .obj
    [("node_count", counts.nodeCount), ("max_depth_reached", counts.maxDepth),
     ("diagnostics_recorded", counts.recorded), ("diagnostics_suppressed", counts.suppressed)]

/-- What parsing a stream gives. -/
structure ParsedTemplate where
  tree : SyntaxTree
  diagnostics : Array Diagnostic
  statistics : ParseStatistics
  deriving DecidableEq

namespace ParsedTemplate

/-- Whether anything is wrong with the template. -/
def hasDiagnostics (parsed : ParsedTemplate) : Bool := !parsed.diagnostics.isEmpty

/-- The number of statements, end tags not counted. -/
def statementCount (parsed : ParsedTemplate) : Nat :=
  (parsed.tree.descendants parsed.tree.root).countP fun id =>
    (parsed.tree.kind? id).any fun kind => kind.isStatement && kind ≠ .endTag

end ParsedTemplate

namespace Parser

/-- Adds so many tokens to whatever node is open. -/
def takeAll : (times : Nat) → Step
  | 0, p => p
  | times + 1, p => takeAll times p.take

/-- Closes the tree. Tokens that no node has taken go to a node that is still open, if one is. -/
def close (p : Parser) : ParsedTemplate :=
  let p := p.takeAll p.remaining
  let tree := p.builder.finish
  { tree := tree
    diagnostics := p.diagnostics
    statistics :=
      { nodeCount := tree.size
        maxDepth := p.maxDepth
        recorded := p.diagnostics.size
        suppressed := p.suppressed } }

/-- Reads the rest of the stream as a template and closes the tree. -/
def parse (p : Parser) : ParsedTemplate := p.template.close

end Parser

namespace TokenStream

/-- Parses a stream. -/
def parse (stream : TokenStream) (limits : ParseLimits := {}) : ParsedTemplate :=
  (Parser.ofStream stream limits).parse

end TokenStream
end Stencil
