/-!
# Lexer modes

The mode says which part of a template the next token belongs to. Streams record it for every
token, so that reading can resume in the middle of a source.
-/

namespace Stencil

/-- What the lexer is reading. -/
inductive Mode where
  /-- Text between tags. -/
  | template
  | blockTag
  | variableTag
  | comment
  /-- The content of a raw block. -/
  | raw
  /-- A block tag that ends with its line. -/
  | lineStatement
  /-- A comment that ends with its line. -/
  | lineComment
  deriving DecidableEq

namespace Mode

/-- Every mode, in declaration order. -/
def all : List Mode :=
  [.template, .blockTag, .variableTag, .comment, .raw, .lineStatement, .lineComment]

/-- The name of a mode. -/
def name : Mode → String
  | .template => "Template" | .blockTag => "Block" | .variableTag => "Variable"
  | .comment => "Comment" | .raw => "Raw" | .lineStatement => "LineStatement"
  | .lineComment => "LineComment"

/-- The mode with a given name. -/
def ofName? (name : String) : Option Mode := all.find? fun mode => mode.name = name

/-- Comments of either form. -/
def isComment : Mode → Bool
  | .comment | .lineComment => true
  | _ => false

end Mode
end Stencil
