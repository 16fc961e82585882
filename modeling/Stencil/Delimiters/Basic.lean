import Stencil.Text.Blank
import Stencil.Text.Slice
/-!
# Delimiters

The eight strings that mark tags, comments and line forms. A lexer takes them as they are; the
validation that callers run first is a module of its own.
-/

namespace Stencil

/-- The delimiter strings of a template dialect. An empty line prefix turns its line form off. -/
structure Delimiters where
  blockStart : String := "\x7b%"
  blockEnd : String := "%\x7d"
  variableStart : String := "\x7b\x7b"
  variableEnd : String := "\x7d\x7d"
  commentStart : String := "\x7b#"
  commentEnd : String := "#\x7d"
  lineStatement : String := ""
  lineComment : String := ""
  deriving DecidableEq

/-- One of the eight settings. -/
inductive Delimiters.Field where
  | blockStart | blockEnd | variableStart | variableEnd | commentStart | commentEnd
  | lineStatement | lineComment
  deriving DecidableEq

namespace Delimiters

/-- Every setting; the six that a dialect must have come first. -/
def Field.all : List Field :=
  [.blockStart, .blockEnd, .variableStart, .variableEnd, .commentStart, .commentEnd,
   .lineStatement, .lineComment]

/-- The name of a setting in messages. -/
def Field.title : Field → String
  | .blockStart => "Block Start" | .blockEnd => "Block End"
  | .variableStart => "Variable Start" | .variableEnd => "Variable End"
  | .commentStart => "Comment Start" | .commentEnd => "Comment End"
  | .lineStatement => "Line Statement Prefix" | .lineComment => "Line Comment Prefix"

/-- The name of a setting in settings files. -/
def Field.key : Field → String
  | .blockStart => "block_start" | .blockEnd => "block_end"
  | .variableStart => "variable_start" | .variableEnd => "variable_end"
  | .commentStart => "comment_start" | .commentEnd => "comment_end"
  | .lineStatement => "line_statement_prefix" | .lineComment => "line_comment_prefix"

/-- A dialect must have a string for each setting but the two line prefixes. -/
def Field.isRequired : Field → Bool
  | .lineStatement | .lineComment => false
  | _ => true

/-- The value of a setting. -/
def get (d : Delimiters) : Field → String
  | .blockStart => d.blockStart | .blockEnd => d.blockEnd
  | .variableStart => d.variableStart | .variableEnd => d.variableEnd
  | .commentStart => d.commentStart | .commentEnd => d.commentEnd
  | .lineStatement => d.lineStatement | .lineComment => d.lineComment

/-- The same delimiters with another value for one setting. -/
def set (d : Delimiters) (field : Field) (value : String) : Delimiters :=
  match field with
  | .blockStart => { d with blockStart := value }
  | .blockEnd => { d with blockEnd := value }
  | .variableStart => { d with variableStart := value }
  | .variableEnd => { d with variableEnd := value }
  | .commentStart => { d with commentStart := value }
  | .commentEnd => { d with commentEnd := value }
  | .lineStatement => { d with lineStatement := value }
  | .lineComment => { d with lineComment := value }

/-- The settings with their values, in order. -/
def entries (d : Delimiters) : List (Field × String) :=
  Field.all.map fun field => (field, d.get field)

/-- The same delimiters with every value trimmed. -/
def trimmed (d : Delimiters) : Delimiters :=
  Field.all.foldl (fun out field => out.set field (Text.trim (d.get field))) d

/-- Whether any value differs from the stock dialect. -/
def isCustom (d : Delimiters) : Bool := d ≠ {}

/-- Whether a line can be a statement. -/
def hasLineStatements (d : Delimiters) : Bool := d.lineStatement ≠ ""

/-- Whether a line can be a comment. -/
def hasLineComments (d : Delimiters) : Bool := d.lineComment ≠ ""

end Delimiters
end Stencil
