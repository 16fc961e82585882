import Stencil.Journal.Code
import Stencil.Json
/-!
# Parse diagnostics

Parsing never fails. What is wrong with a template becomes a diagnostic: a fault, the offset it was
found at, and a message.
-/

namespace Stencil

/-- What can be wrong with a template. -/
inductive SyntaxFault where
  | missingBlockEnd
  | missingVariableEnd
  | missingCommentEnd
  | unclosedGroup
  | expectedExpression
  | expectedName
  | unexpectedToken
  | unclosedBlock
  | maxRecursionDepth
  deriving DecidableEq

namespace SyntaxFault

/-- Every fault, in declaration order. -/
def all : List SyntaxFault :=
  [.missingBlockEnd, .missingVariableEnd, .missingCommentEnd, .unclosedGroup, .expectedExpression,
   .expectedName, .unexpectedToken, .unclosedBlock, .maxRecursionDepth]

/-- The name of a fault in data. -/
def name : SyntaxFault → String
  | .missingBlockEnd => "MissingBlockEnd"
  | .missingVariableEnd => "MissingVariableEnd"
  | .missingCommentEnd => "MissingCommentEnd"
  | .unclosedGroup => "UnclosedGroup"
  | .expectedExpression => "ExpectedExpression"
  | .expectedName => "ExpectedName"
  | .unexpectedToken => "UnexpectedToken"
  | .unclosedBlock => "UnclosedBlock"
  | .maxRecursionDepth => "MaxRecursionDepth"

/-- The fault with a given name. -/
def ofName? (name : String) : Option SyntaxFault := all.find? fun fault => fault.name = name

/-- What a fault is, in a few words. -/
def description : SyntaxFault → String
  | .missingBlockEnd => "missing block end delimiter"
  | .missingVariableEnd => "missing variable end delimiter"
  | .missingCommentEnd => "missing comment end delimiter"
  | .unclosedGroup => "unclosed group"
  | .expectedExpression => "expected expression"
  | .expectedName => "expected name"
  | .unexpectedToken => "unexpected token"
  | .unclosedBlock => "statement block without end tag"
  | .maxRecursionDepth => "maximum parse depth exceeded"

/-- The code of a fault. -/
def code : SyntaxFault → Code
  | .missingBlockEnd => .missingBlockEnd
  | .missingVariableEnd => .missingVariableEnd
  | .missingCommentEnd => .missingCommentEnd
  | .unclosedGroup => .unclosedGroup
  | .expectedExpression => .expectedExpression
  | .expectedName => .expectedName
  | .unexpectedToken => .unexpectedToken
  | .unclosedBlock => .unclosedBlock
  | .maxRecursionDepth => .maxRecursionDepth

/-- Whether something that ends a construct is missing, rather than a part of an expression. -/
def isStructural : SyntaxFault → Bool
  | .missingBlockEnd | .missingVariableEnd | .missingCommentEnd | .unclosedGroup
  | .unclosedBlock => true
  | _ => false

end SyntaxFault

/-- A fault and where it was found. -/
structure Diagnostic where
  offset : Nat
  fault : SyntaxFault
  message : String
  deriving DecidableEq

/-- The message of a diagnostic and its offset. -/
def Diagnostic.label (diagnostic : Diagnostic) : String :=
  diagnostic.message ++ " at offset " ++ toString diagnostic.offset

/-- A diagnostic as data. -/
def Diagnostic.toJson (diagnostic : Diagnostic) : Json :=
  .obj
    [("offset", diagnostic.offset), ("error", diagnostic.fault.name),
     ("message", diagnostic.message)]

end Stencil
