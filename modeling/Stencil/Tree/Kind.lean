/-!
# Node kinds

What a node of the tree stands for: content between tags, a statement, a part of a statement, an
expression, or a place where the parser expected something else.
-/

namespace Stencil

/-- Every kind of node. -/
inductive NodeKind where
  | template
  -- Content.
  | text | comment | variableTag
  -- Statements.
  | forBlock | ifBlock | elifBlock | elseBlock | setBlock | withBlock | blockDefinition
  | extendsBlock | includeBlock | importBlock | fromImportBlock | macroBlock | callBlock
  | filterBlock | rawBlock | autoescapeBlock | transBlock | pluralizeBlock | genericBlock
  | endTag
  -- Parts of statements.
  | targetList | importName | parameterList | parameter | argumentList | keywordArgument
  | dictEntry
  -- Expressions.
  | conditionalExpression | orExpression | andExpression | notExpression | comparisonExpression
  | testExpression | arithmeticExpression | termExpression | powerExpression | unaryExpression
  | filterExpression | attributeAccess | subscriptAccess | functionCall | parenthesizedExpression
  | variableReference | stringLiteral | numberLiteral | booleanLiteral | noneLiteral
  | listLiteral | dictLiteral | tupleLiteral
  /-- A placeholder where the parser expected something else. -/
  | error
  deriving DecidableEq

namespace NodeKind

/-- Every kind of node, in declaration order. -/
def all : List NodeKind :=
  [.template, .text, .comment, .variableTag, .forBlock, .ifBlock, .elifBlock, .elseBlock,
   .setBlock, .withBlock, .blockDefinition, .extendsBlock, .includeBlock, .importBlock,
   .fromImportBlock, .macroBlock, .callBlock, .filterBlock, .rawBlock, .autoescapeBlock,
   .transBlock, .pluralizeBlock, .genericBlock, .endTag, .targetList, .importName,
   .parameterList, .parameter, .argumentList, .keywordArgument, .dictEntry,
   .conditionalExpression, .orExpression, .andExpression, .notExpression, .comparisonExpression,
   .testExpression, .arithmeticExpression, .termExpression, .powerExpression, .unaryExpression,
   .filterExpression, .attributeAccess, .subscriptAccess, .functionCall,
   .parenthesizedExpression, .variableReference, .stringLiteral, .numberLiteral, .booleanLiteral,
   .noneLiteral, .listLiteral, .dictLiteral, .tupleLiteral, .error]

/-- No node kind is missing from the list of all of them. -/
theorem mem_all (kind : NodeKind) : kind ∈ all := by cases kind <;> decide

/-- The nodes that a block tag introduces. -/
def isStatement : NodeKind → Bool
  | .forBlock | .ifBlock | .elifBlock | .elseBlock | .setBlock | .withBlock | .blockDefinition
  | .extendsBlock | .includeBlock | .importBlock | .fromImportBlock | .macroBlock | .callBlock
  | .filterBlock | .rawBlock | .autoescapeBlock | .transBlock | .pluralizeBlock | .genericBlock
  | .endTag => true
  | _ => false

/-- The statements that own everything up to an end tag. -/
def hasBody : NodeKind → Bool
  | .forBlock | .ifBlock | .withBlock | .blockDefinition | .macroBlock | .callBlock
  | .filterBlock | .rawBlock | .autoescapeBlock | .transBlock => true
  | _ => false

/-- The expressions that are written as values. -/
def isLiteral : NodeKind → Bool
  | .stringLiteral | .numberLiteral | .booleanLiteral | .noneLiteral | .listLiteral
  | .dictLiteral | .tupleLiteral => true
  | _ => false

/-- Expressions. -/
def isExpression : NodeKind → Bool
  | .conditionalExpression | .orExpression | .andExpression | .notExpression
  | .comparisonExpression | .testExpression | .arithmeticExpression | .termExpression
  | .powerExpression | .unaryExpression | .filterExpression | .attributeAccess | .subscriptAccess
  | .functionCall | .parenthesizedExpression | .variableReference => true
  | kind => kind.isLiteral

/-- The name of a kind in trees and data. -/
def name : NodeKind → String
  | .template => "TEMPLATE" | .text => "TEXT" | .comment => "COMMENT"
  | .variableTag => "VARIABLE" | .forBlock => "FOR_BLOCK" | .ifBlock => "IF_BLOCK"
  | .elifBlock => "ELIF_BLOCK" | .elseBlock => "ELSE_BLOCK" | .setBlock => "SET_BLOCK"
  | .withBlock => "WITH_BLOCK" | .blockDefinition => "BLOCK_DEFINITION"
  | .extendsBlock => "EXTENDS_BLOCK" | .includeBlock => "INCLUDE_BLOCK"
  | .importBlock => "IMPORT_BLOCK" | .fromImportBlock => "FROM_IMPORT_BLOCK"
  | .macroBlock => "MACRO_BLOCK" | .callBlock => "CALL_BLOCK" | .filterBlock => "FILTER_BLOCK"
  | .rawBlock => "RAW_BLOCK" | .autoescapeBlock => "AUTOESCAPE_BLOCK"
  | .transBlock => "TRANS_BLOCK" | .pluralizeBlock => "PLURALIZE_BLOCK"
  | .genericBlock => "GENERIC_BLOCK" | .endTag => "END_TAG" | .targetList => "TARGET_LIST"
  | .importName => "IMPORT_NAME" | .parameterList => "PARAMETER_LIST" | .parameter => "PARAMETER"
  | .argumentList => "ARGUMENT_LIST" | .keywordArgument => "KEYWORD_ARGUMENT"
  | .dictEntry => "DICT_ENTRY" | .conditionalExpression => "CONDITIONAL_EXPRESSION"
  | .orExpression => "OR_EXPRESSION" | .andExpression => "AND_EXPRESSION"
  | .notExpression => "NOT_EXPRESSION" | .comparisonExpression => "COMPARISON_EXPRESSION"
  | .testExpression => "IS_EXPRESSION" | .arithmeticExpression => "ARITHMETIC_EXPRESSION"
  | .termExpression => "TERM_EXPRESSION" | .powerExpression => "POWER_EXPRESSION"
  | .unaryExpression => "UNARY_EXPRESSION" | .filterExpression => "FILTER_EXPRESSION"
  | .attributeAccess => "ATTRIBUTE_ACCESS" | .subscriptAccess => "SUBSCRIPT_ACCESS"
  | .functionCall => "FUNCTION_CALL" | .parenthesizedExpression => "PARENTHESIZED_EXPRESSION"
  | .variableReference => "VARIABLE_REFERENCE" | .stringLiteral => "STRING_LITERAL"
  | .numberLiteral => "NUMBER_LITERAL" | .booleanLiteral => "BOOLEAN_LITERAL"
  | .noneLiteral => "NONE_LITERAL" | .listLiteral => "LIST_LITERAL"
  | .dictLiteral => "DICT_LITERAL" | .tupleLiteral => "TUPLE_LITERAL" | .error => "ERROR"

/-- The kind with a given name. -/
def ofName? (name : String) : Option NodeKind := all.find? fun kind => kind.name = name

end NodeKind
end Stencil
