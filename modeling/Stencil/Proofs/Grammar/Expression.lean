import Stencil.Parser.Expression
import Stencil.Proofs.Parser.Space
import Stencil.Proofs.Tree.Shape
/-!
# The grammar of expressions

A phrase is what may stand between two places of a stream, with the shapes it becomes. Grammars are
put together from tokens by sequence, choice, nodes and lists. White space may stand before every
token and becomes leaves in front of it, in the innermost node that holds both neighbours: a node
begins with a token.

Every production is stated as the phrases it derives, given what the nested productions derive one
level further down. `derives` ties the knot: with so many levels of nesting an expression, an
operand of `not` or a factor may lie in so many others. What the grammar leaves open a token
decides: `binding` says how tightly a token goes on with what stands before it.
-/

namespace Stencil
namespace Grammar

/-! ### Phrases -/

/-- What may stand between two places of a stream, and the shapes it becomes. -/
def Phrase : Type := Nat → Nat → List Shape → Prop

/-- What may stand between two places of a stream, the first of them at a token, and the one shape
it becomes. -/
abbrev Operand : Type := Nat → Nat → Shape → Prop

/-- One phrase after another. -/
def Phrase.followedBy (first second : Phrase) : Phrase := fun start stop shapes =>
  ∃ middle left right, first start middle left ∧ second middle stop right ∧ shapes = left ++ right

instance : Append Phrase := ⟨Phrase.followedBy⟩

/-- A phrase that may be missing. -/
def Phrase.optional (phrase : Phrase) : Phrase := fun start stop shapes =>
  (stop = start ∧ shapes = []) ∨ phrase start stop shapes

section

variable (stream : TokenStream)

/-- The white space from a place on, as leaves. -/
def space (start : Nat) : List Shape := Shape.tokens start (stream.visible start - start)

/-- A token of one of some kinds, after white space. -/
def word (kinds : TokenKind → Bool) : Phrase := fun start stop shapes =>
  (stream.kindAt? (stream.visible start)).any kinds = true ∧ stop = stream.visible start + 1 ∧
    shapes = Shape.tokens start (stop - start)

/-- A token of one kind, after white space. -/
def token (kind : TokenKind) : Phrase := word stream fun other => other = kind

/-- An operand, after white space. -/
def spaced (operand : Operand) : Phrase := fun start stop shapes =>
  ∃ shape, operand (stream.visible start) stop shape ∧ shapes = space stream start ++ [shape]

end

/-- A phrase as the children of a node. -/
def node (kind : NodeKind) (phrase : Phrase) : Operand := fun start stop shape =>
  ∃ shapes, phrase start stop shapes ∧ shape = .node kind shapes

/-- A phrase after a shape that becomes its left sibling in a node around both. -/
def around (kind : NodeKind) (phrase : Phrase) (inside : Shape) : Operand :=
  fun start stop shape => ∃ shapes, phrase start stop shapes ∧ shape = .node kind (inside :: shapes)

/-- An operand, and steps after it that each put a node around all before. -/
inductive Chain (operand : Operand) (step : Shape → Operand) : Operand where
  | single {start stop : Nat} {shape : Shape} (whole : operand start stop shape) :
      Chain operand step start stop shape
  | grow {start middle stop : Nat} {inside shape : Shape}
      (before : Chain operand step start middle inside) (next : step inside middle stop shape) :
      Chain operand step start stop shape

/-- A phrase at least once. -/
inductive Repeated (phrase : Phrase) : Nat → Nat → List Shape → Prop where
  | last {start stop : Nat} {shapes : List Shape} (only : phrase start stop shapes) :
      Repeated phrase start stop shapes
  | more {start middle stop : Nat} {left right : List Shape} (first : phrase start middle left)
      (rest : Repeated phrase middle stop right) : Repeated phrase start stop (left ++ right)

/-- One or more of a phrase. -/
def Phrase.repeated (phrase : Phrase) : Phrase := Repeated phrase

section

variable (stream : TokenStream)

/-- A comma. -/
def comma : Phrase := token stream (.punctuation .comma)

/-- Further items of a list, each after a comma, and another comma if there is one after them. -/
inductive Further (item : Operand) : Nat → Nat → List Shape → Prop where
  | trailing {start stop : Nat} {shapes : List Shape} (only : comma stream start stop shapes) :
      Further item start stop shapes
  | last {start stop : Nat} {shapes : List Shape}
      (only : (comma stream ++ spaced stream item) start stop shapes) :
      Further item start stop shapes
  | more {start middle stop : Nat} {left right : List Shape}
      (first : (comma stream ++ spaced stream item) start middle left)
      (rest : Further item middle stop right) : Further item start stop (left ++ right)

/-- What goes on with a list after its first item. -/
def further (item : Operand) : Phrase := Further stream item

/-- Items with commas between them; a comma may also stand after the last. -/
def listing (item : Operand) : Phrase := spaced stream item ++ (further stream item).optional

/-- A node of brackets, with items or nothing between them. -/
def bracketed (kind : NodeKind) (opener closer : Punctuation) (item : Operand) : Operand :=
  node kind (token stream (.punctuation opener) ++ (listing stream item).optional ++
    token stream (.punctuation closer))

/-- Operands with operators of one precedence between them, grouped to the left. -/
def leftGrouped (kind : NodeKind) (operators : TokenKind → Bool) (operand : Operand) : Operand :=
  Chain operand (around kind (word stream operators ++ spaced stream operand))

end

/-! ### Productions -/

open Stencil.Parser (Nested)

section

variable (stream : TokenStream) (inner : Nested → Operand)

/-- An expression one level further down, after white space. -/
def subexpression : Phrase := spaced stream (inner .expression)

/-- A name with a value, or a value alone. -/
inductive Argument : Operand where
  | keyword {start stop : Nat} {shape : Shape}
      (named : node .keywordArgument (token stream .identifier ++
        token stream (.operator .assign) ++ subexpression stream inner) start stop shape) :
      Argument start stop shape
  | value {start stop : Nat} {shape : Shape} (plain : inner .expression start stop shape) :
      Argument start stop shape

/-- Arguments between parentheses. -/
def argumentList : Operand :=
  bracketed stream .argumentList .leftParen .rightParen (Argument stream inner)

/-- A key and its value. -/
def dictEntry : Operand :=
  node .dictEntry (subexpression stream inner ++ token stream (.punctuation .colon) ++
    subexpression stream inner)

/-- Parentheses around nothing, around an expression, or around expressions with commas. -/
inductive Parenthesized : Operand where
  | empty {start stop : Nat} {shape : Shape}
      (pair : node .tupleLiteral (token stream (.punctuation .leftParen) ++
        token stream (.punctuation .rightParen)) start stop shape) :
      Parenthesized start stop shape
  | single {start stop : Nat} {shape : Shape}
      (group : node .parenthesizedExpression (token stream (.punctuation .leftParen) ++
        subexpression stream inner ++ token stream (.punctuation .rightParen)) start stop shape) :
      Parenthesized start stop shape
  | tuple {start stop : Nat} {shape : Shape}
      (group : node .tupleLiteral (token stream (.punctuation .leftParen) ++
        subexpression stream inner ++ further stream (inner .expression) ++
        token stream (.punctuation .rightParen)) start stop shape) :
      Parenthesized start stop shape

/-- Numbers are whole or have a point. -/
def isNumber (kind : TokenKind) : Bool := kind = .literal .integer || kind = .literal .float

/-- The two truth values. -/
def isTruth (kind : TokenKind) : Bool := kind = .literal .boolTrue || kind = .literal .boolFalse

/-- A name, a literal or a group. String literals one after another are one. -/
inductive Atom : Operand where
  | name {start stop : Nat} {shape : Shape}
      (one : node .variableReference (token stream .identifier) start stop shape) :
      Atom start stop shape
  | string {start stop : Nat} {shape : Shape}
      (some : node .stringLiteral (token stream (.literal .string)).repeated start stop shape) :
      Atom start stop shape
  | number {start stop : Nat} {shape : Shape}
      (one : node .numberLiteral (word stream isNumber) start stop shape) : Atom start stop shape
  | truth {start stop : Nat} {shape : Shape}
      (one : node .booleanLiteral (word stream isTruth) start stop shape) : Atom start stop shape
  | none {start stop : Nat} {shape : Shape}
      (one : node .noneLiteral (token stream (.literal .none)) start stop shape) :
      Atom start stop shape
  | parenthesized {start stop : Nat} {shape : Shape}
      (group : Parenthesized stream inner start stop shape) : Atom start stop shape
  | list {start stop : Nat} {shape : Shape}
      (group : bracketed stream .listLiteral .leftBracket .rightBracket (inner .expression)
        start stop shape) : Atom start stop shape
  | dict {start stop : Nat} {shape : Shape}
      (group : bracketed stream .dictLiteral .leftBrace .rightBrace (dictEntry stream inner)
        start stop shape) : Atom start stop shape

/-- An attribute, a subscript or a call. -/
inductive Postfix (inside : Shape) : Operand where
  | attribute {start stop : Nat} {shape : Shape}
      (name : around .attributeAccess (token stream (.punctuation .dot) ++
        word stream Parser.isAttributeName) inside start stop shape) :
      Postfix inside start stop shape
  | subscript {start stop : Nat} {shape : Shape}
      (index : around .subscriptAccess (token stream (.punctuation .leftBracket) ++
        subexpression stream inner ++ token stream (.punctuation .rightBracket)) inside
        start stop shape) : Postfix inside start stop shape
  | call {start stop : Nat} {shape : Shape}
      (arguments : around .functionCall (spaced stream (argumentList stream inner)) inside
        start stop shape) : Postfix inside start stop shape

/-- An atom with the attributes, subscripts and calls after it. -/
def primary : Operand := Chain (Atom stream inner) (Postfix stream inner)

/-- A primary with the filters after it. -/
def filtered : Operand :=
  Chain (primary stream inner) (around .filterExpression (token stream (.operator .pipe) ++
    token stream .identifier ++ (spaced stream (argumentList stream inner)).optional))

/-- The signs. -/
def isSign (kind : TokenKind) : Bool := kind = .operator .minus || kind = .operator .plus

/-- A signed factor, or a filtered primary, which may have a power. -/
inductive Factor : Operand where
  | signed {start stop : Nat} {shape : Shape}
      (sign : node .unaryExpression (word stream isSign ++ spaced stream (inner .factor))
        start stop shape) : Factor start stop shape
  | plain {start stop : Nat} {shape : Shape} (base : filtered stream inner start stop shape) :
      Factor start stop shape
  | power {start middle stop : Nat} {inside shape : Shape}
      (base : filtered stream inner start middle inside)
      (exponent : around .powerExpression (token stream (.operator .power) ++
        spaced stream (inner .factor)) inside middle stop shape) : Factor start stop shape

/-- The operators between factors. -/
def productOperators : List TokenKind :=
  [.operator .multiply, .operator .divide, .operator .floorDivide, .operator .modulo]

/-- The operators between products. -/
def sumOperators : List TokenKind := [.operator .plus, .operator .minus, .operator .tilde]

/-- Factors with operators between them. -/
def product : Operand :=
  leftGrouped stream .termExpression productOperators.contains (inner .factor)

/-- Products with operators between them. -/
def sum : Operand :=
  leftGrouped stream .arithmeticExpression sumOperators.contains (product stream inner)

/-- The operators of one token between the two sides of a comparison. -/
def comparesAlone (kind : TokenKind) : Bool := kind.isComparison || kind = .keyword .inKw

/-- A sum, a comparison of two, or a test. -/
inductive Comparison : Operand where
  | plain {start stop : Nat} {shape : Shape} (only : sum stream inner start stop shape) :
      Comparison start stop shape
  | compared {start middle stop : Nat} {inside shape : Shape}
      (left : sum stream inner start middle inside)
      (right : around .comparisonExpression (word stream comparesAlone ++
        spaced stream (sum stream inner)) inside middle stop shape) : Comparison start stop shape
  | excluded {start middle stop : Nat} {inside shape : Shape}
      (left : sum stream inner start middle inside)
      (right : around .comparisonExpression (token stream (.keyword .notKw) ++
        token stream (.keyword .inKw) ++ spaced stream (sum stream inner)) inside
        middle stop shape) : Comparison start stop shape
  | tested {start middle stop : Nat} {inside shape : Shape}
      (left : sum stream inner start middle inside)
      (right : around .testExpression (token stream (.keyword .isKw) ++
        (token stream (.keyword .notKw)).optional ++ spaced stream (sum stream inner)) inside
        middle stop shape) : Comparison start stop shape

/-- A negated operand or a comparison. -/
inductive Negation : Operand where
  | negated {start stop : Nat} {shape : Shape}
      (operand : node .notExpression (token stream (.keyword .notKw) ++
        spaced stream (inner .negation)) start stop shape) : Negation start stop shape
  | plain {start stop : Nat} {shape : Shape} (only : Comparison stream inner start stop shape) :
      Negation start stop shape

/-- Negations with `and` between them. -/
def conjunction : Operand :=
  leftGrouped stream .andExpression [TokenKind.keyword .andKw].contains (Negation stream inner)

/-- Conjunctions with `or` between them. -/
def disjunction : Operand :=
  leftGrouped stream .orExpression [TokenKind.keyword .orKw].contains (conjunction stream inner)

/-- A disjunction, which may have a condition, which may have an alternative. -/
inductive Conditional : Operand where
  | plain {start stop : Nat} {shape : Shape} (only : disjunction stream inner start stop shape) :
      Conditional start stop shape
  | condition {start middle stop : Nat} {inside shape : Shape}
      (value : disjunction stream inner start middle inside)
      (rest : around .conditionalExpression (token stream (.keyword .ifKw) ++
        spaced stream (disjunction stream inner) ++
        (token stream (.keyword .elseKw) ++ subexpression stream inner).optional) inside
        middle stop shape) : Conditional start stop shape

/-- What a nested production derives. -/
def production : Nested → Operand
  | .expression => Conditional stream inner
  | .disjunction => disjunction stream inner
  | .negation => Negation stream inner
  | .factor => Factor stream inner

end

/-- What a nested production derives with so many levels of nesting. -/
def derives (stream : TokenStream) : (levels : Nat) → Nested → Operand
  | 0, _ => fun _ _ _ => False
  | levels + 1, which => production stream (derives stream levels) which

end Grammar
end Stencil
