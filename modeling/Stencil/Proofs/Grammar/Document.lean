import Stencil.Parser.Statement
import Stencil.Proofs.Grammar.Expression
/-!
# The grammar of templates

A template is a row of items: runs of text, comments, variable tags and statements. The header of
each statement keyword is stated as a phrase; a keyword with a body owns what stands up to its own
end tag, split by the branches that the keyword allows. Bodies nest within the levels left, and so
do the expressions in their headers.
-/

namespace Stencil
namespace Grammar

section

variable (stream : TokenStream)

/-- One phrase, or several with commas between them. -/
inductive Separated (item : Phrase) : Nat → Nat → List Shape → Prop where
  | last {start stop : Nat} {shapes : List Shape} (only : item start stop shapes) :
      Separated item start stop shapes
  | more {start middle stop : Nat} {left right : List Shape}
      (first : (item ++ comma stream) start middle left)
      (rest : Separated item middle stop right) : Separated item start stop (left ++ right)

/-- A phrase again and again with commas between. -/
def separated (item : Phrase) : Phrase := Separated stream item

/-- A keyword. -/
def keyword (which : Keyword) : Phrase := token stream (.keyword which)

/-- A name. -/
def name : Phrase := token stream .identifier

/-- A name and further names after dots. -/
def target : Phrase :=
  name stream ++ (token stream (.punctuation .dot) ++ name stream).repeated.optional

/-- The targets of an assignment. -/
def targetList : Operand := node .targetList (separated stream (target stream))

/-- A name to import, which may have an alias. -/
def importName : Operand :=
  node .importName (name stream ++ (keyword stream .asKw ++ name stream).optional)

/-- With or without context. -/
def context : Phrase :=
  word stream (fun kind => kind = .keyword .withKw || kind = .keyword .withoutKw) ++
    keyword stream .contextKw

section

variable (levels : Nat)

/-- An expression with so many levels left, after white space. -/
def expression : Phrase := subexpression stream (derives stream levels)

/-- A parameter, which may have a default. -/
def parameter : Operand :=
  node .parameter (name stream ++
    (token stream (.operator .assign) ++ expression stream levels).optional)

/-- Parameters between parentheses. -/
def parameterList : Operand :=
  bracketed stream .parameterList .leftParen .rightParen (parameter stream levels)

/-- An expression, or several with commas, which are a tuple. -/
inductive TupleOrExpression : Operand where
  | plain {start stop : Nat} {shape : Shape}
      (only : derives stream levels .expression start stop shape) :
      TupleOrExpression start stop shape
  | tuple {start middle stop : Nat} {inside shape : Shape}
      (first : derives stream levels .expression start middle inside)
      (rest : around .tupleLiteral (further stream (derives stream levels .expression)) inside
        middle stop shape) : TupleOrExpression start stop shape

/-- What follows the keyword in a `call` tag: an expression after parameters, or one that does not
begin like parameters. -/
inductive Callee : Nat → Nat → List Shape → Prop where
  | parameters {start stop : Nat} {shapes : List Shape}
      (both : (spaced stream (parameterList stream levels) ++ expression stream levels)
        start stop shapes) : Callee start stop shapes
  | plain {start stop : Nat} {shapes : List Shape}
      (only : expression stream levels start stop shapes)
      (bare : stream.kindAt? (stream.visible start) ≠ some (.punctuation .leftParen)) :
      Callee start stop shapes

/-- What a `call` tag calls. -/
def callee : Phrase := Callee stream levels

/-- What stands in the tag of a keyword, from the keyword on. Keywords that begin no tag have no
header. -/
def header (which : Keyword) : Phrase :=
  match which with
  | .forKw =>
    keyword stream .forKw ++ spaced stream (targetList stream) ++ keyword stream .inKw ++
      spaced stream (derives stream levels .disjunction) ++
      (keyword stream .ifKw ++ expression stream levels).optional ++
      (keyword stream .recursiveKw).optional
  | .ifKw | .elifKw | .extendsKw | .filterKw | .autoescapeKw =>
    keyword stream which ++ expression stream levels
  | .setKw =>
    keyword stream .setKw ++ spaced stream (targetList stream) ++
      (token stream (.operator .assign) ++
        spaced stream (TupleOrExpression stream levels)).optional
  | .withKw | .transKw =>
    keyword stream which ++ (listing stream (Argument stream (derives stream levels))).optional
  | .blockKw => keyword stream .blockKw ++ name stream ++ (keyword stream .scopedKw).optional
  | .includeKw =>
    keyword stream .includeKw ++ expression stream levels ++
      (keyword stream .ignoreKw ++ keyword stream .missingKw).optional ++ (context stream).optional
  | .importKw =>
    keyword stream .importKw ++ expression stream levels ++
      (keyword stream .asKw ++ name stream).optional ++ (context stream).optional
  | .fromKw =>
    keyword stream .fromKw ++ expression stream levels ++ keyword stream .importKw ++
      separated stream (spaced stream (importName stream)) ++ (context stream).optional
  | .macroKw =>
    keyword stream .macroKw ++ name stream ++ spaced stream (parameterList stream levels)
  | .callKw => keyword stream .callKw ++ callee stream levels
  | .pluralizeKw => keyword stream .pluralizeKw ++ (name stream).optional
  | .elseKw | .rawKw => keyword stream which
  | which => fun start stop shapes =>
    which.isCloser = true ∧ keyword stream which start stop shapes

/-- The end of a tag: the closing delimiter, or for a line statement the end of the line or of the
source. -/
inductive Terminator (line : Bool) : Nat → Nat → List Shape → Prop where
  | block {start stop : Nat} {shapes : List Shape} (tag : line = false)
      (closed : token stream (.delimiter .blockEnd) start stop shapes) :
      Terminator line start stop shapes
  | newline {start stop : Nat} {shapes : List Shape} (statement : line = true)
      (closed : token stream .newline start stop shapes) : Terminator line start stop shapes
  | exhausted {start : Nat} (statement : line = true)
      (beyond : stream.kindAt? (stream.visible start) = none) : Terminator line start start []

/-- The end of a tag that is a line statement or is none. -/
def terminator (line : Bool) : Phrase := Terminator stream line

/-- A tag of a keyword: its start delimiter, its header and its end. -/
def tag (which : Keyword) : Phrase := fun start stop shapes =>
  (token stream (.delimiter .blockStart) ++ header stream levels which ++
    terminator stream (stream.modeAfter? (stream.visible start) = some .lineStatement))
    start stop shapes

/-- Tokens that begin no tag and no comment. -/
def isPlain (kind : TokenKind) : Bool :=
  !List.contains [.delimiter .blockStart, .delimiter .variableStart, .delimiter .commentStart] kind

/-- A whole run of text: what follows begins a tag or a comment, so that no two runs are side by
side. -/
def text : Operand := fun start stop shape =>
  node .text (word stream isPlain).repeated start stop shape ∧
    (stream.kindAt? (stream.visible stop)).any isPlain = false

/-- A comment: closed by its delimiter, or a line comment that ends with its line or with the
source. -/
inductive Comment : Operand where
  | block {start stop : Nat} {shape : Shape}
      (form : stream.modeAfter? start ≠ some .lineComment)
      (closed : node .comment (token stream (.delimiter .commentStart) ++
        (word stream fun kind => kind ≠ .delimiter .commentEnd).repeated.optional ++
        token stream (.delimiter .commentEnd)) start stop shape) : Comment start stop shape
  | line {start stop : Nat} {shape : Shape}
      (form : stream.modeAfter? start = some .lineComment)
      (closed : node .comment (token stream (.delimiter .commentStart) ++
        (word stream fun kind => kind ≠ .newline).repeated.optional ++ token stream .newline)
        start stop shape) : Comment start stop shape
  | lastLine {start stop : Nat} {shape : Shape}
      (form : stream.modeAfter? start = some .lineComment)
      (unclosed : node .comment (token stream (.delimiter .commentStart) ++
        (word stream fun kind => kind ≠ .newline).repeated.optional) start stop shape)
      (beyond : stream.kindAt? (stream.visible stop) = none) : Comment start stop shape

/-- A variable tag. -/
def variableTag : Operand :=
  node .variableTag (token stream (.delimiter .variableStart) ++ expression stream levels ++
    token stream (.delimiter .variableEnd))

/-- One item of a template or of a body. -/
inductive Item (statement : Operand) : Operand where
  | text {start stop : Nat} {shape : Shape} (run : text stream start stop shape) :
      Item statement start stop shape
  | comment {start stop : Nat} {shape : Shape} (note : Comment stream start stop shape) :
      Item statement start stop shape
  | variable {start stop : Nat} {shape : Shape}
      (output : variableTag stream levels start stop shape) : Item statement start stop shape
  | statement {start stop : Nat} {shape : Shape} (tag : statement start stop shape) :
      Item statement start stop shape

/-- The items of a template or of a body, if there are any. -/
def items (statement : Operand) : Phrase :=
  (spaced stream (Item stream levels statement)).repeated.optional

/-- The branches of a body: each a node of a tag that may split it and of the items after the tag.
-/
inductive Branches (statement : Operand) (opener : Keyword) : Nat → Nat → List Shape → Prop where
  | none {start : Nat} : Branches statement opener start start []
  | more {start middle stop : Nat} {left right : List Shape} {which : Keyword}
      (allowed : which ∈ opener.branches)
      (first : spaced stream (node which.node (tag stream levels which ++
        items stream levels statement)) start middle left)
      (rest : Branches statement opener middle stop right) :
      Branches statement opener start stop (left ++ right)

/-- All branches of a body. -/
def branches (statement : Operand) (opener : Keyword) : Phrase :=
  Branches stream levels statement opener

/-- A statement without a body: its tag. -/
def plainStatement : Operand := fun start stop shape =>
  ∃ which : Keyword, which.closer? = none ∧ which.isCloser = false ∧ which.isBranch = false ∧
    node which.node (tag stream levels which) start stop shape

/-- A statement with a body: its tag, items, branches and the end tag that belongs to it. -/
def bodyStatement (statement : Operand) : Operand := fun start stop shape =>
  ∃ opener closer : Keyword, opener.closer? = some closer ∧
    node opener.node (tag stream levels opener ++ items stream levels statement ++
      branches stream levels statement opener ++
      spaced stream (node .endTag (tag stream levels closer))) start stop shape

end

/-- The statements with so many levels of nesting. -/
def statements : (levels : Nat) → Operand
  | 0 => plainStatement stream 0
  | levels + 1 => fun start stop shape =>
    plainStatement stream (levels + 1) start stop shape ∨
      bodyStatement stream levels (statements levels) start stop shape

/-- The template that a whole stream is, as the shapes of its items and of white space at the
end. -/
def Template (levels : Nat) (shapes : List Shape) : Prop :=
  ∃ stop inside, items stream levels (statements stream levels) (stream.visible 0) stop inside ∧
    stream.kindAt? (stream.visible stop) = none ∧ shapes = inside ++ space stream stop

end

end Grammar
end Stencil
