import Stencil.Parser.State
/-!
# Expressions

```text
expression ::= disjunction ['if' disjunction ['else' expression]]
disjunction ::= conjunction {'or' conjunction}
conjunction ::= negation {'and' negation}
negation ::= 'not' negation | comparison
comparison ::= sum [(comparison operator | 'in' | 'not' 'in') sum | 'is' ['not'] sum]
sum ::= product {('+' | '-' | '~') product}
product ::= factor {('*' | '/' | '//' | '%') factor}
factor ::= ('-' | '+') factor | filtered ['**' factor]
filtered ::= primary {'|' name ['(' arguments ')']}
primary ::= atom {'.' name | '[' expression ']' | '(' arguments ')'}
```

Every cycle of this grammar passes through one of four productions, and each of these counts as a
level of nesting. The others are therefore functions of the four one level further down, and the
recursion is on the number of levels that are left. Where none is left a placeholder is put.
-/

namespace Stencil
namespace Parser

/-- The productions that count as a level of nesting. -/
inductive Nested where
  | expression | disjunction | negation | factor
  deriving DecidableEq

/-- The nested productions one level further down. -/
abbrev Inner := Nested → Step

/-! ### Lists between brackets -/

/-- Items separated by commas up to a closing bracket, so many at most. A comma may stand before the
bracket. What is neither ends the list with a report. -/
def items (item : Step) (closer : TokenKind) (message : String) : (times : Nat) → Step
  | 0, p => p
  | times + 1, p =>
    let p := item p
    if p.isAt (.punctuation .comma) then
      let p := p.bump
      if p.isAt closer then p else items item closer message times p
    else if p.isAt closer then p
    else p.error .unclosedGroup message

/-- A node of brackets with items between them; the current token is the opening bracket. -/
def group (kind : NodeKind) (item : Step) (closer : Punctuation) (separator bracket : String)
    (p : Parser) : Parser :=
  let p := (p.start kind).bump
  let p := if p.isAt closer then p else items item closer separator (p.remaining + 1) p
  (p.expectCloser closer bracket).finish

/-- A comma and an expression, again and again, up to a comma after which nothing more belongs to
the list; so many times at most. -/
def moreItems (item : Step) (ends : Parser → Bool) : (times : Nat) → Step
  | 0, p => p
  | times + 1, p =>
    if p.isAt (.punctuation .comma) then
      let p := p.bump
      if ends p then p else moreItems item ends times (item p)
    else
      p

/-- A name with `=` and a value, or a value alone. -/
def argument (inner : Inner) (p : Parser) : Parser :=
  if p.isAt .identifier && p.nth? 1 = some (.operator .assign) then
    (inner .expression (p.start .keywordArgument).bump.bump).finish
  else
    inner .expression p

/-- Arguments between parentheses; the current token is the opening one. -/
def argumentList (inner : Inner) (p : Parser) : Parser :=
  p.group .argumentList (argument inner) .rightParen "Expected ',' or ')'" "Expected ')'"

/-- Parameters separated by commas up to a closing parenthesis, so many at most. -/
def parameters (inner : Inner) : (times : Nat) → Step
  | 0, p => p
  | times + 1, p =>
    if p.isAt .identifier then
      let p := (p.start .parameter).bump
      let p := if p.isAt (.operator .assign) then inner .expression p.bump else p
      let p := p.finish
      if p.isAt (.punctuation .comma) then
        let p := p.bump
        if p.isAt (.punctuation .rightParen) then p else parameters inner times p
      else if p.isAt (.punctuation .rightParen) then p
      else p.error .unclosedGroup "Expected ',' or ')'"
    else
      p.error .expectedName "Expected parameter name"

/-- Parameters between parentheses; the current token is the opening one. -/
def parameterList (inner : Inner) (p : Parser) : Parser :=
  let p := (p.start .parameterList).bump
  let p := if p.isAt (.punctuation .rightParen) then p else parameters inner (p.remaining + 1) p
  (p.expectCloser (.punctuation .rightParen) "Expected ')'").finish

/-! ### Atoms and what follows them -/

/-- A key with a colon and a value. -/
def dictEntry (inner : Inner) (p : Parser) : Parser :=
  let p := inner .expression (p.start .dictEntry)
  (if p.isAt (.punctuation .colon) then inner .expression p.bump
   else p.error .unexpectedToken "Expected ':'").finish

/-- Nothing, an expression, or expressions with a comma between parentheses: an empty tuple, a
parenthesised expression, or a tuple. -/
def parenthesized (inner : Inner) (p : Parser) : Parser :=
  let (checkpoint, p) := p.checkpoint
  let p := p.bump
  if p.isAt (.punctuation .rightParen) then
    (p.startAt checkpoint .tupleLiteral).bump.finish
  else
    let p := inner .expression p
    let p :=
      if p.isAt (.punctuation .comma) then
        let p := p.startAt checkpoint .tupleLiteral
        moreItems (inner .expression) (fun p => p.isAt (.punctuation .rightParen)) p.remaining p
      else
        p.startAt checkpoint .parenthesizedExpression
    (p.expectCloser (.punctuation .rightParen) "Expected ')'").finish

/-- String literals one after another, which are one string. -/
def strings (p : Parser) : Parser :=
  ((p.start .stringLiteral).loop (fun p => p.isAt (.literal .string)) bump).finish

/-- A name, a literal or a group. Anything else becomes a placeholder, and the answer is no. -/
def atom (inner : Inner) (p : Parser) : Bool × Parser :=
  match p.current? with
  | some .identifier => (true, p.single .variableReference)
  | some (.literal .string) => (true, p.strings)
  | some (.literal .integer) => (true, p.single .numberLiteral)
  | some (.literal .float) => (true, p.single .numberLiteral)
  | some (.literal .boolTrue) => (true, p.single .booleanLiteral)
  | some (.literal .boolFalse) => (true, p.single .booleanLiteral)
  | some (.literal .none) => (true, p.single .noneLiteral)
  | some (.punctuation .leftParen) => (true, parenthesized inner p)
  | some (.punctuation .leftBracket) =>
    (true, p.group .listLiteral (inner .expression) .rightBracket
      "Expected ',' or ']'" "Expected ']'")
  | some (.punctuation .leftBrace) =>
    (true, p.group .dictLiteral (dictEntry inner) .rightBrace
      "Expected ',' or '\x7d'" "Expected '\x7d'")
  | _ => (false, p.placeholder)

/-- Attributes are named by names, by whole numbers and by reserved words. -/
def isAttributeName : TokenKind → Bool
  | .identifier | .literal .integer | .keyword _ => true
  | _ => false

/-- An attribute, a subscript or a call follows. -/
def atPostfix (p : Parser) : Bool :=
  p.atAny [.punctuation .dot, .punctuation .leftBracket, .punctuation .leftParen]

/-- One attribute, subscript or call, around the operand that was begun at a checkpoint. -/
def postfixStep (inner : Inner) (checkpoint : Checkpoint) (p : Parser) : Parser :=
  if p.isAt (.punctuation .dot) then
    let p := (p.startAt checkpoint .attributeAccess).bump
    (if p.current?.any isAttributeName then p.bump
     else p.error .expectedName "Expected attribute name").finish
  else if p.isAt (.punctuation .leftBracket) then
    let p := inner .expression (p.startAt checkpoint .subscriptAccess).bump
    (p.expectCloser (.punctuation .rightBracket) "Expected ']'").finish
  else
    (argumentList inner (p.startAt checkpoint .functionCall)).finish

/-- An atom with the attributes, subscripts and calls that follow it. -/
def primary (inner : Inner) (p : Parser) : Parser :=
  let (checkpoint, p) := p.checkpoint
  let (isAtom, p) := atom inner p
  if isAtom then p.loop atPostfix (postfixStep inner checkpoint) else p

/-- One filter, around the operand that was begun at a checkpoint. -/
def filterStep (inner : Inner) (checkpoint : Checkpoint) (p : Parser) : Parser :=
  let p := (p.startAt checkpoint .filterExpression).bump
  (if p.isAt .identifier then
    let p := p.bump
    if p.isAt (.punctuation .leftParen) then argumentList inner p else p
   else
    p.error .expectedName "Expected filter name").finish

/-- An operand with the filters that follow it. -/
def filtered (inner : Inner) (p : Parser) : Parser :=
  let (checkpoint, p) := p.checkpoint
  (primary inner p).loop (fun p => p.isAt (.operator .pipe)) (filterStep inner checkpoint)

/-! ### Operators -/

/-- Operands with operators of one precedence between them, grouped to the left. -/
def leftGrouped (kind : NodeKind) (operators : List TokenKind) (operand : Step) (p : Parser) :
    Parser :=
  let (checkpoint, p) := p.checkpoint
  (operand p).loop (fun p => p.atAny operators)
    fun p => (operand (p.startAt checkpoint kind).bump).finish

/-- A sign before a factor, or an operand with a power, which groups to the right. -/
def factor (inner : Inner) (p : Parser) : Parser :=
  if p.atAny [.operator .minus, .operator .plus] then
    (inner .factor (p.start .unaryExpression).bump).finish
  else
    let (checkpoint, p) := p.checkpoint
    let p := filtered inner p
    if p.isAt (.operator .power) then
      (inner .factor (p.startAt checkpoint .powerExpression).bump).finish
    else
      p

/-- Factors with multiplication, division or remainder between them. -/
def product (inner : Inner) : Step :=
  leftGrouped .termExpression
    [.operator .multiply, .operator .divide, .operator .floorDivide, .operator .modulo]
    (inner .factor)

/-- Products with addition, subtraction or concatenation between them. -/
def sum (inner : Inner) : Step :=
  leftGrouped .arithmeticExpression [.operator .plus, .operator .minus, .operator .tilde]
    (product inner)

/-- One comparison at most, so that a second one is left to the construct around. -/
def comparison (inner : Inner) (p : Parser) : Parser :=
  let (checkpoint, p) := p.checkpoint
  let p := sum inner p
  if p.current?.any fun kind => kind.isComparison || kind = .keyword .inKw then
    (sum inner (p.startAt checkpoint .comparisonExpression).bump).finish
  else if p.isAt (.keyword .notKw) && p.nth? 1 = some (.keyword .inKw) then
    (sum inner (p.startAt checkpoint .comparisonExpression).bump.bump).finish
  else if p.isAt (.keyword .isKw) then
    let p := (p.startAt checkpoint .testExpression).bump
    (sum inner (p.skip (.keyword .notKw))).finish
  else
    p

/-- A negated operand or a comparison. -/
def negation (inner : Inner) (p : Parser) : Parser :=
  if p.isAt (.keyword .notKw) then
    (inner .negation (p.start .notExpression).bump).finish
  else
    comparison inner p

/-- Negations with `and` between them. -/
def conjunction (inner : Inner) : Step :=
  leftGrouped .andExpression [.keyword .andKw] (negation inner)

/-- Conjunctions with `or` between them. -/
def disjunction (inner : Inner) : Step :=
  leftGrouped .orExpression [.keyword .orKw] (conjunction inner)

/-- A disjunction, with a condition and an alternative after it. -/
def conditional (inner : Inner) (p : Parser) : Parser :=
  let (checkpoint, p) := p.checkpoint
  let p := disjunction inner p
  if p.isAt (.keyword .ifKw) then
    let p := disjunction inner (p.startAt checkpoint .conditionalExpression).bump
    (if p.isAt (.keyword .elseKw) then inner .expression p.bump else p).finish
  else
    p

/-! ### Levels -/

/-- A nested production, given those one level further down. -/
def production (inner : Inner) : Nested → Step
  | .expression => conditional inner
  | .disjunction => disjunction inner
  | .negation => negation inner
  | .factor => factor inner

/-- A nested production with so many levels left: one level deeper and back up, or a placeholder
where there is none. -/
def nested : (levels : Nat) → Inner
  | 0, _, p => p.refuse.placeholder
  | levels + 1, which, p => (production (nested levels) which p.descend).ascend

/-- An expression. -/
def expression (p : Parser) : Parser := nested p.levels .expression p

/-- An expression that leaves a trailing `if` to the construct around it. -/
def orExpression (p : Parser) : Parser := nested p.levels .disjunction p

/-- An expression, or several with commas between them, which are a tuple. -/
def tupleOrExpression (p : Parser) : Parser :=
  let (checkpoint, p) := p.checkpoint
  let p := p.expression
  if p.isAt (.punctuation .comma) then
    let p := p.startAt checkpoint .tupleLiteral
    (moreItems expression atStructural p.remaining p).finish
  else
    p

end Parser
end Stencil
