import Stencil.Grammar.Statement
import Stencil.Parser.Expression
/-!
# Templates

A template is a sequence of items: text, comments, variable tags and statements. A statement whose
keyword opens a body owns everything up to its end tag: the items of the body, a node for each
branch that splits it, and the end tag. Any other statement is its tag. Tags end with the block end
delimiter, line statements with their line.

Bodies count as levels of nesting, and the recursion is on the levels that are left. Where none is
left the tag is read without its body.
-/

namespace Stencil
namespace Parser

/-! ### Content -/

/-- Whether the current token begins a tag or a comment. -/
def atTagStart (p : Parser) : Bool :=
  p.atAny [.delimiter .blockStart, .delimiter .variableStart, .delimiter .commentStart]

/-- Everything up to the next tag or comment. -/
def text (p : Parser) : Parser :=
  ((p.start .text).loop (fun p => p.current?.isSome && !p.atTagStart) bump).finish

/-- A variable tag. What its expression leaves before the closing delimiter is skipped. -/
def variableTag (p : Parser) : Parser :=
  let closer : TokenKind := .delimiter .variableEnd
  let p := (p.start .variableTag).bump.expression
  (if p.isAt closer then p.bump
   else
    ((p.error .missingVariableEnd "Expected variable end delimiter").skipUntil closer).skip
      closer).finish

/-- A comment, up to its closing delimiter or, for a line comment, to the end of the line. Only the
first kind must be closed. -/
def comment (p : Parser) : Parser :=
  let isLine := p.nextMode? = some .lineComment
  let closer : TokenKind := if isLine then .newline else .delimiter .commentEnd
  let p := (p.start .comment).bump.loop
    (fun p => p.current?.isSome && !p.isAt closer) bump
  (if p.isAt closer then p.bump
   else if isLine then p
   else p.error .missingCommentEnd "Expected comment end delimiter").finish

/-! ### Headers -/

/-- Names after dots, so many at most. -/
def attributeNames : (times : Nat) → Step
  | 0, p => p
  | times + 1, p =>
    if p.isAt (.punctuation .dot) then
      let (named, p) := p.bump.expectName "Expected attribute name"
      if named then attributeNames times p else p
    else
      p

/-- Targets of an assignment separated by commas, so many at most. -/
def targets (message : String) : (times : Nat) → Step
  | 0, p => p
  | times + 1, p =>
    let (named, p) := p.expectName message
    if named then
      let p := attributeNames p.remaining p
      if p.isAt (.punctuation .comma) then targets message times p.bump else p
    else
      p

/-- The targets of an assignment: names, with names after dots. -/
def targetList (message : String) (p : Parser) : Parser :=
  let p := p.start .targetList
  (targets message (p.remaining + 1) p).finish

/-- Arguments separated by commas up to the end of the tag, so many at most. -/
def argumentSequence : (times : Nat) → Step
  | 0, p => p
  | times + 1, p =>
    if p.atStructural then p
    else
      let p := argument (nested p.levels) p
      if p.isAt (.punctuation .comma) then argumentSequence times p.bump else p

/-- Names to import, each with an alias if it has one, so many at most. -/
def importNames : (times : Nat) → Step
  | 0, p => p
  | times + 1, p =>
    let (named, p) := (p.start .importName).expectName "Expected name to import"
    if named then
      let p := if p.isAt (.keyword .asKw) then (p.bump.expectName "Expected alias name").2 else p
      let p := p.finish
      if p.isAt (.punctuation .comma) then importNames times p.bump else p
    else
      p.finish

/-- With or without context. -/
def contextModifier (p : Parser) : Parser :=
  if p.atAny [.keyword .withKw, .keyword .withoutKw] then
    p.bump.expect (.keyword .contextKw) "Expected 'context'"
  else
    p

/-- Expressions and commas up to the end of a tag with no form of its own. -/
def generic (p : Parser) : Parser :=
  let p := if p.current?.any TokenKind.isKeyword then p.bump else p
  p.loop (fun p => !p.atStructural)
    fun p => if p.isAt (.punctuation .comma) then p.bump else p.expression

/-- What stands in the tag of a keyword, from the keyword on. -/
def keywordHeader (keyword : Keyword) (p : Parser) : Parser :=
  match keyword with
  | .forKw =>
    let p := p.bump.targetList "Expected loop variable"
    let p := (p.expect (.keyword .inKw) "Expected 'in'").orExpression
    let p := if p.isAt (.keyword .ifKw) then p.bump.expression else p
    p.skip (.keyword .recursiveKw)
  | .ifKw | .elifKw | .extendsKw | .filterKw | .autoescapeKw => p.bump.expression
  | .setKw =>
    let p := p.bump.targetList "Expected variable name"
    if p.isAt (.operator .assign) then p.bump.tupleOrExpression else p
  | .withKw | .transKw =>
    let p := p.bump
    argumentSequence (p.remaining + 1) p
  | .blockKw => (p.bump.expectName "Expected block name").2.skip (.keyword .scopedKw)
  | .includeKw =>
    let p := p.bump.expression
    let p :=
      if p.isAt (.keyword .ignoreKw) then
        p.bump.expect (.keyword .missingKw) "Expected 'missing'"
      else
        p
    p.contextModifier
  | .importKw =>
    let p := p.bump.expression
    let p := if p.isAt (.keyword .asKw) then (p.bump.expectName "Expected alias name").2 else p
    p.contextModifier
  | .fromKw =>
    let p := p.bump.expression
    let p :=
      if p.isAt (.keyword .importKw) then
        let p := p.bump
        importNames (p.remaining + 1) p
      else
        p.error .unexpectedToken "Expected 'import'"
    p.contextModifier
  | .macroKw =>
    let p := (p.bump.expectName "Expected macro name").2
    if p.isAt (.punctuation .leftParen) then parameterList (nested p.levels) p
    else p.error .unexpectedToken "Expected '('"
  | .callKw =>
    let p := p.bump
    let p := if p.isAt (.punctuation .leftParen) then parameterList (nested p.levels) p else p
    p.expression
  | .pluralizeKw => p.bump.skip .identifier
  | .elseKw | .rawKw => p.bump
  | keyword => if keyword.isCloser then p.bump else p.generic

/-- What stands in a tag after its start delimiter. -/
def header (first : Option TokenKind) (p : Parser) : Parser :=
  match first with
  | some (.keyword keyword) => keywordHeader keyword p
  | _ => p.generic

/-- The end of a tag. What stands before it is skipped with a report. A line statement may also end
with the source. -/
def terminate (terminator : TokenKind) (p : Parser) : Parser :=
  if p.isAt terminator then p.bump
  else if terminator = .newline && p.current?.isNone then p
  else
    ((p.error .missingBlockEnd "Expected block end delimiter").skipUntil terminator).skip
      terminator

/-! ### Tags and bodies -/

/-- A tag from its start delimiter to its end, into the open node. -/
def tagContents (first : Option TokenKind) (p : Parser) : Parser :=
  let terminator : TokenKind :=
    if p.nextMode? = some .lineStatement then .newline else .delimiter .blockEnd
  (header first p.bump).terminate terminator

/-- A node that is a tag. -/
def tag (kind : NodeKind) (first : Option TokenKind) (p : Parser) : Parser :=
  (tagContents first (p.start kind)).finish

/-- Why a body stops. -/
inductive BodyStop where
  /-- Its own end tag. -/
  | ended
  /-- A branch that may split it. -/
  | branch (keyword : Keyword)
  /-- An end tag that a body around it awaits. -/
  | outer
  /-- The end of the input. -/
  | exhausted
  deriving DecidableEq

/-- Whether, and why, a body stops at the current token. -/
def bodyStop? (opener closer : Keyword) (p : Parser) : Option BodyStop :=
  match p.current? with
  | none => some .exhausted
  | some (.delimiter .blockStart) =>
    match p.nth? 1 with
    | some (.keyword keyword) =>
      if keyword = closer then some .ended
      else if opener.branches.contains keyword then some (.branch keyword)
      else if keyword.isCloser && p.awaits (.keyword keyword) then some .outer
      else none
    | _ => none
  | some _ => none

/-- One item: a statement, a variable tag, a comment or text. -/
def contentItem (statement : Step) (p : Parser) : Parser :=
  match p.current? with
  | some (.delimiter .blockStart) => statement p
  | some (.delimiter .variableStart) => p.variableTag
  | some (.delimiter .commentStart) => p.comment
  | some _ => p.text
  | none => p

/-- The items of a body up to where it stops, so many at most. -/
def body (statement : Step) (opener closer : Keyword) : (times : Nat) → Parser → BodyStop × Parser
  | 0, p => (.exhausted, p)
  | times + 1, p =>
    match p.bodyStop? opener closer with
    | some stop => (stop, p)
    | none => body statement opener closer times (contentItem statement p)

/-- The branches of a body after a stop, each with its items, so many at most. -/
def branches (statement : Step) (opener closer : Keyword) :
    (times : Nat) → BodyStop → Parser → BodyStop × Parser
  | times + 1, .branch keyword, p =>
    let p := tagContents (some (.keyword keyword)) (p.start keyword.node)
    let (stop, p) := body statement opener closer (p.remaining + 1) p
    branches statement opener closer times stop p.finish
  | _, stop, p => (stop, p)

/-- The end tag of a body, or a report that there is none. -/
def endTag (opener closer : Keyword) (openedAt : Nat) (stop : BodyStop) (p : Parser) : Parser :=
  if stop = .ended then tag .endTag (some (.keyword closer)) p
  else
    p.errorAt openedAt .unclosedBlock
      ("Unclosed '" ++ opener.spelling ++ "' block, expected '" ++ closer.spelling ++ "'")

/-- A statement with a body, given how the statements in it are read. -/
def bodyStatement (statement : Step) (opener closer : Keyword) (p : Parser) : Parser :=
  let openedAt := p.offset
  let p := tagContents (some (.keyword opener)) (p.start opener.node)
  let p := p.openBody (.keyword closer)
  let (stop, p) := body statement opener closer (p.remaining + 1) p
  let (stop, p) := branches statement opener closer (p.remaining + 1) stop p
  (endTag opener closer openedAt stop p.closeBody).finish

/-- A statement whose keyword opens no body. End tags and branches have no place here. -/
def plainStatement (first : Option TokenKind) (p : Parser) : Parser :=
  match first with
  | some (.keyword keyword) =>
    if keyword.isCloser then
      tag .genericBlock first
        (p.error .unexpectedToken
          ("Unexpected '" ++ keyword.spelling ++ "' without a matching opening tag"))
    else if keyword.isBranch then
      tag keyword.node first
        (p.error .unexpectedToken
          ("Unexpected '" ++ keyword.spelling ++ "' outside of an enclosing block"))
    else
      tag keyword.node first p
  | _ => tag .genericBlock first p

/-- The body that the tag at the current token opens: its keyword and the one that closes it. -/
def opensBody? (p : Parser) : Option (Keyword × Keyword) :=
  match p.nth? 1 with
  | some (.keyword opener) => opener.closer?.map fun closer => (opener, closer)
  | _ => none

/-- A statement with so many levels left. -/
def statementWithin : (levels : Nat) → Step
  | 0, p =>
    match p.opensBody? with
    | some (opener, _) => tag opener.node (some (.keyword opener)) p.refuse
    | none => plainStatement (p.nth? 1) p
  | levels + 1, p =>
    match p.opensBody? with
    | some (opener, closer) =>
      (bodyStatement (statementWithin levels) opener closer p.descend).ascend
    | none => plainStatement (p.nth? 1) p

/-- A statement. -/
def statement (p : Parser) : Parser := statementWithin p.levels p

/-- One item of a template. -/
def item (p : Parser) : Parser := contentItem statement p

/-- A whole template. -/
def template (p : Parser) : Parser :=
  ((p.start .template).loop (fun p => p.current?.isSome) item).skipSpace.finish

end Parser
end Stencil
