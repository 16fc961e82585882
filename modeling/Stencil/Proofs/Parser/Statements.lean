import Stencil.Proofs.Parser.Productions
/-!
# What templates are assembled from

Outside expressions the parser does little: it takes tokens, reports, opens and closes nodes, goes
down a level and up again. A relation between an earlier and a later parser that is kept by these
steps, and by the expressions and parameter lists in a tag, is an `Assembly`. Every header, tag,
body and item then keeps it (`Assembly.item`). On one level a `Layout` is enough; what stands in a
tag asks for less, a `Heading`, and what opens no node asks for the least, the `Steps`. The first
relation is that of reading forward.
-/

namespace Stencil

/-- The kinds of the nodes outside expressions and lists of parameters. -/
def NodeKind.isOuter : NodeKind → Bool
  | .template | .text | .comment | .variableTag | .targetList | .importName | .error => true
  | kind => kind.isStatement

namespace Parser

/-- A step is related to where it starts, wherever that is. -/
def Everywhere (related : Parser → Parser → Prop) (step : Step) : Prop :=
  ∀ p : Parser, related p (step p)

/-- A relation that is kept where tokens are taken and faults reported. -/
structure Steps (related : Parser → Parser → Prop) : Prop where
  refl (p : Parser) : related p p
  trans {o p q : Parser} (before : related o p) (after : related p q) : related o q
  bump : Everywhere related Parser.bump
  errorAt (offset : Nat) (fault : SyntaxFault) (message : String) :
    Everywhere related (fun p => p.errorAt offset fault message)

/-- A relation that is kept by what stands in a tag. -/
structure Heading (related : Parser → Parser → Prop) : Prop extends Steps related where
  skipUntil (terminator : TokenKind) : Everywhere related (fun p => p.skipUntil terminator)
  targetList (message : String) : Everywhere related (fun p => p.targetList message)
  importNames (times : Nat) : Everywhere related (Parser.importNames times)
  expression : Everywhere related Parser.expression
  orExpression : Everywhere related Parser.orExpression
  tupleOrExpression : Everywhere related Parser.tupleOrExpression
  argument : Everywhere related (fun p => Parser.argument (nested p.levels) p)
  parameterList : Everywhere related (fun p => Parser.parameterList (nested p.levels) p)

/-- A relation that the steps keep which tags and bodies are put together from, on one level. -/
structure Layout (related : Parser → Parser → Prop) : Prop extends Steps related where
  refuse : Everywhere related Parser.refuse
  node {p q : Parser} {kind : NodeKind} (outer : kind.isOuter = true)
    (inside : related (p.start kind) q) : related p q.finish
  closeBody {p q : Parser} {closer : TokenKind} (inside : related (p.openBody closer) q) :
    related p q.closeBody
  expression : Everywhere related Parser.expression
  orExpression : Everywhere related Parser.orExpression
  tupleOrExpression : Everywhere related Parser.tupleOrExpression
  argument : Everywhere related (fun p => Parser.argument (nested p.levels) p)
  parameterList : Everywhere related (fun p => Parser.parameterList (nested p.levels) p)

/-- A relation that the steps keep which templates are assembled from. -/
structure Assembly (related : Parser → Parser → Prop) : Prop extends Layout related where
  ascend {p q : Parser} (inside : related p.descend q) : related p q.ascend

/-- Every statement is of a kind outside expressions. -/
theorem isOuter_node (keyword : Keyword) : keyword.node.isOuter = true := by
  cases keyword <;> rfl

namespace Steps

variable {related : Parser → Parser → Prop} (steps : Steps related)

include steps

omit steps in
/-- A choice is related if both alternatives are. -/
theorem ite {p left right : Parser} {test : Prop} [Decidable test] (yes : related p left)
    (no : related p right) : related p (if test then left else right) := by
  split
  · exact yes
  · exact no

/-- A step that is taken at a token of some kind, and none elsewhere. -/
theorem ifAt {step : Step} (each : Everywhere related step) (kind : TokenKind) :
    Everywhere related (fun p => if p.isAt kind then step p else p) := fun p =>
  ite (each p) (steps.refl p)

/-- A report keeps the relation. -/
theorem error (fault : SyntaxFault) (message : String) :
    Everywhere related (fun p => p.error fault message) := fun p =>
  steps.errorAt p.offset fault message p

/-- A loop is related if each round is. -/
theorem loop {test : Parser → Bool} {body : Step} (round : Everywhere related body) :
    Everywhere related (Parser.loop test body) := by
  intro p
  rw [Parser.loop]
  generalize p.remaining = times
  induction times generalizing p with
  | zero => exact steps.refl p
  | succ times ih =>
    rw [repeatWhile]
    exact ite (steps.trans (round p) (ih _)) (steps.refl p)

/-- An optional token keeps the relation. -/
theorem skip (kind : TokenKind) : Everywhere related (fun p => p.skip kind) := by
  intro p
  simp only [Parser.skip, eat]
  split
  · exact steps.bump p
  · exact steps.refl p

/-- An expected token keeps the relation. -/
theorem expect (kind : TokenKind) (message : String) :
    Everywhere related (fun p => p.expect kind message) := fun p =>
  ite (steps.bump p) (steps.error _ _ p)

/-- An expected name keeps the relation. -/
theorem expectName (message : String) :
    Everywhere related (fun p => (p.expectName message).2) := by
  intro p
  simp only [Parser.expectName]
  split
  · exact steps.bump p
  · exact steps.error _ _ p

/-- A chain of attribute names keeps the relation. -/
theorem attributeNames (times : Nat) : Everywhere related (Parser.attributeNames times) := by
  induction times with
  | zero => exact steps.refl
  | succ times ih =>
    intro p
    have named := steps.trans (steps.bump p) (steps.expectName "Expected attribute name" _)
    exact ite (ite (steps.trans named (ih _)) named) (steps.refl p)

/-- Assignment targets keep the relation. -/
theorem targets (message : String) (times : Nat) :
    Everywhere related (Parser.targets message times) := by
  induction times with
  | zero => exact steps.refl
  | succ times ih =>
    intro p
    have named := steps.expectName message p
    have whole := steps.trans named
      (steps.attributeNames (p.expectName message).2.remaining _)
    exact ite (ite (steps.trans (steps.trans whole (steps.bump _)) (ih _)) whole) named

/-- A context modifier keeps the relation. -/
theorem contextModifier : Everywhere related Parser.contextModifier := fun p =>
  ite (steps.trans (steps.bump p) (steps.expect _ _ _)) (steps.refl p)

/-- An alias after a keyword. -/
theorem aliasName :
    Everywhere related (fun p => (p.bump.expectName "Expected alias name").2) := fun p =>
  steps.trans (steps.bump p) (steps.expectName _ _)

/-- A list with separators keeps the relation. -/
theorem items {item : Step} (each : Everywhere related item) (closer : TokenKind)
    (message : String) (times : Nat) :
    Everywhere related (Parser.items item closer message times) := by
  induction times with
  | zero => exact steps.refl
  | succ times ih =>
    intro p
    have first := each p
    have past := steps.trans first (steps.bump _)
    exact ite (ite past (steps.trans past (ih _)))
      (ite first (steps.trans first (steps.error _ _ _)))

/-- Further items keep the relation. -/
theorem moreItems {item : Step} (each : Everywhere related item) (ends : Parser → Bool)
    (times : Nat) : Everywhere related (Parser.moreItems item ends times) := by
  induction times with
  | zero => exact steps.refl
  | succ times ih =>
    intro p
    have past := steps.bump p
    exact ite (ite past (steps.trans (steps.trans past (each _)) (ih _))) (steps.refl p)

end Steps

namespace Heading

open Steps (ite)

variable {related : Parser → Parser → Prop} (heading : Heading related)

include heading

/-- Skipping to a closing token with a report, and taking it. -/
theorem recover (fault : SyntaxFault) (message : String) (closer : TokenKind) :
    Everywhere related (fun p => ((p.error fault message).skipUntil closer).skip closer) :=
  fun p => heading.trans (heading.trans (heading.error fault message p)
    (heading.skipUntil closer _)) (heading.skip closer _)

/-- Arguments in a row keep the relation. -/
theorem argumentSequence (times : Nat) : Everywhere related (Parser.argumentSequence times) := by
  induction times with
  | zero => exact heading.refl
  | succ times ih =>
    intro p
    have first := heading.argument p
    exact ite (heading.refl p)
      (ite (heading.trans (heading.trans first (heading.bump _)) (ih _)) first)

/-- The tokens of a tag with no form of its own keep the relation. -/
theorem generic : Everywhere related Parser.generic := by
  intro p
  have keyword : related p (if p.current?.any TokenKind.isKeyword then p.bump else p) :=
    ite (heading.bump p) (heading.refl p)
  have round : Everywhere related
      (fun q => if q.isAt (.punctuation .comma) then q.bump else q.expression) := fun q =>
    ite (heading.bump q) (heading.expression q)
  exact heading.trans keyword (heading.loop round _)

/-- An expression after a keyword keeps the relation. -/
theorem keywordExpression : Everywhere related (fun p => p.bump.expression) := fun p =>
  heading.trans (heading.bump p) (heading.expression _)

/-- The header of a loop keeps the relation. -/
theorem forHeader : Everywhere related (keywordHeader .forKw) := by
  intro p
  have targets := heading.trans (heading.bump p) (heading.targetList "Expected loop variable" _)
  have joined := heading.trans targets (heading.expect (.keyword .inKw) "Expected 'in'" _)
  have iterable := heading.trans joined (heading.orExpression _)
  have condition := heading.ifAt heading.keywordExpression (.keyword .ifKw)
  exact heading.trans (heading.trans iterable (condition _)) (heading.skip _ _)

/-- The header of an assignment keeps the relation. -/
theorem setHeader : Everywhere related (keywordHeader .setKw) := by
  intro p
  have targets := heading.trans (heading.bump p) (heading.targetList "Expected variable name" _)
  have value : Everywhere related (fun q => q.bump.tupleOrExpression) := fun q =>
    heading.trans (heading.bump q) (heading.tupleOrExpression _)
  rw [keywordHeader]
  exact heading.trans targets (heading.ifAt value (.operator .assign) _)

/-- The header of an include keeps the relation. -/
theorem includeHeader : Everywhere related (keywordHeader .includeKw) := by
  intro p
  have ignore : Everywhere related
      (fun q => q.bump.expect (.keyword .missingKw) "Expected 'missing'") := fun q =>
    heading.trans (heading.bump q) (heading.expect _ _ _)
  have ignored := heading.trans (heading.keywordExpression p)
    (heading.ifAt ignore (.keyword .ignoreKw) _)
  exact heading.trans ignored (heading.contextModifier _)

/-- The header of an import keeps the relation. -/
theorem importHeader : Everywhere related (keywordHeader .importKw) := by
  intro p
  have renamed := heading.trans (heading.keywordExpression p)
    (heading.ifAt heading.aliasName (.keyword .asKw) _)
  exact heading.trans renamed (heading.contextModifier _)

/-- The header of an import of names keeps the relation. -/
theorem fromHeader : Everywhere related (keywordHeader .fromKw) := by
  intro p
  have names : Everywhere related (fun q => if q.isAt (.keyword .importKw) then
      Parser.importNames (q.bump.remaining + 1) q.bump
      else q.error .unexpectedToken "Expected 'import'") := fun q =>
    ite (heading.trans (heading.bump q) (heading.importNames _ _)) (heading.error _ _ q)
  have listed := heading.trans (heading.keywordExpression p) (names _)
  exact heading.trans listed (heading.contextModifier _)

/-- The header of a macro keeps the relation. -/
theorem macroHeader : Everywhere related (keywordHeader .macroKw) := by
  intro p
  have named := heading.trans (heading.bump p) (heading.expectName "Expected macro name" _)
  have list : Everywhere related (fun q => if q.isAt (.punctuation .leftParen) then
      Parser.parameterList (nested q.levels) q
      else q.error .unexpectedToken "Expected '('") := fun q =>
    ite (heading.parameterList q) (heading.error _ _ q)
  exact heading.trans named (list _)

/-- The header of a call keeps the relation. -/
theorem callHeader : Everywhere related (keywordHeader .callKw) := by
  intro p
  have list := heading.ifAt heading.parameterList (.punctuation .leftParen)
  exact heading.trans (heading.trans (heading.bump p) (list _)) (heading.expression _)

/-- The header that belongs to a keyword keeps the relation. -/
theorem keywordHeader (keyword : Keyword) :
    Everywhere related (Parser.keywordHeader keyword) := by
  intro p
  have bumped := heading.bump p
  cases keyword with
  | forKw => exact heading.forHeader p
  | setKw => exact heading.setHeader p
  | includeKw => exact heading.includeHeader p
  | importKw => exact heading.importHeader p
  | fromKw => exact heading.fromHeader p
  | macroKw => exact heading.macroHeader p
  | callKw => exact heading.callHeader p
  | withKw | transKw => exact heading.trans bumped (heading.argumentSequence _ _)
  | blockKw =>
    exact heading.trans (heading.trans bumped (heading.expectName _ _)) (heading.skip _ _)
  | pluralizeKw => exact heading.trans bumped (heading.skip _ _)
  | ifKw | elifKw | extendsKw | filterKw | autoescapeKw => exact heading.keywordExpression p
  | elseKw | rawKw => exact bumped
  | _ =>
    dsimp only [Parser.keywordHeader]
    exact ite bumped (heading.generic p)

/-- Every header keeps the relation. -/
theorem header (first : Option TokenKind) : Everywhere related (Parser.header first) := by
  intro p
  unfold Parser.header
  split
  · exact heading.keywordHeader _ p
  · exact heading.generic p

/-- The end of a tag keeps the relation. -/
theorem terminate (terminator : TokenKind) :
    Everywhere related (Parser.terminate terminator) := fun p =>
  ite (heading.bump p) (ite (heading.refl p) (heading.recover _ _ _ p))

/-- What is in a tag keeps the relation. -/
theorem tagContents (first : Option TokenKind) :
    Everywhere related (Parser.tagContents first) := fun p =>
  heading.trans (heading.trans (heading.bump p) (heading.header first _))
    (heading.terminate _ _)

end Heading

namespace Layout

open Steps (ite)

variable {related : Parser → Parser → Prop} (layout : Layout related)

include layout

/-! ### Tags -/

/-- What is skipped up to a token keeps the relation. -/
theorem skipUntil (terminator : TokenKind) :
    Everywhere related (fun p => p.skipUntil terminator) := fun p =>
  ite (layout.refl p) (layout.node rfl (layout.loop layout.bump _))

/-- A list of targets keeps the relation. -/
theorem targetList (message : String) :
    Everywhere related (fun p => p.targetList message) := fun _ =>
  layout.node rfl (layout.targets _ _ _)

/-- Imported names keep the relation. -/
theorem importNames (times : Nat) : Everywhere related (Parser.importNames times) := by
  induction times with
  | zero => exact layout.refl
  | succ times ih =>
    intro p
    have named := layout.expectName "Expected name to import" (p.start .importName)
    refine ite ?_ (layout.node rfl named)
    have renamed (q : Parser) : related q
        (if q.isAt (.keyword .asKw) then (q.bump.expectName "Expected alias name").2 else q) :=
      ite (layout.trans (layout.bump q) (layout.expectName _ _)) (layout.refl q)
    have whole : related p _ := layout.node rfl (layout.trans named (renamed _))
    exact ite (layout.trans (layout.trans whole (layout.bump _)) (ih _)) whole

/-- What stands in a tag is made of the same steps. -/
theorem heading : Heading related where
  toSteps := layout.toSteps
  skipUntil := layout.skipUntil
  targetList := layout.targetList
  importNames := layout.importNames
  expression := layout.expression
  orExpression := layout.orExpression
  tupleOrExpression := layout.tupleOrExpression
  argument := layout.argument
  parameterList := layout.parameterList

/-- A block tag keeps the relation. -/
theorem tag {kind : NodeKind} (outer : kind.isOuter = true) (first : Option TokenKind) :
    Everywhere related (Parser.tag kind first) := fun _ =>
  layout.node outer (layout.heading.tagContents _ _)

/-! ### Content -/

/-- Text keeps the relation. -/
theorem text : Everywhere related Parser.text := fun _ =>
  layout.node rfl (layout.loop layout.bump _)

/-- A variable tag keeps the relation. -/
theorem variableTag : Everywhere related Parser.variableTag := by
  intro p
  have inside := layout.trans (layout.bump (p.start .variableTag)) (layout.expression _)
  exact layout.node rfl
    (layout.trans inside (ite (layout.bump _) (layout.heading.recover _ _ _ _)))

/-- A comment keeps the relation. -/
theorem comment : Everywhere related Parser.comment := by
  intro p
  exact layout.node rfl (layout.trans
    (layout.trans (layout.bump (p.start .comment)) (layout.loop layout.bump _))
    (ite (layout.bump _) (ite (layout.refl _) (layout.error _ _ _))))

/-! ### Bodies -/

section

variable {statement : Step} (each : Everywhere related statement)

include each

/-- An item of content keeps the relation. -/
theorem contentItem : Everywhere related (Parser.contentItem statement) := by
  intro p
  rw [Parser.contentItem]
  split
  · exact each p
  · exact layout.variableTag p
  · exact layout.comment p
  · exact layout.text p
  · exact layout.refl p

/-- A body keeps the relation. -/
theorem body (opener closer : Keyword) (times : Nat) :
    Everywhere related (fun p => (Parser.body statement opener closer times p).2) := by
  induction times with
  | zero => exact layout.refl
  | succ times ih =>
    intro p
    simp only [Parser.body]
    split
    · exact layout.refl p
    · exact layout.trans (layout.contentItem each p) (ih _)

/-- The branches of a body keep the relation. -/
theorem branches (opener closer : Keyword) (times : Nat) (stop : BodyStop) :
    Everywhere related (fun p => (Parser.branches statement opener closer times stop p).2) := by
  induction times generalizing stop with
  | zero => exact layout.refl
  | succ times ih =>
    intro p
    cases stop with
    | branch keyword =>
      have first := layout.heading.tagContents (some (.keyword keyword)) (p.start keyword.node)
      have inside := layout.body each opener closer
        ((Parser.tagContents (some (.keyword keyword)) (p.start keyword.node)).remaining + 1)
        (Parser.tagContents (some (.keyword keyword)) (p.start keyword.node))
      have whole : related p _ :=
        layout.node (isOuter_node keyword) (layout.trans first inside)
      exact layout.trans whole (ih _ _)
    | ended => exact layout.refl p
    | outer => exact layout.refl p
    | exhausted => exact layout.refl p

/-- A statement with a body keeps the relation. -/
theorem bodyStatement (opener closer : Keyword) :
    Everywhere related (Parser.bodyStatement statement opener closer) := by
  intro p
  have opened := layout.heading.tagContents (some (.keyword opener)) (p.start opener.node)
  have closed (stop : BodyStop) (q : Parser) :
      related q (endTag opener closer p.offset stop q) :=
    ite (layout.tag rfl _ q) (layout.errorAt _ _ _ q)
  rw [Parser.bodyStatement]
  dsimp only
  generalize Parser.tagContents (some (.keyword opener)) (p.start opener.node) = q at opened ⊢
  have items : related (q.openBody (.keyword closer)) (Parser.body statement opener closer
      ((q.openBody (.keyword closer)).remaining + 1) (q.openBody (.keyword closer))).2 :=
    layout.body each opener closer _ _
  generalize Parser.body statement opener closer ((q.openBody (.keyword closer)).remaining + 1)
    (q.openBody (.keyword closer)) = found at items ⊢
  have later := layout.branches each opener closer (found.2.remaining + 1) found.1 found.2
  have inside := layout.closeBody (layout.trans items later)
  exact layout.node (isOuter_node opener)
    (layout.trans (layout.trans opened inside) (closed _ _))

end

/-- A statement without a body keeps the relation. -/
theorem plainStatement (first : Option TokenKind) :
    Everywhere related (Parser.plainStatement first) := by
  intro p
  unfold Parser.plainStatement
  split
  next keyword =>
    have named := layout.tag (isOuter_node keyword) (some (.keyword keyword))
    exact ite (layout.trans (layout.error _ _ p) (layout.tag rfl _ _))
      (ite (layout.trans (layout.error _ _ p) (named _)) (named p))
  · exact layout.tag rfl _ p

omit layout in
/-- Statements keep what each level makes of the relation that the next one keeps. -/
theorem statementWithin {related : Nat → Parser → Parser → Prop}
    (layout : ∀ levels, Layout (related levels))
    (ascend : ∀ {levels p q}, related levels p.descend q → related (levels + 1) p q.ascend)
    (levels : Nat) : Everywhere (related levels) (Parser.statementWithin levels) := by
  induction levels with
  | zero =>
    intro p
    rw [Parser.statementWithin]
    split
    next opener _ _ =>
      exact (layout 0).trans ((layout 0).refuse p) ((layout 0).tag (isOuter_node opener) _ _)
    · exact (layout 0).plainStatement _ p
  | succ levels ih =>
    intro p
    rw [Parser.statementWithin]
    split
    · exact ascend ((layout levels).bodyStatement ih _ _ _)
    · exact (layout (levels + 1)).plainStatement _ p

end Layout

namespace Assembly

variable {related : Parser → Parser → Prop} (assembly : Assembly related)

include assembly

/-- A statement within some levels keeps the relation. -/
theorem statementWithin (levels : Nat) :
    Everywhere related (Parser.statementWithin levels) :=
  @Layout.statementWithin (fun _ => related) (fun _ => assembly.toLayout) assembly.ascend levels

/-- An item of a template keeps the relation. -/
theorem item : Everywhere related Parser.item :=
  assembly.contentItem fun p => assembly.statementWithin p.levels p

end Assembly

/-! ### Reading forward -/

/-- The steps read forward that templates are assembled from. -/
theorem assembly_grows : Assembly Grows where
  refl := grows_refl
  trans := Grows.trans
  bump := growing_bump
  errorAt := growing_errorAt
  refuse := growing_refuse
  node _ := grows_node
  ascend := grows_ascend
  closeBody := grows_closeBody
  expression := growing_expression
  orExpression := growing_orExpression
  tupleOrExpression := growing_tupleOrExpression
  argument p := growing_argument (growing_nested p.levels) p
  parameterList p := growing_parameterList (growing_nested p.levels) p

/-- A report with what is skipped after it reads on from everywhere. -/
theorem growing_recover (fault : SyntaxFault) (message : String) (closer : TokenKind) :
    Growing (fun p => ((p.error fault message).skipUntil closer).skip closer) :=
  assembly_grows |>.heading.recover fault message closer

/-- A chain of attribute names reads on from everywhere. -/
theorem growing_attributeNames (times : Nat) : Growing (attributeNames times) :=
  assembly_grows |>.attributeNames times

/-- An optional step reads on from everywhere. -/
theorem growing_ifAt {step : Step} (each : Growing step) (kind : TokenKind) :
    Growing (fun p => if p.isAt kind then step p else p) := assembly_grows |>.ifAt each kind

/-- An alias reads on from everywhere. -/
theorem growing_alias : Growing (fun p => (p.bump.expectName "Expected alias name").2) :=
  assembly_grows |>.aliasName

/-- Every header reads on from everywhere. -/
theorem growing_header (first : Option TokenKind) : Growing (header first) :=
  assembly_grows |>.heading.header first

/-- The end of a tag reads on from everywhere. -/
theorem growing_terminate (terminator : TokenKind) : Growing (terminate terminator) :=
  assembly_grows |>.heading.terminate terminator

/-- A block tag reads on from everywhere. -/
theorem growing_tag {kind : NodeKind} (outer : kind.isOuter = true) (first : Option TokenKind) :
    Growing (tag kind first) := assembly_grows |>.tag outer first

/-- A body reads on from everywhere. -/
theorem growing_body {statement : Step} (each : Growing statement) (opener closer : Keyword)
    (times : Nat) : Growing (fun p => (body statement opener closer times p).2) :=
  assembly_grows |>.body each opener closer times

/-- The branches of a body read on from everywhere. -/
theorem growing_branches {statement : Step} (each : Growing statement) (opener closer : Keyword)
    (times : Nat) (stop : BodyStop) :
    Growing (fun p => (branches statement opener closer times stop p).2) :=
  assembly_grows |>.branches each opener closer times stop

/-- A statement within some levels reads on from everywhere. -/
theorem growing_statementWithin (levels : Nat) : Growing (statementWithin levels) :=
  assembly_grows |>.statementWithin levels

/-- An item of a template reads on from everywhere. -/
theorem growing_item : Growing item := assembly_grows |>.item

end Parser
end Stencil
