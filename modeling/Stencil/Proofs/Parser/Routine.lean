import Stencil.Proofs.Containment.Expression
import Stencil.Proofs.Parser.Answers
import Stencil.Proofs.Parser.History
/-!
# What headers and expressions are made of

Whatever stands in a tag is read by the same few steps: written tokens are taken, nodes of certain
kinds are opened and closed, and what is missing is reported. A relation between an earlier and a
later parser that each of these steps keeps is a `Phrasing`, and every production keeps it too. If
it is kept down a level and up again it is a `Routine`, which expressions and headers keep
(`Routine.expression`, `Routine.header`), so that later statements about what lies in a tag need to
be shown for the steps only. Where the relation depends on the levels that are left,
`Phrasing.nested` goes from each to the next.
-/

namespace Stencil

/-- The kinds of the tokens that expressions and headers are written with. -/
def TokenKind.isWritten : TokenKind → Bool
  | .keyword _ | .operator _ | .punctuation _ | .literal _ | .identifier => true
  | _ => false

/-- The kinds of the nodes that stand in a tag: parts of statements and expressions. -/
def NodeKind.isPart : NodeKind → Bool
  | .template | .text | .comment | .variableTag | .error => false
  | kind => !kind.isStatement

namespace Parser

/-- Where some token satisfies a condition there is that token. -/
theorem exists_of_any {α : Type} {found : Option α} {holds : α → Bool}
    (some : found.any holds = true) : ∃ x, found = Option.some x ∧ holds x = true := by
  cases found with
  | none => contradiction
  | some x => exact ⟨x, rfl, some⟩

/-- A relation that the steps keep which the productions of expressions are made of. -/
structure Phrasing (related : Parser → Parser → Prop) : Prop where
  refl (p : Parser) : related p p
  trans {o p q : Parser} (before : related o p) (after : related p q) : related o q
  skipSpace (p : Parser) : related p p.skipSpace
  bump {p : Parser} {kind : TokenKind} (here : p.current? = some kind)
    (written : kind.isWritten = true) : related p p.bump
  error (p : Parser) {fault : SyntaxFault} {message : String}
    (own : fault.isMismatch message = false) : related p (p.error fault message)
  refuse (p : Parser) : related p p.refuse
  placeholder (p : Parser) : related p p.placeholder
  node {p q : Parser} {kind : NodeKind} (part : kind.isPart = true)
    (inside : related (p.start kind) q) : related p q.finish
  around {o p q : Parser} (kind : NodeKind) (part : kind.isPart = true) (before : related o p)
    (after : related (p.startAt o.builder.checkpoint kind) q) : related o q.finish

/-- A relation that the steps keep which headers and expressions are made of, down a level and up
again too. -/
structure Routine (related : Parser → Parser → Prop) : Prop extends Phrasing related where
  ascend {p q : Parser} (inside : related p.descend q) : related p q.ascend

namespace Phrasing

variable {related : Parser → Parser → Prop} (phrasing : Phrasing related) {p : Parser}

include phrasing

/-! ### Small steps -/

omit phrasing in
/-- A choice keeps what both alternatives keep. -/
theorem related_ite {o left right : Parser} {test : Prop} [Decidable test]
    (yes : test → related o left) (no : ¬test → related o right) :
    related o (if test then left else right) := by
  by_cases holds : test
  · rw [if_pos holds]
    exact yes holds
  · rw [if_neg holds]
    exact no holds

/-- A loop keeps what each round keeps. -/
theorem loop {o : Parser} {test : Parser → Bool} {body : Step} (first : related o p)
    (round : ∀ q, related o q → test q = true → related q (body q)) :
    related o (p.loop test body) :=
  loop_keeps (fun q before goes => phrasing.trans before (round q before goes)) first

/-- A token of a written kind is taken. -/
theorem take {kind : TokenKind} (here : p.isAt kind = true) (written : kind.isWritten = true) :
    related p p.bump := phrasing.bump ((isAt_iff p kind).1 here) written

/-- A node around an operand goes on with a token of a written kind. -/
theorem further {token : TokenKind} (checkpoint : Checkpoint) (kind : NodeKind)
    (here : p.isAt token = true) (written : token.isWritten = true) :
    related (p.startAt checkpoint kind) (p.startAt checkpoint kind).bump :=
  phrasing.take (p := p.startAt checkpoint kind) here written

/-- A token of one of some written kinds is taken. -/
theorem takeAny (kinds : List TokenKind) (here : p.atAny kinds = true)
    (written : ∀ kind ∈ kinds, kind.isWritten = true) : related p p.bump := by
  cases current : p.current? with
  | none =>
    rw [atAny, current] at here
    contradiction
  | some kind =>
    rw [atAny, current, Option.any_some, List.contains_iff_mem] at here
    exact phrasing.bump current (written kind here)

/-- An optional token keeps the relation. -/
theorem skip (p : Parser) {kind : TokenKind} (written : kind.isWritten = true) :
    related p (p.skip kind) := by
  rw [skip_eq]
  exact related_ite (fun here => phrasing.take here written) fun _ => phrasing.refl p

/-- A bracket that closes keeps the relation. -/
theorem expectCloser (p : Parser) {closer : TokenKind} (written : closer.isWritten = true)
    (message : String) : related p (p.expectCloser closer message) :=
  related_ite (fun here => phrasing.take here written) fun _ => phrasing.error p rfl

/-- An expected token keeps the relation. -/
theorem expect (p : Parser) (kind : TokenKind) (written : kind.isWritten = true)
    (message : String) (own : SyntaxFault.isMismatch .unexpectedToken message = false) :
    related p (p.expect kind message) :=
  related_ite (fun here => phrasing.take here written) fun _ => phrasing.error p own

/-- An expected name keeps the relation. -/
theorem expectName (p : Parser) (message : String) : related p (p.expectName message).2 := by
  rw [expectName_eq]
  exact related_ite (fun here => phrasing.take here rfl) fun _ => phrasing.error p rfl

/-- A node that begins with a token of a written kind. -/
theorem opening (kind : NodeKind) {token : TokenKind} (here : p.current? = some token)
    (written : token.isWritten = true) : related (p.start kind) (p.start kind).bump :=
  phrasing.bump ((current?_start p kind).trans here) written

/-- A token alone in a node keeps the relation. -/
theorem single {kind : NodeKind} {token : TokenKind} (here : p.current? = some token)
    (written : token.isWritten = true) (part : kind.isPart = true) :
    related p (p.single kind) := phrasing.node part (phrasing.opening kind here written)

/-! ### Lists and groups -/

/-- A list with separators keeps the relation. -/
theorem items {item : Step} (each : ∀ q, related q (item q)) {closer : TokenKind}
    (message : String) (times : Nat) (p : Parser) :
    related p (items item closer message times p) := by
  induction times generalizing p with
  | zero => exact phrasing.refl p
  | succ times ih =>
    have first := each p
    refine related_ite (fun comma => ?_) fun _ => related_ite (fun _ => first) fun _ => ?_
    · have past := phrasing.trans first (phrasing.take comma rfl)
      exact related_ite (fun _ => past) fun _ => phrasing.trans past (ih _)
    · exact phrasing.trans first (phrasing.error _ rfl)

/-- A node of brackets around a list. -/
theorem brackets {kind : NodeKind} {opener : TokenKind} (closer : TokenKind) (message : String)
    (list : Step) (here : p.current? = some opener) (written : opener.isWritten = true)
    (closes : closer.isWritten = true) (part : kind.isPart = true)
    (lists : ∀ q, related q (list q)) :
    related p (Parser.finish (Parser.expectCloser
      (if (p.start kind).bump.isAt closer then (p.start kind).bump else list (p.start kind).bump)
      closer message)) := by
  have opened := phrasing.opening kind here written
  generalize (p.start kind).bump = q at opened ⊢
  have inside : related q (if q.isAt closer then q else list q) :=
    related_ite (fun _ => phrasing.refl q) fun _ => lists q
  exact phrasing.node part
    (phrasing.trans (phrasing.trans opened inside) (phrasing.expectCloser _ closes message))

/-- A bracketed group keeps the relation. -/
theorem group {kind : NodeKind} {item : Step} (each : ∀ q, related q (item q))
    {opener : TokenKind} {closer : Punctuation} (separator bracket : String)
    (here : p.current? = some opener) (written : opener.isWritten = true)
    (part : kind.isPart = true) : related p (p.group kind item closer separator bracket) := by
  rw [Parser.group]
  exact phrasing.brackets (.punctuation closer) bracket
    (fun q => Parser.items item (.punctuation closer) separator (q.remaining + 1) q) here written
    rfl part fun q => phrasing.items each separator (q.remaining + 1) q

/-- Further items keep the relation. -/
theorem moreItems {item : Step} (each : ∀ q, related q (item q)) (ends : Parser → Bool)
    (times : Nat) (p : Parser) : related p (moreItems item ends times p) := by
  induction times generalizing p with
  | zero => exact phrasing.refl p
  | succ times ih =>
    refine related_ite (fun comma => ?_) fun _ => phrasing.refl p
    have past := phrasing.take comma rfl
    exact related_ite (fun _ => past) fun _ =>
      phrasing.trans past (phrasing.trans (each _) (ih _))

section

variable {inner : Inner} (nested : ∀ which q, related q (inner which q))

include nested

/-- An argument keeps the relation. -/
theorem argument (p : Parser) : related p (argument inner p) := by
  refine related_ite (fun named => ?_) fun _ => nested .expression p
  have sees : ((p.start .keywordArgument).isAt .identifier &&
      decide ((p.start .keywordArgument).nth? 1 = some (.operator .assign))) = true := by
    rw [isAt_start, (sees_start p .keywordArgument).next?]
    exact named
  have name := phrasing.take (Bool.and_eq_true_iff.1 sees).1 rfl
  have sign := phrasing.take (isAt_bump sees) rfl
  exact phrasing.node rfl (phrasing.trans (phrasing.trans name sign) (nested .expression _))

/-- A list of arguments keeps the relation. -/
theorem argumentList (here : p.current? = some (.punctuation .leftParen)) :
    related p (argumentList inner p) :=
  phrasing.group (phrasing.argument nested) _ _ here rfl rfl

/-- Parameters keep the relation. -/
theorem parameters (times : Nat) (p : Parser) : related p (parameters inner times p) := by
  induction times generalizing p with
  | zero => exact phrasing.refl p
  | succ times ih =>
    refine related_ite (fun named => ?_) fun _ => phrasing.error p rfl
    have name := phrasing.opening .parameter ((isAt_iff p _).1 named) rfl
    have whole : related p (Parser.finish
        (if (p.start .parameter).bump.isAt (.operator .assign) then
          inner .expression (p.start .parameter).bump.bump
        else (p.start .parameter).bump)) :=
      phrasing.node rfl (phrasing.trans name (related_ite
        (fun sign => phrasing.trans (phrasing.take sign rfl) (nested .expression _))
        fun _ => phrasing.refl _))
    dsimp only
    generalize Parser.finish (if (p.start .parameter).bump.isAt (.operator .assign) then
      inner .expression (p.start .parameter).bump.bump
      else (p.start .parameter).bump) = q at whole ⊢
    refine related_ite (fun comma => ?_) fun _ => related_ite (fun _ => whole) fun _ => ?_
    · have past := phrasing.trans whole (phrasing.take comma rfl)
      exact related_ite (fun _ => past) fun _ => phrasing.trans past (ih _)
    · exact phrasing.trans whole (phrasing.error _ rfl)

/-- A list of parameters keeps the relation. -/
theorem parameterList (here : p.current? = some (.punctuation .leftParen)) :
    related p (parameterList inner p) := by
  rw [Parser.parameterList]
  exact phrasing.brackets (.punctuation .rightParen) "Expected ')'"
    (fun q => Parser.parameters inner (q.remaining + 1) q) here rfl rfl rfl
    fun q => phrasing.parameters nested (q.remaining + 1) q

/-! ### Atoms and what follows them -/

/-- An entry of a dictionary keeps the relation. -/
theorem dictEntry (p : Parser) : related p (dictEntry inner p) :=
  phrasing.node rfl (phrasing.trans (nested .expression _) (related_ite
    (fun colon => phrasing.trans (phrasing.take colon rfl) (nested .expression _))
    fun _ => phrasing.error _ (by decide)))

/-- An expression in parentheses keeps the relation. -/
theorem parenthesized (here : p.current? = some (.punctuation .leftParen)) :
    related p (parenthesized inner p) := by
  have opened := phrasing.bump ((sees_skipSpace p).current?.trans here) rfl
  have first := phrasing.trans opened (nested .expression _)
  refine phrasing.trans (phrasing.skipSpace p) ?_
  rw [Parser.parenthesized, checkpoint]
  dsimp only
  generalize p.skipSpace.bump = q at opened first ⊢
  refine related_ite (fun closed => ?_) fun _ => ?_
  · exact phrasing.around .tupleLiteral rfl opened (phrasing.further _ _ closed rfl)
  · generalize inner .expression q = r at first ⊢
    split
    · exact phrasing.around .tupleLiteral rfl first (phrasing.trans
        (phrasing.moreItems (nested .expression) _ _ _) (phrasing.expectCloser _ rfl _))
    · exact phrasing.around .parenthesizedExpression rfl first
        (phrasing.expectCloser _ rfl _)

omit nested in
/-- String literals side by side keep the relation. -/
theorem strings (p : Parser) : related p p.strings :=
  phrasing.node rfl (phrasing.loop (phrasing.refl _) fun _ _ here => phrasing.take here rfl)

/-- An atom keeps the relation. -/
theorem atom (p : Parser) : related p (atom inner p).2 := by
  simp only [Parser.atom]
  split
  next here => exact phrasing.single here rfl rfl
  · exact phrasing.strings p
  next here => exact phrasing.single here rfl rfl
  next here => exact phrasing.single here rfl rfl
  next here => exact phrasing.single here rfl rfl
  next here => exact phrasing.single here rfl rfl
  next here => exact phrasing.single here rfl rfl
  next here => exact phrasing.parenthesized nested here
  next here => exact phrasing.group (nested .expression) _ _ here rfl rfl
  next here => exact phrasing.group (phrasing.dictEntry nested) _ _ here rfl rfl
  · exact phrasing.placeholder p

/-- An attribute, a subscript or a call around an operand. -/
theorem postfixStep {o : Parser} (operand : related o p) (follows : p.atPostfix = true) :
    related o (postfixStep inner o.builder.checkpoint p) := by
  refine related_ite (fun dot => ?_) fun noDot => related_ite (fun bracket => ?_)
    fun noBracket => ?_
  · refine phrasing.around .attributeAccess rfl operand
      (phrasing.trans (phrasing.further _ _ dot rfl) (related_ite (fun named => ?_)
        fun _ => phrasing.error _ rfl))
    obtain ⟨kind, current, name⟩ := exists_of_any named
    exact phrasing.bump current (by cases kind <;> first | rfl | contradiction)
  · exact phrasing.around .subscriptAccess rfl operand (phrasing.trans
      (phrasing.trans (phrasing.further _ _ bracket rfl) (nested .expression _))
      (phrasing.expectCloser _ rfl _))
  · exact phrasing.around .functionCall rfl operand
      (phrasing.argumentList nested (p := p.startAt _ _)
        ((isAt_iff p _).1 (isAt_leftParen follows noDot noBracket)))

/-- A primary expression keeps the relation. -/
theorem primary (p : Parser) : related p (primary inner p) := by
  have operand := phrasing.atom nested p.skipSpace
  refine phrasing.trans (phrasing.skipSpace p) (related_ite (fun _ => ?_) fun _ => operand)
  exact loop_keeps (fun q before follows => phrasing.postfixStep nested before follows) operand

/-- A filter around an operand. -/
theorem filterStep {o : Parser} (operand : related o p)
    (follows : p.isAt (.operator .pipe) = true) :
    related o (filterStep inner o.builder.checkpoint p) := by
  refine phrasing.around .filterExpression rfl operand (phrasing.trans
    (phrasing.further _ _ follows rfl)
    (related_ite (fun named => ?_) fun _ => phrasing.error _ rfl))
  exact phrasing.trans (phrasing.take named rfl) (related_ite
    (fun call => phrasing.argumentList nested ((isAt_iff _ _).1 call)) fun _ => phrasing.refl _)

/-- An operand with filters keeps the relation. -/
theorem filtered (p : Parser) : related p (filtered inner p) := by
  have operand := phrasing.primary nested p.skipSpace
  exact phrasing.trans (phrasing.skipSpace p)
    (loop_keeps (fun q before follows => phrasing.filterStep nested before follows) operand)

/-! ### Operators -/

omit nested in
/-- Operands with operators of one precedence keep the relation. -/
theorem leftGrouped {operand : Step} (each : ∀ q, related q (operand q)) {kind : NodeKind}
    (part : kind.isPart = true) {operators : List TokenKind}
    (written : ∀ operator ∈ operators, operator.isWritten = true) (p : Parser) :
    related p (leftGrouped kind operators operand p) := by
  have first := each p.skipSpace
  refine phrasing.trans (phrasing.skipSpace p) (loop_keeps (fun q before here => ?_) first)
  exact phrasing.around _ part before
    (phrasing.trans (phrasing.takeAny (p := q.startAt _ _) _ here written) (each _))

/-- A factor keeps the relation. -/
theorem factor (p : Parser) : related p (factor inner p) := by
  refine related_ite (fun sign => ?_) fun _ => ?_
  · have opened : related (p.start .unaryExpression) (p.start .unaryExpression).bump := by
      refine phrasing.takeAny [.operator .minus, .operator .plus] ?_ (by decide)
      rw [atAny, current?_start]
      exact sign
    exact phrasing.node rfl (phrasing.trans opened (nested .factor _))
  · have operand := phrasing.filtered nested p.skipSpace
    exact phrasing.trans (phrasing.skipSpace p) (related_ite (fun power =>
      phrasing.around .powerExpression rfl operand
        (phrasing.trans (phrasing.further _ _ power rfl) (nested .factor _))) fun _ => operand)

/-- A product keeps the relation. -/
theorem product (p : Parser) : related p (product inner p) :=
  phrasing.leftGrouped (nested .factor) rfl (by decide) p

/-- A sum keeps the relation. -/
theorem sum (p : Parser) : related p (sum inner p) :=
  phrasing.leftGrouped (phrasing.product nested) rfl (by decide) p

/-- A comparison keeps the relation. -/
theorem comparison (p : Parser) : related p (comparison inner p) := by
  have operand := phrasing.sum nested p.skipSpace
  have other := phrasing.sum nested
  refine phrasing.trans (phrasing.skipSpace p) ?_
  rw [Parser.comparison, checkpoint]
  dsimp only
  generalize Parser.sum inner p.skipSpace = q at operand ⊢
  refine related_ite (fun compares => ?_) fun _ =>
    related_ite (fun negated => ?_) fun _ => related_ite (fun tests => ?_) fun _ => operand
  · obtain ⟨kind, current, compares⟩ := exists_of_any compares
    have written : kind.isWritten = true := by
      cases kind <;> first | rfl | simp [TokenKind.isComparison] at compares
    exact phrasing.around .comparisonExpression rfl operand
      (phrasing.trans (phrasing.bump (p := q.startAt _ _) current written) (other _))
  · have first := phrasing.further p.skipSpace.builder.checkpoint
      .comparisonExpression (Bool.and_eq_true_iff.1 negated).1 rfl
    have second := phrasing.take (isAt_bump (p := q.startAt p.skipSpace.builder.checkpoint
      .comparisonExpression) negated) rfl
    exact phrasing.around _ rfl operand (phrasing.trans (phrasing.trans first second) (other _))
  · exact phrasing.around .testExpression rfl operand (phrasing.trans
      (phrasing.trans (phrasing.further _ _ tests rfl) (phrasing.skip _ rfl)) (other _))

/-- A negation keeps the relation. -/
theorem negation (p : Parser) : related p (negation inner p) := by
  refine related_ite (fun negated => ?_) fun _ => phrasing.comparison nested p
  exact phrasing.node rfl (phrasing.trans
    (phrasing.opening .notExpression ((isAt_iff p _).1 negated) rfl) (nested .negation _))

/-- A conjunction keeps the relation. -/
theorem conjunction (p : Parser) : related p (conjunction inner p) :=
  phrasing.leftGrouped (phrasing.negation nested) rfl (by decide) p

/-- A disjunction keeps the relation. -/
theorem disjunction (p : Parser) : related p (disjunction inner p) :=
  phrasing.leftGrouped (phrasing.conjunction nested) rfl (by decide) p

/-- A conditional expression keeps the relation. -/
theorem conditional (p : Parser) : related p (conditional inner p) := by
  have operand := phrasing.disjunction nested p.skipSpace
  refine phrasing.trans (phrasing.skipSpace p) ?_
  rw [Parser.conditional, checkpoint]
  dsimp only
  generalize Parser.disjunction inner p.skipSpace = q at operand ⊢
  refine related_ite (fun tests => ?_) fun _ => operand
  have condition := phrasing.trans (phrasing.further p.skipSpace.builder.checkpoint
      .conditionalExpression tests rfl) (phrasing.disjunction nested _)
  exact phrasing.around _ rfl operand (phrasing.trans condition (related_ite
    (fun other => phrasing.trans (phrasing.take other rfl) (nested .expression _))
    fun _ => phrasing.refl _))

end

/-- A tuple without parentheses keeps what expressions keep. -/
theorem tupleOrExpression (each : ∀ q : Parser, related q q.expression) (p : Parser) :
    related p p.tupleOrExpression := by
  have operand := each p.skipSpace
  refine phrasing.trans (phrasing.skipSpace p) (related_ite (fun _ => ?_) fun _ => operand)
  exact phrasing.around .tupleLiteral rfl operand (phrasing.moreItems each _ _ _)

omit phrasing in
/-- The nested productions keep what each level makes of the relation that the next one keeps. -/
theorem nested {related : Nat → Parser → Parser → Prop}
    (phrasing : ∀ levels, Phrasing (related levels))
    (ascend : ∀ {levels p q}, related levels p.descend q → related (levels + 1) p q.ascend)
    (levels : Nat) (which : Nested) (p : Parser) : related levels p (nested levels which p) := by
  induction levels generalizing which p with
  | zero => exact (phrasing 0).trans ((phrasing 0).refuse p) ((phrasing 0).placeholder _)
  | succ levels ih =>
    apply ascend
    cases which with
    | expression => exact (phrasing levels).conditional ih _
    | disjunction => exact (phrasing levels).disjunction ih _
    | negation => exact (phrasing levels).negation ih _
    | factor => exact (phrasing levels).factor ih _

end Phrasing

namespace Routine

open Phrasing (related_ite)

variable {related : Parser → Parser → Prop} (routine : Routine related) {p : Parser}

include routine

/-- The nested productions keep the relation with any number of levels left. -/
theorem nested (levels : Nat) (which : Nested) (p : Parser) :
    related p (nested levels which p) :=
  @Phrasing.nested (fun _ => related) (fun _ => routine.toPhrasing) routine.ascend levels which p

/-- An expression keeps the relation. -/
theorem expression (p : Parser) : related p p.expression := routine.nested p.levels .expression p

/-- An expression without a condition keeps the relation. -/
theorem orExpression (p : Parser) : related p p.orExpression :=
  routine.nested p.levels .disjunction p

/-- A tuple or an expression keeps the relation. -/
theorem tupleOrExpression (p : Parser) : related p p.tupleOrExpression :=
  routine.toPhrasing.tupleOrExpression routine.expression p

/-! ### Headers -/

/-- A chain of attribute names keeps the relation. -/
theorem attributeNames (times : Nat) (p : Parser) : related p (attributeNames times p) := by
  induction times generalizing p with
  | zero => exact routine.refl p
  | succ times ih =>
    refine related_ite (fun dot => ?_) fun _ => routine.refl p
    have named := routine.trans (routine.take dot rfl)
      (routine.expectName _ "Expected attribute name")
    exact related_ite (fun _ => routine.trans named (ih _)) fun _ => named

/-- Assignment targets keep the relation. -/
theorem targets (message : String) (times : Nat) (p : Parser) :
    related p (targets message times p) := by
  induction times generalizing p with
  | zero => exact routine.refl p
  | succ times ih =>
    have named := routine.expectName p message
    refine related_ite (fun _ => ?_) fun _ => named
    have whole := routine.trans named
      (routine.attributeNames (p.expectName message).2.remaining (p.expectName message).2)
    exact related_ite (fun comma =>
      routine.trans (routine.trans whole (routine.take comma rfl)) (ih _)) fun _ => whole

/-- A list of targets keeps the relation. -/
theorem targetList (message : String) (p : Parser) : related p (p.targetList message) :=
  routine.node rfl (routine.targets message _ _)

/-- Arguments in a row keep the relation. -/
theorem argumentSequence (times : Nat) (p : Parser) : related p (argumentSequence times p) := by
  induction times generalizing p with
  | zero => exact routine.refl p
  | succ times ih =>
    refine related_ite (fun _ => routine.refl p) fun _ => ?_
    have first := routine.argument (routine.nested p.levels) p
    exact related_ite (fun comma =>
      routine.trans (routine.trans first (routine.take comma rfl)) (ih _)) fun _ => first

/-- An alias, where there is one. -/
theorem aliasAt (p : Parser) : related p (if p.isAt (.keyword .asKw) then
    (p.bump.expectName "Expected alias name").2 else p) :=
  related_ite (fun here => routine.trans (routine.take here rfl) (routine.expectName _ _))
    fun _ => routine.refl p

/-- Imported names keep the relation. -/
theorem importNames (times : Nat) (p : Parser) : related p (importNames times p) := by
  induction times generalizing p with
  | zero => exact routine.refl p
  | succ times ih =>
    have named := routine.expectName (p.start .importName) "Expected name to import"
    refine related_ite (fun _ => ?_) fun _ => routine.node rfl named
    have part : NodeKind.importName.isPart = true := rfl
    have whole := routine.node part (routine.trans named (routine.aliasAt _))
    exact related_ite (fun comma =>
      routine.trans (routine.trans whole (routine.take comma rfl)) (ih _)) fun _ => whole

/-- A context modifier keeps the relation. -/
theorem contextModifier (p : Parser) : related p p.contextModifier :=
  related_ite (fun here => routine.trans (routine.takeAny _ here (by decide))
    (routine.expect _ _ rfl _ (by decide))) fun _ => routine.refl p

/-- The tokens of a tag with no form of its own keep the relation. -/
theorem generic (p : Parser) : related p p.generic := by
  have first : related p (if p.current?.any TokenKind.isKeyword then p.bump else p) := by
    refine related_ite (fun here => ?_) fun _ => routine.refl p
    obtain ⟨kind, current, keyword⟩ := exists_of_any here
    exact routine.bump current (by cases kind <;> first | rfl | contradiction)
  exact routine.loop first fun q _ _ => related_ite (fun comma => routine.take comma rfl)
    fun _ => routine.expression q

/-- A keyword and an expression, where the keyword stands. -/
theorem clause {keyword : Keyword} (p : Parser) :
    related p (if p.isAt (.keyword keyword) then p.bump.expression else p) :=
  related_ite (fun here => routine.trans (routine.take here rfl) (routine.expression _))
    fun _ => routine.refl p

/-- The header that belongs to a keyword keeps the relation. -/
theorem keywordHeader {keyword : Keyword} (here : p.current? = some (.keyword keyword)) :
    related p (keywordHeader keyword p) := by
  have taken : related p p.bump := routine.bump here rfl
  have operand := routine.trans taken (routine.expression _)
  cases keyword with
  | forKw =>
    have targets := routine.trans taken (routine.targetList "Expected loop variable" _)
    have joined := routine.trans targets (routine.expect _ (.keyword .inKw) rfl
      "Expected 'in'" (by decide))
    have iterable := routine.trans joined (routine.orExpression _)
    exact routine.trans (routine.trans iterable (routine.clause _)) (routine.skip _ rfl)
  | setKw =>
    have targets := routine.trans taken (routine.targetList "Expected variable name" _)
    exact routine.trans targets (related_ite (fun sign =>
      routine.trans (routine.take sign rfl) (routine.tupleOrExpression _)) fun _ => routine.refl _)
  | includeKw =>
    refine routine.trans (routine.trans operand ?_) (routine.contextModifier _)
    exact related_ite (fun ignore => routine.trans (routine.take ignore rfl)
      (routine.expect _ _ rfl _ (by decide))) fun _ => routine.refl _
  | importKw =>
    exact routine.trans (routine.trans operand (routine.aliasAt _)) (routine.contextModifier _)
  | fromKw =>
    refine routine.trans (routine.trans operand ?_) (routine.contextModifier _)
    exact related_ite (fun imports => routine.trans (routine.take imports rfl)
      (routine.importNames _ _)) fun _ => routine.error _ (by decide)
  | macroKw =>
    have named := routine.trans taken (routine.expectName _ "Expected macro name")
    exact routine.trans named (related_ite (fun list =>
      routine.parameterList (routine.nested _) ((isAt_iff _ _).1 list)) fun _ =>
      routine.error _ (by decide))
  | callKw =>
    refine routine.trans (routine.trans taken ?_) (routine.expression _)
    exact related_ite (fun list => routine.parameterList (routine.nested _)
      ((isAt_iff _ _).1 list)) fun _ => routine.refl _
  | withKw | transKw => exact routine.trans taken (routine.argumentSequence _ _)
  | blockKw =>
    exact routine.trans (routine.trans taken (routine.expectName _ _)) (routine.skip _ rfl)
  | pluralizeKw => exact routine.trans taken (routine.skip _ rfl)
  | ifKw | elifKw | extendsKw | filterKw | autoescapeKw => exact operand
  | elseKw | rawKw => exact taken
  | _ =>
    dsimp only [Parser.keywordHeader]
    exact related_ite (fun _ => taken) fun _ => routine.generic p

/-- The header that the current token calls for keeps the relation. -/
theorem header (p : Parser) : related p (header p.current? p) := by
  unfold Parser.header
  split
  next here => exact routine.keywordHeader here
  · exact routine.generic p

end Routine
end Parser
end Stencil
