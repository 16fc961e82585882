import Mathlib.Data.List.Chain
import Stencil.Proofs.Parser.Accesses
import Stencil.Proofs.Parser.Answers
import Stencil.Proofs.Parser.Coverage
import Stencil.Proofs.Parser.Statements
import Stencil.Proofs.Tree.Height
/-!
# The limit on nesting bounds the levels of a tree

Every descent of the parser adds a few levels to the tree at most: six of them in an expression, one
for each precedence, and two in a statement, one for its branch. What is put around an operand in a
loop adds none. So the levels of a tree are bounded by the limit on nesting (`parse_levels_le`),
though its ways down are not: those along a chain are as long as the source.
-/

namespace Stencil
namespace Parser

/-- The later parser has read shapes of so many levels at most. -/
def Climbs (levels : Nat) (earlier later : Parser) : Prop :=
  ∃ shapes, earlier.Reads later shapes ∧ Shape.levelsAll shapes ≤ levels

/-- The later parser has read one node at most, of so many levels at most. -/
def Stands (levels : Nat) (earlier later : Parser) : Prop :=
  ∃ shapes, earlier.Reads later shapes ∧ Shape.levelsAll shapes ≤ levels ∧
    shapes.countP Shape.isNode ≤ 1

variable {levels more : Nat} {o p q r : Parser}

/-! ### Small steps -/

/-- Tokens climb no level. -/
theorem climbs_of_tokens (start count : Nat) (reads : p.Reads q (Shape.tokens start count)) :
    Climbs levels p q :=
  ⟨_, reads, Nat.le_trans (Nat.le_of_eq (Shape.levelsAll_tokens start count)) (Nat.zero_le _)⟩

/-- Without a step no level is climbed. -/
theorem climbs_refl (p : Parser) : Climbs levels p p := climbs_of_tokens 0 0 p.reads_refl

/-- What climbs after one another climbs no higher than the higher of both. -/
theorem Climbs.trans (before : Climbs levels o p) (after : Climbs levels p q) :
    Climbs levels o q := by
  obtain ⟨left, reading, low⟩ := before
  obtain ⟨right, further, small⟩ := after
  refine ⟨left ++ right, reading.trans further, ?_⟩
  rw [Shape.levelsAll_append]
  exact Nat.max_le.2 ⟨low, small⟩

/-- What climbs so many levels at most climbs no more than a greater number. -/
theorem Climbs.mono (climbs : Climbs levels p q) (enough : levels ≤ more) : Climbs more p q := by
  obtain ⟨shapes, reading, low⟩ := climbs
  exact ⟨shapes, reading, Nat.le_trans low enough⟩

/-- One node of so many levels climbs no more. -/
theorem Stands.climbs (stands : Stands levels p q) : Climbs levels p q := by
  obtain ⟨shapes, reading, low, -⟩ := stands
  exact ⟨shapes, reading, low⟩

/-- One node of so many levels at most has no more than a greater number. -/
theorem Stands.mono (stands : Stands levels p q) (enough : levels ≤ more) : Stands more p q := by
  obtain ⟨shapes, reading, low, one⟩ := stands
  exact ⟨shapes, reading, Nat.le_trans low enough, one⟩

/-- What is read without a level is no node. -/
theorem Climbs.next (before : Climbs 0 o p) (after : Stands levels p q) : Stands levels o q := by
  obtain ⟨left, reading, none⟩ := before
  obtain ⟨right, further, low, one⟩ := after
  have none := Nat.le_zero.1 none
  refine ⟨left ++ right, reading.trans further, ?_, ?_⟩
  · rwa [Shape.levelsAll_append, none, Nat.zero_max]
  · rwa [List.countP_append, Shape.levelsAll_eq_zero_iff.1 none, Nat.zero_add]

/-- White space climbs no level. -/
theorem climbs_skipSpace (p : Parser) : Climbs levels p p.skipSpace :=
  climbs_of_tokens _ _ p.reads_skipSpace

/-- Tokens and reports add no level. -/
theorem steps_climbs (levels : Nat) : Steps (Climbs levels) where
  refl := climbs_refl
  trans := Climbs.trans
  bump p := by
    have spaced : Climbs levels p p.skipSpace := climbs_skipSpace p
    simp only [Parser.bump]
    split
    next inside => exact spaced.trans (climbs_of_tokens _ 1 (reads_take inside))
    · exact spaced
  errorAt offset fault message p := by
    simp only [Parser.errorAt]
    split <;> exact climbs_of_tokens 0 0 (reads_of_same rfl rfl rfl rfl rfl rfl)

/-- A token climbs no level. -/
theorem climbs_bump (p : Parser) : Climbs levels p p.bump := (steps_climbs levels).bump p

/-- A report climbs no level. -/
theorem climbs_error (fault : SyntaxFault) (message : String) (p : Parser) :
    Climbs levels p (p.error fault message) := (steps_climbs levels).error fault message p

/-- A refused level climbs no level. -/
theorem climbs_refuse (p : Parser) : Climbs levels p p.refuse := by
  rw [refuse]
  split
  · exact climbs_refl p
  · have marked : Climbs levels p { p with depthReported := true } :=
      climbs_of_tokens 0 0 (reads_of_same rfl rfl rfl rfl rfl rfl)
    exact marked.trans (climbs_error _ _ _)

/-- A bracket that closes climbs no level. -/
theorem climbs_expectCloser (closer : TokenKind) (message : String) (p : Parser) :
    Climbs levels p (p.expectCloser closer message) :=
  Steps.ite (climbs_bump p) (climbs_error _ _ p)

/-! ### Nodes -/

/-- A node adds a level. -/
theorem stands_node (kind : NodeKind) (inside : Climbs levels (p.start kind) q) :
    Stands (levels + 1) p q.finish := by
  obtain ⟨shapes, reading, low⟩ := inside
  refine (climbs_skipSpace p).next ⟨[.node kind shapes], reads_node reading, ?_, Nat.le_refl 1⟩
  rw [Shape.levelsAll_singleton]
  exact Nat.le_trans (Shape.levels_node_le kind shapes) (Nat.succ_le_succ low)

/-- A node around what was read adds a level. -/
theorem stands_around (kind : NodeKind) (before : Climbs levels o p)
    (after : Climbs levels (p.startAt o.builder.checkpoint kind) q) :
    Stands (levels + 1) o q.finish := by
  obtain ⟨left, reading, low⟩ := before
  obtain ⟨right, further, small⟩ := after
  refine ⟨[.node kind (left ++ right)], reads_startAt reading further, ?_, Nat.le_refl 1⟩
  rw [Shape.levelsAll_singleton]
  refine Nat.le_trans (Shape.levels_node_le kind _) (Nat.succ_le_succ ?_)
  rw [Shape.levelsAll_append]
  exact Nat.max_le.2 ⟨low, small⟩

/-- A node of a chain adds none to the operand that it is put around. -/
theorem stands_chain (kind : NodeKind) (chain : kind.isChain = true)
    (before : Stands (levels + 1) o p)
    (after : Climbs levels (p.startAt o.builder.checkpoint kind) q) :
    Stands (levels + 1) o q.finish := by
  obtain ⟨left, reading, low, one⟩ := before
  obtain ⟨right, further, small⟩ := after
  refine ⟨[.node kind (left ++ right)], reads_startAt reading further, ?_, Nat.le_refl 1⟩
  rw [Shape.levelsAll_singleton]
  exact Shape.levels_chain_le chain one low small

/-- One node read a level deeper is one node. -/
theorem stands_ascend (inside : Stands levels p.descend q) : Stands levels p q.ascend := by
  obtain ⟨shapes, reading, low, one⟩ := inside
  exact ⟨shapes, reads_ascend reading, low, one⟩

/-- What is read a level deeper climbs no higher for it. -/
theorem climbs_ascend (inside : Climbs levels p.descend q) : Climbs levels p q.ascend := by
  obtain ⟨shapes, reading, low⟩ := inside
  exact ⟨shapes, reads_ascend reading, low⟩

/-- What is read in a body climbs no higher for it. -/
theorem climbs_closeBody {closer : TokenKind} (inside : Climbs levels (p.openBody closer) q) :
    Climbs levels p q.closeBody := by
  obtain ⟨shapes, reading, low⟩ := inside
  exact ⟨shapes, reads_closeBody reading, low⟩

/-- A placeholder is one node of one level. -/
theorem stands_placeholder : Everywhere (Stands 1) placeholder := fun p =>
  (climbs_error _ _ p).next
    (stands_node .error (Steps.ite (climbs_refl _) (climbs_bump _)))

/-- A token alone in a node is one node of one level. -/
theorem stands_single (kind : NodeKind) : Everywhere (Stands 1) (fun p => p.single kind) :=
  fun p => stands_node kind (climbs_bump (p.start kind))

/-! ### Lists and groups -/

/-- A node of brackets adds a level to its list. -/
theorem stands_brackets (kind : NodeKind) (closer : TokenKind) (message : String) {list : Step}
    (lists : Everywhere (Climbs levels) list) (p : Parser) :
    Stands (levels + 1) p (Parser.finish (expectCloser
      (if (p.start kind).bump.isAt closer then (p.start kind).bump else list (p.start kind).bump)
      closer message)) := by
  have opened : Climbs levels (p.start kind) (p.start kind).bump := climbs_bump _
  have inside : Climbs levels (p.start kind)
      (if (p.start kind).bump.isAt closer then (p.start kind).bump
      else list (p.start kind).bump) := Steps.ite opened (opened.trans (lists _))
  exact stands_node kind (inside.trans (climbs_expectCloser closer message _))

/-- A bracketed group is one level above its items. -/
theorem stands_group (kind : NodeKind) {item : Step} (each : Everywhere (Stands levels) item)
    (closer : Punctuation) (separator bracket : String) :
    Everywhere (Stands (levels + 1)) (group kind item closer separator bracket) := by
  intro p
  have lists : Everywhere (Climbs levels)
      (fun q => items item (.punctuation closer) separator (q.remaining + 1) q) := fun q =>
    (steps_climbs levels).items (fun r => (each r).climbs) _ separator (q.remaining + 1) q
  rw [group]
  exact stands_brackets kind (.punctuation closer) bracket lists p

section

variable {inner : Inner} (nested : ∀ which, Everywhere (Stands levels) (inner which))

include nested

/-- An argument is one level above an expression at most. -/
theorem stands_argument : Everywhere (Stands (levels + 1)) (argument inner) := by
  intro p
  have named : Climbs levels _ (p.start .keywordArgument).bump.bump :=
    (climbs_bump (p.start .keywordArgument)).trans (climbs_bump _)
  exact Steps.ite (stands_node _ (named.trans (nested .expression _).climbs))
    ((nested .expression p).mono (Nat.le_succ _))

/-- A list of arguments is two levels above an expression at most. -/
theorem stands_argumentList : Everywhere (Stands (levels + 2)) (argumentList inner) :=
  stands_group _ (stands_argument nested) _ _ _

/-- Parameters are one level above an expression at most. -/
theorem climbs_parameters (times : Nat) :
    Everywhere (Climbs (levels + 1)) (parameters inner times) := by
  induction times with
  | zero => exact climbs_refl
  | succ times ih =>
    intro p
    have named : Climbs levels _ (p.start .parameter).bump := climbs_bump _
    have value := (named.trans (climbs_bump _)).trans (nested .expression _).climbs
    have whole : Climbs (levels + 1) p (Parser.finish
        (if (p.start .parameter).bump.isAt (.operator .assign) then
          inner .expression (p.start .parameter).bump.bump
        else (p.start .parameter).bump)) := (stands_node _ (Steps.ite value named)).climbs
    rw [parameters]
    dsimp only
    generalize Parser.finish (if (p.start .parameter).bump.isAt (.operator .assign) then
      inner .expression (p.start .parameter).bump.bump
      else (p.start .parameter).bump) = q at whole ⊢
    have past := whole.trans (climbs_bump q)
    exact Steps.ite
      (Steps.ite (Steps.ite past (past.trans (ih _)))
        (Steps.ite whole (whole.trans (climbs_error _ _ q))))
      (climbs_error _ _ p)

/-- A list of parameters is two levels above an expression at most. -/
theorem stands_parameterList : Everywhere (Stands (levels + 2)) (parameterList inner) := by
  intro p
  have lists : Everywhere (Climbs (levels + 1)) (fun q => parameters inner (q.remaining + 1) q) :=
    fun q => climbs_parameters nested (q.remaining + 1) q
  have whole := stands_brackets .parameterList (.punctuation .rightParen) "Expected ')'" lists p
  rw [parameterList]
  exact whole

/-! ### Atoms and what follows them -/

/-- An entry of a dictionary is one level above an expression at most. -/
theorem stands_dictEntry : Everywhere (Stands (levels + 1)) (dictEntry inner) := by
  intro p
  have key := (nested .expression (p.start .dictEntry)).climbs
  have value (q : Parser) : Climbs levels q
      (if q.isAt (.punctuation .colon) then inner .expression q.bump
      else q.error .unexpectedToken "Expected ':'") :=
    Steps.ite ((climbs_bump q).trans (nested .expression _).climbs) (climbs_error _ _ q)
  exact stands_node _ (key.trans (value _))

/-- Parentheses are one level above an expression at most. -/
theorem stands_parenthesized : Everywhere (Stands (levels + 1)) (parenthesized inner) := by
  intro p
  have each (q : Parser) : Climbs levels q (inner .expression q) := (nested .expression q).climbs
  have opened : Climbs levels _ p.skipSpace.bump := climbs_bump _
  have first := opened.trans (each _)
  refine (climbs_skipSpace p).next (Steps.ite ?_ ?_)
  · exact stands_around .tupleLiteral opened (climbs_bump _)
  · dsimp only
    split
    · exact stands_around .tupleLiteral first
        (((steps_climbs levels).moreItems each _ _ _).trans (climbs_expectCloser _ _ _))
    · exact stands_around .parenthesizedExpression first (climbs_expectCloser _ _ _)

omit nested in
/-- String literals side by side are one node of one level. -/
theorem stands_strings : Everywhere (Stands 1) strings := fun _ =>
  stands_node _ ((steps_climbs 0).loop (steps_climbs 0).bump _)

/-- An atom is two levels above what is nested in it at most. -/
theorem stands_atom : Everywhere (Stands (levels + 2)) (fun p => (atom inner p).2) := by
  intro p
  have leaf : 1 ≤ levels + 2 := by omega
  simp only [atom]
  split
  · exact (stands_single _ p).mono leaf
  · exact (stands_strings p).mono leaf
  · exact (stands_single _ p).mono leaf
  · exact (stands_single _ p).mono leaf
  · exact (stands_single _ p).mono leaf
  · exact (stands_single _ p).mono leaf
  · exact (stands_single _ p).mono leaf
  · exact (stands_parenthesized nested p).mono (Nat.le_succ _)
  · exact (stands_group _ (nested .expression) _ _ _ p).mono (Nat.le_succ _)
  · exact stands_group _ (stands_dictEntry nested) _ _ _ p
  · exact (stands_placeholder p).mono leaf

/-- An attribute, a subscript or a call is a node of a chain. -/
theorem stands_postfixStep (operand : Stands (levels + 3) o p) :
    Stands (levels + 3) o (postfixStep inner o.builder.checkpoint p) := by
  refine Steps.ite (stands_chain .attributeAccess rfl operand ?_)
    (Steps.ite (stands_chain .subscriptAccess rfl operand ?_)
      (stands_chain .functionCall rfl operand (stands_argumentList nested _).climbs))
  · exact (climbs_bump _).trans (Steps.ite (climbs_bump _) (climbs_error _ _ _))
  · have index (q : Parser) : Climbs (levels + 2) q (inner .expression q.bump) :=
      (climbs_bump q).trans ((nested .expression _).climbs.mono (Nat.le_add_right _ 2))
    exact (index _).trans (climbs_expectCloser _ _ _)

/-- A primary expression is three levels above what is nested in it at most. -/
theorem stands_primary : Everywhere (Stands (levels + 3)) (primary inner) := by
  intro p
  have operand := (stands_atom nested p.skipSpace).mono (Nat.le_succ _)
  refine (climbs_skipSpace p).next (Steps.ite ?_ operand)
  exact loop_keeps (fun q before _ => stands_postfixStep nested before) operand

/-- A filter is a node of a chain. -/
theorem stands_filterStep (operand : Stands (levels + 3) o p) :
    Stands (levels + 3) o (filterStep inner o.builder.checkpoint p) := by
  have arguments (q : Parser) : Climbs (levels + 2) q
      (if q.isAt (.punctuation .leftParen) then argumentList inner q else q) :=
    Steps.ite (stands_argumentList nested q).climbs (climbs_refl q)
  exact stands_chain .filterExpression rfl operand ((climbs_bump _).trans
    (Steps.ite ((climbs_bump _).trans (arguments _)) (climbs_error _ _ _)))

/-- An operand with filters is three levels above what is nested in it at most. -/
theorem stands_filtered : Everywhere (Stands (levels + 3)) (filtered inner) := by
  intro p
  have operand := stands_primary nested p.skipSpace
  exact (climbs_skipSpace p).next
    (loop_keeps (fun q before _ => stands_filterStep nested before) operand)

/-! ### Operators -/

omit nested in
/-- Operands of one precedence make a chain, which adds a level to the operands behind. -/
theorem stands_leftGrouped {operand : Step} (each : Everywhere (Stands levels) operand)
    {kind : NodeKind} (chain : kind.isChain = true) (operators : List TokenKind) :
    Everywhere (Stands (levels + 1)) (leftGrouped kind operators operand) := by
  intro p
  have first := (each p.skipSpace).mono (Nat.le_succ _)
  refine (climbs_skipSpace p).next (loop_keeps (fun q before _ => ?_) first)
  exact stands_chain kind chain before ((climbs_bump _).trans (each _).climbs)

/-- A factor is four levels above what is nested in it at most. -/
theorem stands_factor : Everywhere (Stands (levels + 4)) (factor inner) := by
  intro p
  have signed := stands_node .unaryExpression
    ((climbs_bump (p.start .unaryExpression)).trans (nested .factor _).climbs)
  refine Steps.ite (signed.mono (by omega)) ?_
  have operand := stands_filtered nested p.skipSpace
  refine (climbs_skipSpace p).next (Steps.ite ?_ (operand.mono (Nat.le_succ _)))
  exact stands_around .powerExpression operand.climbs
    ((climbs_bump _).trans ((nested .factor _).climbs.mono (by omega)))

/-- A product is one level above a factor at most. -/
theorem stands_product : Everywhere (Stands (levels + 1)) (product inner) :=
  stands_leftGrouped (nested .factor) rfl _

/-- A sum is two levels above a factor at most. -/
theorem stands_sum : Everywhere (Stands (levels + 2)) (sum inner) :=
  stands_leftGrouped (stands_product nested) rfl _

/-- A comparison is three levels above a factor at most. -/
theorem stands_comparison : Everywhere (Stands (levels + 3)) (comparison inner) := by
  intro p
  have operand := stands_sum nested p.skipSpace
  have other (q : Parser) := (stands_sum nested q).climbs
  refine (climbs_skipSpace p).next
    (Steps.ite ?_ (Steps.ite ?_ (Steps.ite ?_ (operand.mono (Nat.le_succ _)))))
  · exact stands_around .comparisonExpression operand.climbs ((climbs_bump _).trans (other _))
  · exact stands_around .comparisonExpression operand.climbs
      (((climbs_bump _).trans (climbs_bump _)).trans (other _))
  · exact stands_around .testExpression operand.climbs
      (((climbs_bump _).trans ((steps_climbs _).skip _ _)).trans (other _))

/-- A negation is three levels above a factor at most. -/
theorem stands_negation : Everywhere (Stands (levels + 3)) (negation inner) := by
  intro p
  have negated := stands_node .notExpression
    ((climbs_bump (p.start .notExpression)).trans (nested .negation _).climbs)
  exact Steps.ite (negated.mono (by omega)) (stands_comparison nested p)

/-- A conjunction is four levels above a factor at most. -/
theorem stands_conjunction : Everywhere (Stands (levels + 4)) (conjunction inner) :=
  stands_leftGrouped (stands_negation nested) rfl _

/-- A disjunction is five levels above a factor at most. -/
theorem stands_disjunction : Everywhere (Stands (levels + 5)) (disjunction inner) :=
  stands_leftGrouped (stands_conjunction nested) rfl _

/-- A conditional expression is six levels above a factor at most. -/
theorem stands_conditional : Everywhere (Stands (levels + 6)) (conditional inner) := by
  intro p
  have operand := stands_disjunction nested p.skipSpace
  rw [conditional, checkpoint]
  dsimp only
  generalize disjunction inner p.skipSpace = q at operand ⊢
  have condition := (climbs_bump (q.startAt p.skipSpace.builder.checkpoint
    .conditionalExpression)).trans (stands_disjunction nested _).climbs
  have alternative (r : Parser) : Climbs (levels + 5) r
      (if r.isAt (.keyword .elseKw) then inner .expression r.bump else r) :=
    Steps.ite ((climbs_bump r).trans ((nested .expression _).climbs.mono (by omega)))
      (climbs_refl r)
  have whole := stands_around .conditionalExpression operand.climbs
    (condition.trans (alternative _))
  exact (climbs_skipSpace p).next (Steps.ite whole (operand.mono (Nat.le_succ _)))

end

/-- Each level of nesting adds six levels to an expression at most. -/
theorem stands_nested (levels : Nat) (which : Nested) :
    Everywhere (Stands (6 * levels + 1)) (nested levels which) := by
  induction levels generalizing which with
  | zero => exact fun p => (climbs_refuse p).next (stands_placeholder _)
  | succ levels ih =>
    intro p
    apply stands_ascend
    cases which with
    | expression => exact stands_conditional ih _
    | disjunction => exact (stands_disjunction ih _).mono (by omega)
    | negation => exact (stands_negation ih _).mono (by omega)
    | factor => exact (stands_factor ih _).mono (by omega)

/-! ### Headers -/

/-- Reading leaves the levels that are left alone. -/
theorem Climbs.levels_eq (climbs : Climbs levels p q) : q.levels = p.levels := by
  obtain ⟨shapes, reading, -⟩ := climbs
  rw [Parser.levels, reading.limits, reading.depth, Parser.levels]

/-- Imported names climb one level. -/
theorem climbs_importNames (times : Nat) : Everywhere (Climbs 1) (importNames times) := by
  have steps := steps_climbs 0
  induction times with
  | zero => exact climbs_refl
  | succ times ih =>
    intro p
    have named := steps.expectName "Expected name to import" (p.start .importName)
    refine Steps.ite ?_ (stands_node .importName named).climbs
    have whole : Climbs 1 p _ := (stands_node .importName
      (named.trans (steps.ifAt steps.aliasName (.keyword .asKw) _))).climbs
    exact Steps.ite ((whole.trans (climbs_bump _)).trans (ih _)) whole

/-- What is skipped up to a token climbs one level. -/
theorem climbs_skipUntil (terminator : TokenKind) :
    Everywhere (Climbs 1) (fun p => p.skipUntil terminator) := fun p =>
  Steps.ite (climbs_refl p)
    (stands_node .error ((steps_climbs 0).loop (steps_climbs 0).bump _)).climbs

/-- A list of targets climbs one level. -/
theorem climbs_targetList (message : String) :
    Everywhere (Climbs 1) (fun p => p.targetList message) := fun _ =>
  (stands_node .targetList ((steps_climbs 0).targets message _ _)).climbs

/-- Tokens and reports add no level to those that the levels left allow. -/
theorem steps_climbs_levels (more : Nat) : Steps fun p q => Climbs (6 * p.levels + more) p q where
  refl p := climbs_refl p
  trans before after := before.trans (before.levels_eq ▸ after)
  bump p := climbs_bump p
  errorAt offset fault message p := (steps_climbs _).errorAt offset fault message p

/-- An expression climbs six levels for each level that is left, and one. -/
theorem climbs_expression (p : Parser) : Climbs (6 * p.levels + 1) p p.expression :=
  (stands_nested p.levels .expression p).climbs

/-- A tuple or an expression climbs one level more than an expression at most. -/
theorem climbs_tupleOrExpression (p : Parser) :
    Climbs (6 * p.levels + 2) p p.tupleOrExpression := by
  have first := climbs_expression p.skipSpace
  have more := (steps_climbs_levels 1).moreItems climbs_expression atStructural
    p.skipSpace.expression.remaining
    (p.skipSpace.expression.startAt p.skipSpace.builder.checkpoint .tupleLiteral)
  have spaced : Climbs (6 * p.levels + 2) p p.skipSpace := climbs_skipSpace p
  have around : Climbs (6 * p.skipSpace.levels + 2) p.skipSpace _ :=
    (stands_around .tupleLiteral first (first.levels_eq ▸ more)).climbs
  rw [spaced.levels_eq] at around first
  exact spaced.trans (Steps.ite around (first.mono (Nat.le_succ _)))

/-- What stands in a tag adds three levels to those of an expression at most. -/
theorem heading_climbs : Heading fun p q => Climbs (6 * p.levels + 3) p q where
  toSteps := steps_climbs_levels 3
  skipUntil terminator p := (climbs_skipUntil terminator p).mono (by omega)
  targetList message p := (climbs_targetList message p).mono (by omega)
  importNames times p := (climbs_importNames times p).mono (by omega)
  expression p := (climbs_expression p).mono (by omega)
  orExpression p := (stands_nested p.levels .disjunction p).climbs.mono (by omega)
  tupleOrExpression p := (climbs_tupleOrExpression p).mono (by omega)
  argument p := (stands_argument (stands_nested p.levels) p).climbs.mono (by omega)
  parameterList p := (stands_parameterList (stands_nested p.levels) p).climbs

/-- What stands in a tag at a level. -/
theorem climbs_tagContents (first : Option TokenKind) (p : Parser) :
    Climbs (6 * p.levels + 3) p (tagContents first p) := heading_climbs.tagContents first p

/-- An opened node leaves as many levels as there were. -/
theorem levels_start (p : Parser) (kind : NodeKind) : (p.start kind).levels = p.levels := by
  have reading := p.reads_skipSpace
  rw [levels, levels, ← reading.limits, ← reading.depth]
  rfl

/-- A block tag climbs six levels for each level that is left, and four. -/
theorem climbs_tag (kind : NodeKind) (first : Option TokenKind) (p : Parser) :
    Climbs (6 * p.levels + 4) p (tag kind first p) := by
  have contents := climbs_tagContents first (p.start kind)
  rw [levels_start] at contents
  exact (stands_node kind contents).climbs

/-- A variable tag climbs no higher than a block tag. -/
theorem climbs_variableTag (p : Parser) : Climbs (6 * p.levels + 4) p p.variableTag := by
  have heading := heading_climbs
  have opened := heading.trans (heading.bump (p.start .variableTag)) (heading.expression _)
  have closed (q : Parser) : Climbs (6 * q.levels + 3) q
      (if q.isAt (.delimiter .variableEnd) then q.bump
      else ((q.error .missingVariableEnd "Expected variable end delimiter").skipUntil
        (.delimiter .variableEnd)).skip (.delimiter .variableEnd)) :=
    Steps.ite (climbs_bump q) (heading.recover _ _ _ q)
  have inside := heading.trans opened (closed _)
  rw [levels_start] at inside
  exact (stands_node .variableTag inside).climbs

/-- Text is one node of one level. -/
theorem stands_text : Everywhere (Stands 1) text := fun _ =>
  stands_node .text ((steps_climbs 0).loop (steps_climbs 0).bump _)

/-- A comment is one node of one level. -/
theorem stands_comment : Everywhere (Stands 1) comment := by
  intro p
  have steps := steps_climbs 0
  have opened := steps.bump (p.start .comment)
  exact stands_node .comment ((opened.trans (steps.loop steps.bump _)).trans
    (Steps.ite (climbs_bump _) (Steps.ite (climbs_refl _) (climbs_error _ _ _))))

/-! ### Bodies -/

/-- A step climbs so many levels where so many levels are left. -/
def ClimbsAt (left levels : Nat) (step : Step) : Prop :=
  ∀ p : Parser, p.levels = left → Climbs levels p (step p)

section

variable {left : Nat} {statement : Step} (each : ClimbsAt left (6 * left + 4) statement)

include each

/-- An item of content climbs no higher than a statement. -/
theorem climbs_contentItem : ClimbsAt left (6 * left + 4) (contentItem statement) := by
  rintro p rfl
  rw [contentItem]
  split
  · exact each p rfl
  · exact climbs_variableTag p
  · exact (stands_comment p).climbs.mono (by omega)
  · exact (stands_text p).climbs.mono (by omega)
  · exact climbs_refl p

/-- A body climbs no higher than a statement. -/
theorem climbs_body (opener closer : Keyword) (times : Nat) :
    ClimbsAt left (6 * left + 4) (fun p => (body statement opener closer times p).2) := by
  induction times with
  | zero => exact fun p _ => climbs_refl p
  | succ times ih =>
    intro p here
    simp only [body]
    split
    · exact climbs_refl p
    · have first := climbs_contentItem each p here
      exact first.trans (ih _ (first.levels_eq.trans here))

/-- A branch is a node of its own. -/
theorem climbs_branches (opener closer : Keyword) (times : Nat) (stop : BodyStop) :
    ClimbsAt left (6 * left + 5)
      (fun p => (branches statement opener closer times stop p).2) := by
  induction times generalizing stop with
  | zero => exact fun p _ => climbs_refl p
  | succ times ih =>
    intro p here
    cases stop with
    | branch keyword =>
      have opened := climbs_tagContents (some (.keyword keyword)) (p.start keyword.node)
      have left := (levels_start p keyword.node).trans here
      rw [left] at opened
      have items := climbs_body each opener closer
        ((tagContents (some (.keyword keyword)) (p.start keyword.node)).remaining + 1) _
        (opened.levels_eq.trans left)
      have whole : Climbs _ p _ :=
        (stands_node keyword.node ((opened.mono (Nat.le_succ _)).trans items)).climbs
      exact whole.trans (ih _ _ (whole.levels_eq.trans here))
    | ended => exact climbs_refl p
    | outer => exact climbs_refl p
    | exhausted => exact climbs_refl p

/-- A statement with a body has its tags, its items and its branches in it. -/
theorem climbs_bodyStatement (opener closer : Keyword) :
    ClimbsAt left (6 * left + 6) (bodyStatement statement opener closer) := by
  intro p here
  have opened := climbs_tagContents (some (.keyword opener)) (p.start opener.node)
  have start := (levels_start p opener.node).trans here
  rw [start] at opened
  rw [bodyStatement]
  dsimp only
  generalize tagContents (some (.keyword opener)) (p.start opener.node) = q at opened ⊢
  have open' : (q.openBody (.keyword closer)).levels = left := opened.levels_eq.trans start
  have items := climbs_body each opener closer ((q.openBody (.keyword closer)).remaining + 1)
    (q.openBody (.keyword closer)) open'
  dsimp only at items
  generalize body statement opener closer ((q.openBody (.keyword closer)).remaining + 1)
    (q.openBody (.keyword closer)) = found at items ⊢
  have later := climbs_branches each opener closer (found.2.remaining + 1) found.1 found.2
    (items.levels_eq.trans open')
  dsimp only at later
  have inside := climbs_closeBody ((items.mono (Nat.le_succ _)).trans later)
  have whole := (opened.mono (by omega)).trans inside
  have closed (stop : BodyStop) (r : Parser) (here : r.levels = left) :
      Climbs (6 * left + 5) r (endTag opener closer p.offset stop r) := by
    rw [endTag]
    exact Steps.ite ((here ▸ climbs_tag _ _ r).mono (Nat.le_succ _))
      ((steps_climbs _).errorAt _ _ _ r)
  exact (stands_node opener.node
    (whole.trans (closed _ _ (whole.levels_eq.trans start)))).climbs

end

/-- A statement without a body climbs no higher than its tag. -/
theorem climbs_plainStatement (first : Option TokenKind) (p : Parser) :
    Climbs (6 * p.levels + 4) p (plainStatement first p) := by
  have reported (message : String) (kind : NodeKind) (first : Option TokenKind) :
      Climbs (6 * p.levels + 4) p (tag kind first (p.error .unexpectedToken message)) := by
    have told : Climbs (6 * p.levels + 4) p (p.error .unexpectedToken message) :=
      climbs_error _ _ p
    exact told.trans (told.levels_eq ▸ climbs_tag kind first _)
  unfold plainStatement
  split
  · exact Steps.ite (reported _ _ _) (Steps.ite (reported _ _ _) (climbs_tag _ _ p))
  · exact climbs_tag _ _ p

/-- Each level of nesting adds fewer levels to a statement than to an expression. -/
theorem climbs_statementWithin (left : Nat) :
    ClimbsAt left (6 * left + 4) (statementWithin left) := by
  induction left with
  | zero =>
    intro p here
    have plain := climbs_plainStatement (p.nth? 1) p
    rw [here] at plain
    rw [statementWithin]
    split
    next opener _ _ =>
      have refused : Climbs 4 p p.refuse := climbs_refuse p
      have whole := climbs_tag opener.node (some (.keyword opener)) p.refuse
      rw [refused.levels_eq, here] at whole
      exact refused.trans whole
    · exact plain
  | succ left ih =>
    intro p here
    have plain := climbs_plainStatement (p.nth? 1) p
    rw [here] at plain
    rw [statementWithin]
    split
    next opener closer _ =>
      have below : p.descend.levels = left := by
        rw [levels] at here ⊢
        simp only [descend]
        omega
      have inside := climbs_bodyStatement ih opener closer p.descend below
      exact (climbs_ascend inside).mono (by omega)
    · exact plain

/-- An item of a template climbs six levels for each level that is left, and four. -/
theorem climbs_item (p : Parser) : Climbs (6 * p.levels + 4) p p.item :=
  climbs_contentItem (fun q here => here ▸ climbs_statementWithin q.levels q rfl) p rfl

end Parser

namespace TokenStream

/-- A stream is parsed into a tree with six levels for each level of nesting, and a few for the
statement and the expression at its ends. -/
theorem exists_levels_parse (stream : TokenStream) (limits : ParseLimits) :
    ∃ shape, Draws (stream.parse limits).tree.nodes (.node (stream.parse limits).tree.root) shape ∧
      shape.levels ≤ 6 * limits.depth + 5 := by
  let p := Parser.ofStream stream limits
  have steps := Parser.steps_climbs_levels 4
  have items : Parser.Climbs (6 * (p.start .template).levels + 4) (p.start .template)
      ((p.start .template).loop (fun p => p.current?.isSome) Parser.item) :=
    steps.loop Parser.climbs_item _
  obtain ⟨shapes, reads, low⟩ := items.trans (Parser.climbs_skipSpace _)
  have all : (p.start .template).levels = limits.depth := Parser.levels_start p .template
  rw [all] at low
  exact ⟨_, (Parser.draws_of_reads reads p.remaining_template).1,
    Nat.le_trans (Shape.levels_node_le _ _) (Nat.succ_le_succ low)⟩

/-- The limit on nesting bounds the levels of every way down the tree. -/
theorem parse_levels_le (stream : TokenStream) (limits : ParseLimits) (some : 0 < limits.depth) :
    let tree := (stream.parse limits).tree
    ∀ steps levels id, tree.Down tree.root steps levels id → levels ≤ 20 * limits.depth := by
  intro tree steps levels id down
  obtain ⟨shape, drawn, low⟩ := stream.exists_levels_parse limits
  have fewer := down.levels_lt drawn
  omega

/-- A sum of two names: the way to the first operand has a level less than its steps. -/
theorem parse_levels_le_sum :
    let stream : TokenStream := ⟨"", #[⟨.delimiter .variableStart, 0, 0⟩, ⟨.identifier, 0, 0⟩,
      ⟨.operator .plus, 0, 0⟩, ⟨.identifier, 0, 0⟩, ⟨.delimiter .variableEnd, 0, 0⟩], #[],
      .template⟩
    let tree := (stream.parse {}).tree
    0 < ({} : ParseLimits).depth ∧ tree.Down tree.root 3 2 0 ∧
      2 ≤ 20 * ({} : ParseLimits).depth := by
  intro stream tree
  have root : tree.root = 4 := by decide
  have down : tree.Down tree.root 3 2 0 := by
    rw [root]
    have tag : tree.Down 4 1 1 3 := .level .here (by decide) (by decide)
    have sum : tree.Down 4 2 2 2 := tag.level (by decide) (by decide)
    exact sum.along (by decide) (by decide)
  exact ⟨by decide, down, parse_levels_le stream {} (by decide) 3 2 0 down⟩

end TokenStream

/-! ### A chain -/

/-- Accesses around a node are a node. -/
theorem Access.isNode_nested {inside : Shape} (isNode : inside.isNode = true) (place : Nat)
    (made : List Access) : (nested place inside made).isNode = true := by
  induction made generalizing place inside with
  | nil => exact isNode
  | cons access made ih =>
    rw [nested]
    exact ih (by cases access <;> rfl) _

/-- A way down goes on through a node for every access. -/
theorem SyntaxTree.Down.exists_accesses {tree : SyntaxTree} {top steps levels id place : Nat}
    {inside : Shape} (isNode : inside.isNode = true) (made : List Access)
    (down : tree.Down top steps levels id)
    (drawn : Draws tree.nodes (.node id) (Access.nested place inside made)) :
    ∃ more child, tree.Down top (steps + made.length) more child ∧
      Draws tree.nodes (.node child) inside := by
  induction made generalizing place inside with
  | nil => exact ⟨levels, id, down, drawn⟩
  | cons access made ih =>
    have around : (access.shape place inside).isNode = true := by cases access <;> rfl
    obtain ⟨more, outer, above, here⟩ := ih around drawn
    cases access <;> exact above.exists_further here List.mem_cons_self isNode

/-- The tree of a name with accesses, written in a variable tag, has a way down with a step for
every access. -/
theorem TokenStream.exists_down_accesses (name : Identifier) {made : List Access} {limit : Nat}
    {limits : ParseLimits} (apart : Access.Apart made)
    (few : (Access.whole name made).length ≤ limit) (deep : 4 ≤ limits.depth) :
    ∃ stream levels id, ofSource (Access.source name made) {} limit = .ok stream ∧
      (stream.parse limits).tree.Down (stream.parse limits).tree.root (2 + made.length) levels
        id := by
  obtain ⟨last, reads, ended⟩ := Access.reads_source name made
  obtain ⟨stream, read, -, spelled⟩ := ofSource_of_reads reads ended few
  obtain ⟨shows, size⟩ := shows_of_spelled spelled
  obtain ⟨-, -, drawn⟩ := Access.parse_of_apart apart shows size deep
  obtain ⟨_, _, tag, here⟩ := SyntaxTree.Down.here.exists_further drawn List.mem_cons_self rfl
  have third : Access.nested 3 (.node .variableReference [.token 2]) made ∈
      [.token 0, .token 1, Access.nested 3 (.node .variableReference [.token 2]) made,
        .token (3 + Access.width made), .token (3 + Access.width made + 1)] :=
    List.mem_cons_of_mem _ (List.mem_cons_of_mem _ List.mem_cons_self)
  obtain ⟨_, _, value, there⟩ := tag.exists_further here third (Access.isNode_nested rfl _ _)
  obtain ⟨levels, id, whole, -⟩ := value.exists_accesses rfl _ there
  exact ⟨stream, levels, id, read, whole⟩

/-- A name with 5200 attributes has a way down of more than twenty steps for each level of nesting
that there may be. -/
theorem TokenStream.parse_chain :
    let x : Identifier := ⟨'x', [], by decide, List.forall_mem_nil _, by decide⟩
    let y : Identifier := ⟨'y', [], by decide, List.forall_mem_nil _, by decide⟩
    ∃ stream steps levels id,
      ofSource (Access.source x (List.replicate 5200 (.member y))) {} = .ok stream ∧
      20 * ({} : ParseLimits).depth < steps ∧
      stream.parse.tree.Down stream.parse.tree.root steps levels id := by
  intro x y
  have apart : Access.Apart (List.replicate 5200 (.member y)) :=
    List.isChain_replicate_of_rel _ rfl
  have few : (Access.whole x (List.replicate 5200 (.member y))).length ≤ Limits.maxTokenCount := by
    have width :
        ((List.replicate 5200 (Access.member y)).flatMap Access.tokens).length = 10400 := by
      rw [List.length_flatMap, List.map_replicate, List.sum_replicate_nat]
      rfl
    rw [Access.whole, Access.inside, Access.row_of_apart apart]
    simp only [List.length_cons, List.length_append, width, List.length_nil]
    decide
  obtain ⟨stream, levels, id, read, down⟩ :=
    exists_down_accesses x apart few (show 4 ≤ ({} : ParseLimits).depth by decide)
  refine ⟨stream, _, levels, id, read, ?_, down⟩
  rw [List.length_replicate]
  decide

end Stencil
