import Stencil.Proofs.Parser.Growth
/-!
# The productions read forward

Each production of the grammar, applied to a parser anywhere in any stream, reads on. Productions
that recurse do so through the four nested ones, so that these are settled by induction on the
levels that are left, and every other production by following its text.
-/

namespace Stencil
namespace Parser

/-! ### Small steps -/

/-- An optional token reads on from everywhere. -/
theorem growing_skip (kind : TokenKind) : Growing (fun p => p.skip kind) := by
  intro p
  simp only [skip, eat]
  split
  · exact growing_bump p
  · exact p.grows_refl

/-- A bracket that closes reads on from everywhere. -/
theorem growing_expectCloser (closer : TokenKind) (message : String) :
    Growing (fun p => p.expectCloser closer message) := fun p =>
  grows_ite (growing_bump p) (growing_error _ _ p)

/-- An expected name reads on from everywhere. -/
theorem growing_expectName (message : String) : Growing (fun p => (p.expectName message).2) := by
  intro p
  simp only [expectName]
  split
  · exact growing_bump p
  · exact growing_error _ _ p

/-- A placeholder reads on from everywhere. -/
theorem growing_placeholder : Growing placeholder := fun p =>
  (growing_error _ _ p).trans (grows_node (grows_ite (grows_refl _) (growing_bump _)))

/-- A token alone reads on from everywhere. -/
theorem growing_single (kind : NodeKind) : Growing (fun p => p.single kind) := fun _ =>
  grows_node (growing_bump _)

/-! ### Lists and groups -/

/-- A list with separators reads on from everywhere. -/
theorem growing_items {item : Step} (each : Growing item) (closer : TokenKind) (message : String)
    (times : Nat) : Growing (items item closer message times) := by
  induction times with
  | zero => exact grows_refl
  | succ times ih =>
    intro p
    have first := each p
    have past := first.step growing_bump
    exact grows_ite (grows_ite past (past.step ih))
      (grows_ite first (first.step (growing_error _ _)))

/-- A node of brackets around a list reads on if the list does. -/
theorem grows_brackets (kind : NodeKind) (closer : TokenKind) (message : String) {list : Step}
    (lists : Growing list) (p : Parser) :
    p.Grows (Parser.finish (expectCloser
      (if (p.start kind).bump.isAt closer then (p.start kind).bump else list (p.start kind).bump)
      closer message)) := by
  have opened := growing_bump (p.start kind)
  have inside : (p.start kind).Grows
      (if (p.start kind).bump.isAt closer then (p.start kind).bump
      else list (p.start kind).bump) := grows_ite opened (opened.step lists)
  have closed := inside.step (growing_expectCloser closer message)
  exact grows_node closed

/-- A bracketed group reads on from everywhere. -/
theorem growing_group (kind : NodeKind) {item : Step} (each : Growing item)
    (closer : Punctuation) (separator bracket : String) :
    Growing (group kind item closer separator bracket) := by
  intro p
  have lists : Growing (fun q => items item (.punctuation closer) separator (q.remaining + 1) q) :=
    fun q => growing_items each _ separator (q.remaining + 1) q
  rw [group]
  exact grows_brackets kind (.punctuation closer) bracket lists p

/-- Further items read on from everywhere. -/
theorem growing_moreItems {item : Step} (each : Growing item) (ends : Parser → Bool)
    (times : Nat) : Growing (moreItems item ends times) := by
  induction times with
  | zero => exact grows_refl
  | succ times ih =>
    intro p
    have past := growing_bump p
    exact grows_ite (grows_ite past ((past.step each).step ih)) p.grows_refl

section

variable {inner : Inner} (nested : ∀ which, Growing (inner which))

include nested

/-- An argument reads on from everywhere. -/
theorem growing_argument : Growing (argument inner) := fun p =>
  grows_ite
    (grows_node (((growing_bump (p.start .keywordArgument)).step growing_bump).step
      (nested .expression)))
    (nested .expression p)

/-- A list of arguments reads on from everywhere. -/
theorem growing_argumentList : Growing (argumentList inner) :=
  growing_group _ (growing_argument nested) _ _ _

/-- Parameters read on from everywhere. -/
theorem growing_parameters (times : Nat) : Growing (parameters inner times) := by
  induction times with
  | zero => exact grows_refl
  | succ times ih =>
    intro p
    have named := growing_bump (p.start .parameter)
    have whole : p.Grows (Parser.finish
        (if (p.start .parameter).bump.isAt (.operator .assign) then
          inner .expression (p.start .parameter).bump.bump
        else (p.start .parameter).bump)) :=
      grows_node (named.trans (grows_ite ((growing_bump _).step (nested .expression))
        (grows_refl _)))
    rw [parameters]
    dsimp only
    generalize Parser.finish (if (p.start .parameter).bump.isAt (.operator .assign) then
      inner .expression (p.start .parameter).bump.bump
      else (p.start .parameter).bump) = q at whole ⊢
    have past := whole.step growing_bump
    exact grows_ite
      (grows_ite (grows_ite past (past.step ih))
        (grows_ite whole (whole.step (growing_error _ _))))
      (growing_error _ _ p)

/-- A list of parameters reads on from everywhere. -/
theorem growing_parameterList : Growing (parameterList inner) := by
  intro p
  have lists : Growing (fun q => parameters inner (q.remaining + 1) q) := fun q =>
    growing_parameters nested (q.remaining + 1) q
  have whole := grows_brackets .parameterList (.punctuation .rightParen) "Expected ')'" lists p
  rw [parameterList]
  exact whole

/-! ### Atoms and what follows them -/

/-- An entry of a dictionary reads on from everywhere. -/
theorem growing_dictEntry : Growing (dictEntry inner) := fun p =>
  grows_node ((nested .expression (p.start .dictEntry)).trans
    (grows_ite ((growing_bump _).step (nested .expression)) (growing_error _ _ _)))

/-- An expression in parentheses reads on from everywhere. -/
theorem growing_parenthesized : Growing (parenthesized inner) := by
  intro p
  have opened := growing_bump p.skipSpace
  have first := opened.step (nested .expression)
  refine (growing_skipSpace p).trans
    (grows_ite (grows_startAt .tupleLiteral opened (growing_bump _)) ?_)
  dsimp only
  split
  · exact grows_startAt .tupleLiteral first
      ((growing_moreItems (nested .expression) _ _ _).step (growing_expectCloser _ _))
  · exact grows_startAt .parenthesizedExpression first (growing_expectCloser _ _ _)

omit nested in
/-- String literals side by side read on from everywhere. -/
theorem growing_strings : Growing strings := fun _ => grows_node (growing_loop growing_bump _)

/-- An atom reads on from everywhere. -/
theorem growing_atom : Growing (fun p => (atom inner p).2) := by
  intro p
  simp only [atom]
  split
  · exact growing_single _ p
  · exact growing_strings p
  · exact growing_single _ p
  · exact growing_single _ p
  · exact growing_single _ p
  · exact growing_single _ p
  · exact growing_single _ p
  · exact growing_parenthesized nested p
  · exact growing_group _ (nested .expression) _ _ _ p
  · exact growing_group _ (growing_dictEntry nested) _ _ _ p
  · exact growing_placeholder p

/-- A call, a subscript or an attribute reads on behind its operand. -/
theorem grows_postfixStep {origin p : Parser} (operand : origin.Grows p) :
    origin.Grows (postfixStep inner origin.builder.checkpoint p) := by
  refine grows_ite (grows_startAt .attributeAccess operand ?_)
    (grows_ite (grows_startAt .subscriptAccess operand ?_)
      (grows_startAt .functionCall operand (growing_argumentList nested _)))
  · exact (growing_bump _).trans (grows_ite (growing_bump _) (growing_error _ _ _))
  · exact ((growing_bump _).step (nested .expression)).step (growing_expectCloser _ _)

/-- A primary expression reads on from everywhere. -/
theorem growing_primary : Growing (primary inner) := by
  intro p
  have operand := growing_atom nested p.skipSpace
  apply (growing_skipSpace p).trans
  exact grows_ite (grows_loop operand fun q => grows_postfixStep nested) operand

/-- A filter reads on behind its operand. -/
theorem grows_filterStep {origin p : Parser} (operand : origin.Grows p) :
    origin.Grows (filterStep inner origin.builder.checkpoint p) := by
  refine grows_startAt .filterExpression operand
    ((growing_bump _).trans (grows_ite ?_ (growing_error _ _ _)))
  exact (growing_bump _).trans (grows_ite (growing_argumentList nested _) (grows_refl _))

/-- An operand with filters reads on from everywhere. -/
theorem growing_filtered : Growing (filtered inner) := by
  intro p
  have operand := growing_primary nested p.skipSpace
  exact (growing_skipSpace p).trans (grows_loop operand fun q => grows_filterStep nested)

/-! ### Operators -/

omit nested in
/-- Operands with operators of one precedence read on from everywhere. -/
theorem growing_leftGrouped {operand : Step} (each : Growing operand) (kind : NodeKind)
    (operators : List TokenKind) : Growing (leftGrouped kind operators operand) := by
  intro p
  have first := each p.skipSpace
  exact (growing_skipSpace p).trans (grows_loop first fun q before =>
    grows_startAt kind before ((growing_bump _).step each))

/-- A factor reads on from everywhere. -/
theorem growing_factor : Growing (factor inner) := by
  intro p
  apply grows_ite (grows_node ((growing_bump _).step (nested .factor)))
  have operand := growing_filtered nested p.skipSpace
  exact (growing_skipSpace p).trans
    (grows_ite (grows_startAt .powerExpression operand
      ((growing_bump _).step (nested .factor))) operand)

/-- A product reads on from everywhere. -/
theorem growing_product : Growing (product inner) := growing_leftGrouped (nested .factor) _ _

/-- A sum reads on from everywhere. -/
theorem growing_sum : Growing (sum inner) := growing_leftGrouped (growing_product nested) _ _

/-- A comparison reads on from everywhere. -/
theorem growing_comparison : Growing (comparison inner) := by
  intro p
  have operand := growing_sum nested p.skipSpace
  have other := growing_sum nested
  refine (growing_skipSpace p).trans (grows_ite ?_ (grows_ite ?_ (grows_ite ?_ operand)))
  · exact grows_startAt .comparisonExpression operand ((growing_bump _).step other)
  · exact grows_startAt .comparisonExpression operand
      (((growing_bump _).step growing_bump).step other)
  · exact grows_startAt .testExpression operand
      (((growing_bump _).step (growing_skip _)).step other)

/-- A negation reads on from everywhere. -/
theorem growing_negation : Growing (negation inner) := fun p =>
  grows_ite (grows_node ((growing_bump _).step (nested .negation))) (growing_comparison nested p)

/-- A conjunction reads on from everywhere. -/
theorem growing_conjunction : Growing (conjunction inner) :=
  growing_leftGrouped (growing_negation nested) _ _

/-- A disjunction reads on from everywhere. -/
theorem growing_disjunction : Growing (disjunction inner) :=
  growing_leftGrouped (growing_conjunction nested) _ _

/-- A conditional expression reads on from everywhere. -/
theorem growing_conditional : Growing (conditional inner) := by
  intro p
  have operand := growing_disjunction nested p.skipSpace
  rw [conditional, checkpoint]
  dsimp only
  generalize disjunction inner p.skipSpace = q at operand ⊢
  have condition := (growing_bump (q.startAt p.skipSpace.builder.checkpoint
    .conditionalExpression)).step (growing_disjunction nested)
  have alternative (r : Parser) :
      r.Grows (if r.isAt (.keyword .elseKw) then inner .expression r.bump else r) :=
    grows_ite ((growing_bump r).step (nested .expression)) r.grows_refl
  have whole := grows_startAt .conditionalExpression operand (condition.trans (alternative _))
  exact (growing_skipSpace p).trans (grows_ite whole operand)

end

/-- The nested productions read on with any number of levels left. -/
theorem growing_nested (levels : Nat) (which : Nested) : Growing (nested levels which) := by
  induction levels generalizing which with
  | zero => exact fun p => (growing_refuse p).step growing_placeholder
  | succ levels ih =>
    intro p
    apply grows_ascend
    cases which with
    | expression => exact growing_conditional ih _
    | disjunction => exact growing_disjunction ih _
    | negation => exact growing_negation ih _
    | factor => exact growing_factor ih _

/-- An expression reads on from everywhere. -/
theorem growing_expression : Growing expression := fun p => growing_nested p.levels _ p

/-- An expression without a condition reads on from everywhere. -/
theorem growing_orExpression : Growing orExpression := fun p => growing_nested p.levels _ p

/-- A tuple or an expression reads on from everywhere. -/
theorem growing_tupleOrExpression : Growing tupleOrExpression := by
  intro p
  have operand := growing_expression p.skipSpace
  exact (growing_skipSpace p).trans
    (grows_ite (grows_startAt .tupleLiteral operand
      (growing_moreItems growing_expression _ _ _)) operand)

end Parser
end Stencil
