import Mathlib.Logic.Relation
import Stencil.Proofs.Parser.Routine
import Stencil.Proofs.Parser.Statements
/-!
# Every part of the grammar leaves the nesting as it found it

A parse is a walk of small moves. What a part of the grammar goes down it comes up again, through
early returns, refused levels and nodes opened around what was read before; and no parser on the
walk is deeper than the levels that were left where it began (`Balanced`). With what is read forward
in between this is `part_balanced`: the same level, the same awaited end tags, the same open nodes
but for more children of the innermost one.
-/

namespace Stencil
namespace Parser

/-- One move of the parser. -/
inductive Move : Parser → Parser → Prop
  | take (p : Parser) : Move p p.take
  | openNode (p : Parser) (kind : NodeKind) (offset : Nat) :
      Move p { p with builder := p.builder.start kind offset }
  | openAround (p : Parser) (checkpoint : Checkpoint) (kind : NodeKind) :
      Move p (p.startAt checkpoint kind)
  | closeNode (p : Parser) : Move p p.finish
  | report (p : Parser) (offset : Nat) (fault : SyntaxFault) (message : String) :
      Move p (p.errorAt offset fault message)
  | markDeep (p : Parser) : Move p { p with depthReported := true }
  | descend (p : Parser) : Move p p.descend
  | ascend (p : Parser) : Move p p.ascend
  | openBody (p : Parser) (closer : TokenKind) : Move p (p.openBody closer)
  | closeBody (p : Parser) : Move p p.closeBody

/-- The later parser is so many moves after the earlier one, none of which goes deeper than a
level. -/
def Walk (deepest : Nat) : Parser → Parser → Prop :=
  Relation.ReflTransGen fun p q => p.Move q ∧ q.depth ≤ deepest

/-- The later parser is on the level of the earlier one, and on the way no deeper than the levels
that are left, or than so many. -/
structure Balanced (levels : Nat) (p q : Parser) : Prop where
  depth : q.depth = p.depth
  limits : q.limits = p.limits
  walk : Walk (p.depth + max levels p.levels) p q

variable {levels more deepest : Nat} {o p q : Parser}

/-! ### Walks -/

/-- Reporting changes neither the level nor the limits. -/
theorem errorAt_depth (p : Parser) (offset : Nat) (fault : SyntaxFault) (message : String) :
    (p.errorAt offset fault message).depth = p.depth ∧
      (p.errorAt offset fault message).maxDepth = p.maxDepth ∧
      (p.errorAt offset fault message).limits = p.limits := by
  rw [errorAt]
  split <;> exact ⟨rfl, rfl, rfl⟩

/-- The deepest level so far is that of a parser on the way. -/
theorem Move.maxDepth_le (move : p.Move q) : q.maxDepth ≤ max p.maxDepth q.depth := by
  cases move with
  | report offset fault message =>
    rw [(p.errorAt_depth offset fault message).2.1]
    exact Nat.le_max_left _ _
  | descend => exact Nat.le_refl _
  | _ => exact Nat.le_max_left _ _

/-- A walk leaves the deepest level so far within its own. -/
theorem Walk.maxDepth_le (walk : Walk deepest p q) : q.maxDepth ≤ max p.maxDepth deepest := by
  induction walk with
  | refl => exact Nat.le_max_left _ _
  | tail _ last ih =>
    obtain ⟨move, low⟩ := last
    have bound := move.maxDepth_le
    omega

/-- A walk within some depth is one within a greater depth. -/
theorem Walk.mono {deeper : Nat} (walk : Walk deepest p q) (enough : deepest ≤ deeper) :
    Walk deeper p q :=
  Relation.ReflTransGen.mono (fun _ _ step => ⟨step.1, Nat.le_trans step.2 enough⟩) p q walk

/-! ### Steps -/

/-- Without a step a parser is balanced. -/
theorem balanced_refl (p : Parser) : Balanced levels p p := ⟨rfl, rfl, .refl⟩

/-- A balanced stretch leaves as many levels as there were. -/
theorem Balanced.levels_eq (balanced : Balanced levels p q) : q.levels = p.levels := by
  rw [Parser.levels, Parser.levels, balanced.depth, balanced.limits]

/-- Balanced stretches follow one another. -/
theorem Balanced.trans (before : Balanced levels o p) (after : Balanced levels p q) :
    Balanced levels o q where
  depth := after.depth.trans before.depth
  limits := after.limits.trans before.limits
  walk := by
    have later := after.walk
    rw [before.depth, before.levels_eq] at later
    exact Relation.ReflTransGen.trans before.walk later

/-- A balanced stretch is one within more levels. -/
theorem Balanced.mono (balanced : Balanced levels p q) (enough : max levels p.levels ≤
    max more p.levels) : Balanced more p q :=
  ⟨balanced.depth, balanced.limits, balanced.walk.mono (Nat.add_le_add_left enough _)⟩

/-- A move on one level is balanced. -/
theorem Move.balanced (move : p.Move q) (depth : q.depth = p.depth) (limits : q.limits = p.limits) :
    Balanced levels p q :=
  ⟨depth, limits, .single ⟨move, by omega⟩⟩

/-- White space that is taken ends on the level it began on. -/
theorem balanced_takeSpace (p : Parser) (among : Nat) : Balanced levels p (p.takeSpace among) := by
  induction among generalizing p with
  | zero => exact balanced_refl p
  | succ among ih =>
    exact Phrasing.related_ite (fun _ => ((Move.take p).balanced rfl rfl).trans (ih _))
      fun _ => balanced_refl p

/-- White space ends on the level it began on. -/
theorem balanced_skipSpace (p : Parser) : Balanced levels p p.skipSpace :=
  balanced_takeSpace p p.remaining

/-- A token ends on the level it began on. -/
theorem balanced_bump (p : Parser) : Balanced levels p p.bump :=
  (balanced_skipSpace p).trans
    (Phrasing.related_ite (fun _ => (Move.take _).balanced rfl rfl) fun _ => balanced_refl _)

/-- A report anywhere ends on the level it began on. -/
theorem balanced_errorAt (offset : Nat) (fault : SyntaxFault) (message : String) (p : Parser) :
    Balanced levels p (p.errorAt offset fault message) := by
  obtain ⟨depth, -, limits⟩ := p.errorAt_depth offset fault message
  exact (Move.report p offset fault message).balanced depth limits

/-- A refused level ends on the level it began on. -/
theorem balanced_refuse (p : Parser) : Balanced levels p p.refuse :=
  Phrasing.related_ite (fun _ => balanced_refl p) fun _ =>
    ((Move.markDeep p).balanced rfl rfl).trans (balanced_errorAt _ _ _ _)

/-- A node is opened on the level that the parser is on. -/
theorem balanced_start (p : Parser) (kind : NodeKind) : Balanced levels p (p.start kind) :=
  (balanced_skipSpace p).trans ((Move.openNode _ _ _).balanced rfl rfl)

/-- The end of a node is on the level of what is in it. -/
theorem Balanced.finish (inside : Balanced levels p q) : Balanced levels p q.finish :=
  inside.trans ((Move.closeNode q).balanced rfl rfl)

/-- A node ends on the level it began on, if what is in it does. -/
theorem balanced_node {kind : NodeKind} (inside : Balanced levels (p.start kind) q) :
    Balanced levels p q.finish := ((balanced_start p kind).trans inside).finish

/-- A placeholder ends on the level it began on. -/
theorem balanced_placeholder (p : Parser) : Balanced levels p p.placeholder :=
  (balanced_errorAt _ _ _ p).trans
    (balanced_node (Phrasing.related_ite (fun _ => balanced_refl _) fun _ => balanced_bump _))

/-- One level down, and up again. -/
theorem balanced_ascend (inside : Balanced levels p.descend q) :
    Balanced (levels + 1) p q.ascend where
  depth := by
    rw [ascend, inside.depth]
    exact Nat.add_sub_cancel _ _
  limits := inside.limits
  walk := by
    have depth : q.depth = p.depth + 1 := inside.depth
    have walk : Walk (p.depth + 1 + max levels p.descend.levels) p.descend q := inside.walk
    have left : p.descend.levels = p.levels - 1 := Nat.sub_add_eq _ _ 1
    rw [left] at walk
    have bound : p.depth + 1 + max levels (p.levels - 1) ≤
        p.depth + max (levels + 1) p.levels := by omega
    have down : p.Move p.descend ∧ p.descend.depth ≤ p.depth + max (levels + 1) p.levels :=
      ⟨.descend p, by change p.depth + 1 ≤ _; omega⟩
    have up : q.Move q.ascend ∧ q.ascend.depth ≤ p.depth + max (levels + 1) p.levels :=
      ⟨.ascend q, by change q.depth - 1 ≤ _; omega⟩
    exact .tail (.head down (walk.mono bound)) up

/-- A body ends on the level around it, if what is in it ends on its own. -/
theorem balanced_closeBody {closer : TokenKind} (inside : Balanced levels (p.openBody closer) q) :
    Balanced levels p q.closeBody :=
  (((Move.openBody p closer).balanced rfl rfl).trans inside).trans
    ((Move.closeBody q).balanced rfl rfl)

/-! ### Productions -/

/-- What stands in a tag is balanced. -/
theorem phrasing_balanced (levels : Nat) : Phrasing (Balanced levels) where
  refl := balanced_refl
  trans := Balanced.trans
  skipSpace := balanced_skipSpace
  bump _ _ := balanced_bump _
  error p _ _ _ := balanced_errorAt _ _ _ p
  refuse := balanced_refuse
  placeholder := balanced_placeholder
  node _ := balanced_node
  around _ _ before after :=
    ((before.trans ((Move.openAround _ _ _).balanced rfl rfl)).trans after).finish

/-- What is nested ends on the level it began on, within the levels it is given. -/
theorem balanced_nested (levels : Nat) (which : Nested) (p : Parser) :
    Balanced levels p (nested levels which p) :=
  Phrasing.nested phrasing_balanced balanced_ascend levels which p

/-- Reading with the levels that are left goes no deeper than reading with any number. -/
theorem Balanced.ofLeft (balanced : Balanced p.levels p q) : Balanced levels p q :=
  balanced.mono (by omega)

/-- An expression ends on the level it began on, within the levels that are left. -/
theorem balanced_expression (p : Parser) : Balanced levels p p.expression :=
  (balanced_nested p.levels .expression p).ofLeft

/-- An expression without a condition ends on the level it began on. -/
theorem balanced_orExpression (p : Parser) : Balanced levels p p.orExpression :=
  (balanced_nested p.levels .disjunction p).ofLeft

/-- A tuple or an expression ends on the level it began on. -/
theorem balanced_tupleOrExpression (p : Parser) : Balanced levels p p.tupleOrExpression :=
  (phrasing_balanced levels).tupleOrExpression balanced_expression p

/-- A primary expression ends on the level it began on. -/
theorem balanced_primary (p : Parser) : Balanced levels p (primary (nested p.levels) p) :=
  ((phrasing_balanced _).primary (balanced_nested p.levels) p).ofLeft

/-- An argument ends on the level it began on. -/
theorem balanced_argument (p : Parser) : Balanced levels p (argument (nested p.levels) p) :=
  ((phrasing_balanced _).argument (balanced_nested p.levels) p).ofLeft

/-- A list of parameters ends on the level it began on. -/
theorem balanced_parameterList (p : Parser) :
    Balanced levels p (parameterList (nested p.levels) p) := by
  have phrasing := phrasing_balanced p.levels
  have list (q : Parser) : Balanced p.levels q (if q.isAt (.punctuation .rightParen) then q else
      parameters (nested p.levels) (q.remaining + 1) q) :=
    Phrasing.related_ite (fun _ => balanced_refl q)
      fun _ => phrasing.parameters (balanced_nested p.levels) _ q
  exact (balanced_node (((balanced_bump _).trans (list _)).trans
    (phrasing.expectCloser _ rfl _))).ofLeft

/-- What is outside expressions is balanced. -/
theorem layout_balanced (levels : Nat) : Layout (Balanced levels) where
  refl := balanced_refl
  trans := Balanced.trans
  bump := balanced_bump
  errorAt := balanced_errorAt
  refuse := balanced_refuse
  node _ := balanced_node
  closeBody := balanced_closeBody
  expression := balanced_expression
  orExpression := balanced_orExpression
  tupleOrExpression := balanced_tupleOrExpression
  argument := balanced_argument
  parameterList := balanced_parameterList

/-- A statement ends on the level it began on. -/
theorem balanced_statement (p : Parser) : Balanced levels p p.statement :=
  (Layout.statementWithin layout_balanced balanced_ascend p.levels p).ofLeft

/-! ### Parts -/

/-- The productions that others are put together from. -/
inductive Part where
  | expression | orExpression | tupleOrExpression | primary | argument
  | targetList (message : String)
  | item | statement | variableTag | comment

/-- What a part does. -/
def Part.read : Part → Step
  | .expression => Parser.expression
  | .orExpression => Parser.orExpression
  | .tupleOrExpression => Parser.tupleOrExpression
  | .primary => fun p => Parser.primary (nested p.levels) p
  | .argument => fun p => Parser.argument (nested p.levels) p
  | .targetList message => fun p => p.targetList message
  | .item => Parser.item
  | .statement => Parser.statement
  | .variableTag => Parser.variableTag
  | .comment => Parser.comment

/-- Every part of the grammar reads on from everywhere. -/
theorem growing_part (part : Part) : Growing part.read := by
  intro p
  cases part with
  | expression => exact growing_expression p
  | orExpression => exact growing_orExpression p
  | tupleOrExpression => exact growing_tupleOrExpression p
  | primary => exact growing_primary (growing_nested p.levels) p
  | argument => exact growing_argument (growing_nested p.levels) p
  | targetList message => exact assembly_grows.targetList message p
  | item => exact growing_item p
  | statement => exact growing_statementWithin p.levels p
  | variableTag => exact assembly_grows.variableTag p
  | comment => exact assembly_grows.comment p

/-- Every part of the grammar ends on the level it began on, within the levels that are left. -/
theorem balanced_part (part : Part) (p : Parser) : Balanced p.levels p (part.read p) := by
  have layout := layout_balanced p.levels
  cases part with
  | expression => exact balanced_expression p
  | orExpression => exact balanced_orExpression p
  | tupleOrExpression => exact balanced_tupleOrExpression p
  | primary => exact balanced_primary p
  | argument => exact balanced_argument p
  | targetList message => exact layout.targetList message p
  | item => exact layout.contentItem balanced_statement p
  | statement => exact balanced_statement p
  | variableTag => exact layout.variableTag p
  | comment => exact layout.comment p

/-- A part of the grammar, whatever tokens it reads and whatever it refuses, ends on the level where
it began, with the same end tags awaited and the same nodes open. It does not go back; of the open
nodes only the innermost has changed, by more children after those it had. No parser on the way is
deeper than the limit, nor is any level recorded that is. -/
theorem part_balanced (part : Part) (p : Parser) (within : p.depth ≤ p.limits.depth)
    {innermost : OpenNode} {outer : List OpenNode}
    (opened : p.builder.opened = innermost :: outer) :
    let q := part.read p
    q.depth = p.depth ∧ q.awaited = p.awaited ∧
    q.builder.opened.length = p.builder.opened.length ∧
    (∃ children, q.builder.opened =
      { innermost with children := innermost.children ++ children } :: outer) ∧
    p.position ≤ q.position ∧
    Walk p.limits.depth p q ∧ q.maxDepth ≤ max p.maxDepth p.limits.depth := by
  intro q
  obtain ⟨shapes, reads⟩ := growing_part part p
  obtain ⟨_, children, -, -, still, -⟩ := reads.builder _ _ opened
  have deepest : p.depth + max p.levels p.levels = p.limits.depth := by
    rw [Nat.max_self, levels]
    omega
  have walk : Walk p.limits.depth p q := deepest ▸ (balanced_part part p).walk
  have same : q.builder.opened.length = p.builder.opened.length := by rw [still, opened]; rfl
  exact ⟨reads.depth, reads.awaited, same, ⟨children, still⟩, reads.forward, walk, walk.maxDepth_le⟩

/-- An expression in parentheses, on the last level: the one inside is refused, and the call ends on
the level where it began. -/
theorem part_balanced_refused :
    let stream : TokenStream := ⟨"", #[⟨.delimiter .variableStart, 0, 0⟩,
      ⟨.punctuation .leftParen, 0, 0⟩, ⟨.identifier, 0, 0⟩, ⟨.punctuation .rightParen, 0, 0⟩,
      ⟨.delimiter .variableEnd, 0, 0⟩], #[], .template⟩
    let p := ((ofStream stream { depth := 1 }).start .variableTag).bump.descend
    let q := Part.primary.read p
    p.builder.opened = [⟨.variableTag, #[.token 0], 0⟩] ∧ q.depthReported = true ∧
    q.depth = 1 ∧ q.builder.opened.length = 1 ∧ Walk 1 p q ∧ q.maxDepth ≤ 1 := by
  intro stream p q
  have opened : p.builder.opened = [⟨.variableTag, #[.token 0], 0⟩] := rfl
  have refused : q.depthReported = true := by decide
  obtain ⟨depth, -, nodes, -, -, walk, bound⟩ := part_balanced .primary p (by decide) opened
  refine ⟨opened, refused, depth, ?_, walk, bound⟩
  rw [nodes, opened]
  rfl

end Parser
end Stencil
