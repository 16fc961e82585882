import Stencil.Proofs.Containment.Swap
/-!
# Productions that begin with a token that is kept

A tag with no form of its own begins with an expression, whose first token is kept. Each production
on the way down to that token takes it on both sides, and may report it; after it the parsers go
apart. So the header of the tag takes both parsers from the tag's start into their windows.
-/

namespace Stencil
namespace Swap

open Stencil.Parser

variable {swap : Swap} {p q later other : Parser}

/-- A step that begins at the last token that is kept takes it on both sides. -/
def Entering (swap : Swap) (step : Step) : Prop :=
  ∀ ⦃p q : Parser⦄, swap.Before p q → swap.Apart p q (step p) (step q)

/-- An operand and what goes on around it. -/
theorem Entering.trailed {operand step : Step} {tail : Checkpoint → Step}
    (each : swap.Entering operand) (trailing : Trailing tail)
    (whole : ∀ p, step p = tail p.skipSpace.builder.checkpoint (operand p.skipSpace)) :
    swap.Entering step := by
  intro p q before
  rw [whole, whole]
  exact ((each before.skipSpace).trail trailing).since (growing_skipSpace p) (growing_skipSpace q)

/-- A token that is taken at the beginning of a node, and a step after it. -/
theorem Before.nodeStep (before : swap.Before p q) {step : Step} (each : InStep step)
    (kind : NodeKind) :
    swap.Apart p q (step (p.start kind).bump).finish (step (q.start kind).bump).finish :=
  ((before.start kind).taken.step each).node

section

variable (unmarked : swap.opening + 1 < swap.first)

include unmarked

/-- In a tag that is no variable tag the token that is kept is not structural. -/
theorem Before.loose (before : swap.Before p q) : p.atStructural = false := by
  have here := before.here
  have inside := swap.tag.loose (swap.left.visible p.position) (by omega)
    (Nat.lt_of_lt_of_le (here ▸ Nat.lt_succ_self _) swap.tag.ordered)
  rw [← before.left, ← current?_eq] at inside
  obtain ⟨kind, current⟩ := Option.isSome_iff_exists.1 before.isSome
  rw [current, Option.any_some, Bool.not_eq_true'] at inside
  exact (atStructural_of_current? current).trans inside

/-- A placeholder that begins at the last kept token takes it on both sides. -/
theorem entering_placeholder : swap.Entering placeholder := by
  intro p q before
  have opened := (before.error .expectedExpression "Expected expression").start .error
  have loose := opened.loose unmarked
  have loose' := opened.atStructural.trans loose
  have taken := opened.taken.node
  rw [placeholder, placeholder, loose, loose', if_neg Bool.false_ne_true, if_neg Bool.false_ne_true]
  exact taken.since (growing_error _ _ p) (growing_error _ _ q)

omit unmarked in
/-- A parser before a token is poised to enter the window that begins behind it. -/
theorem poised_itself {stream : TokenStream} {high : Nat} {holds : Findings → Prop}
    (source : p.stream = stream) (reported : holds p.findings)
    (here : p.stream.visible p.position = p.position) (seen : p.current?.isSome)
    (room : p.position + 1 ≤ high) :
    (itself stream (p.position + 1) high holds).Poised p p :=
  ⟨source, source, rfl, rfl, rfl, ⟨reported, reported⟩, here, here, rfl, seen,
    ⟨rfl, Nat.le_refl _, room⟩, alike_hole trivial⟩

section

variable {inner : Inner} (nested : ∀ which, InStep (inner which))
  (growing : ∀ which, Growing (inner which))

include nested growing

omit unmarked in
/-- An atom takes its first token on both sides. -/
theorem Before.atom (before : swap.Before p q)
    (here : p.stream.visible p.position = p.position)
    (also : q.stream.visible q.position = q.position) {step : Step}
    (asked : p.current?.bind (atomStep? inner) = some step) :
    swap.Apart p q (step p) (step q) := by
  obtain ⟨closer, window, window'⟩ := swap.exists_windows
  have left : p.position + 1 = swap.first := by
    rw [← before.here, ← before.left, here]
  have right : q.position + 1 = swap.first := by
    rw [← before.also, ← before.right, also]
  have seen := before.isSome
  have same := before.current?
  have one {holds : Findings → Prop}
      (indifferent : Indifferent swap.left swap.first swap.closing holds)
      (reported : holds p.findings) :
      Confined swap.left swap.first swap.closing holds p (step p) := by
    have poised := poised_itself before.left reported here seen (left ▸ swap.tag.ordered)
    rw [left] at poised
    exact confined_of_follows
      (poised.atom nested growing (lawful_itself window indifferent) asked)
  have two {holds : Findings → Prop}
      (indifferent : Indifferent swap.right swap.first swap.closing' holds)
      (reported : holds q.findings) :
      Confined swap.right swap.first swap.closing' holds q (step q) := by
    have poised := poised_itself before.right reported also (same ▸ seen)
      (right ▸ swap.splice.ordered)
    rw [right] at poised
    exact confined_of_follows
      (poised.atom nested growing (lawful_itself window' indifferent) (same ▸ asked))
  have first := one (swap.indifferent_left q.findings) before.record
  have second := two (swap.indifferent_right (step p).findings) first.holds
  exact ⟨{ first with holds := second.holds }, second⟩

/-- A primary expression that begins at the last kept token takes it on both sides. -/
theorem entering_primary : swap.Entering (primary inner) := by
  intro p q before
  have spaced := before.skipSpace
  rw [primary, primary, checkpoint, checkpoint]
  dsimp only
  rw [atom_eq, atom_eq, spaced.current?]
  cases asked : p.skipSpace.current?.bind (atomStep? inner) with
  | none =>
    exact (entering_placeholder unmarked spaced).since (growing_skipSpace p) (growing_skipSpace q)
  | some step =>
    have operand := spaced.atom nested growing p.visible_skipSpace q.visible_skipSpace asked
    exact (operand.trail (trailing_postfixes nested growing)).since (growing_skipSpace p)
      (growing_skipSpace q)

/-- A power that begins at the last kept token takes it on both sides. -/
theorem entering_powered : swap.Entering (powered inner) := by
  have filtered : swap.Entering (filtered inner) :=
    (entering_primary unmarked nested growing).trailed (trailing_filters nested growing)
      fun _ => rfl
  exact filtered.trailed (trailing_power nested) fun _ => rfl

/-- A factor that begins at the last kept token takes it on both sides. -/
theorem entering_factor : swap.Entering (factor inner) := by
  intro p q before
  refine both_ite ?_ (fun _ => before.nodeStep (nested .factor) .unaryExpression)
    fun _ => entering_powered unmarked nested growing before
  rw [atAny, atAny, before.current?]

omit nested growing unmarked in
/-- Operands of which the first takes the last kept token do so with operators between them. -/
theorem Entering.leftGrouped {operand : Step} (entering : swap.Entering operand)
    (each : InStep operand) (growing : Growing operand) (kind : NodeKind)
    {operators : List TokenKind} (loose : ∀ kind ∈ operators, kind.isStructural = false) :
    swap.Entering (leftGrouped kind operators operand) :=
  entering.trailed (trailing_operators each growing kind loose) fun _ => rfl

omit unmarked

variable (entering : ∀ which, swap.Entering (inner which))

include entering

/-- A comparison that begins at the last kept token takes it on both sides. -/
theorem entering_comparison : swap.Entering (comparison inner) := by
  have product : swap.Entering (product inner) :=
    (entering .factor).leftGrouped (nested .factor) (growing .factor) .termExpression (by decide)
  have sum : swap.Entering (sum inner) :=
    product.leftGrouped (inStep_product nested growing) (growing_product growing)
      .arithmeticExpression (by decide)
  exact sum.trailed (trailing_comparison nested growing) fun _ => rfl

/-- A negation that begins at the last kept token takes it on both sides. -/
theorem entering_negation : swap.Entering (negation inner) := by
  intro p q before
  refine both_ite ?_ (fun _ => before.nodeStep (nested .negation) .notExpression)
    fun _ => entering_comparison nested growing entering before
  rw [isAt, isAt, before.current?]

/-- A disjunction that begins at the last kept token takes it on both sides. -/
theorem entering_disjunction : swap.Entering (disjunction inner) := by
  have conjunction : swap.Entering (conjunction inner) :=
    (entering_negation nested growing entering).leftGrouped (inStep_negation nested growing)
      (growing_negation growing) .andExpression (by decide)
  exact conjunction.leftGrouped (inStep_conjunction nested growing) (growing_conjunction growing)
    .orExpression (by decide)

/-- A conditional expression that begins at the last kept token takes it on both sides. -/
theorem entering_conditional : swap.Entering (conditional inner) :=
  (entering_disjunction nested growing entering).trailed (trailing_condition nested growing)
    fun _ => rfl

end

/-- The nested productions take the token with any number of levels left. -/
theorem entering_nested (levels : Nat) (which : Nested) :
    swap.Entering (nested levels which) := by
  induction levels generalizing which with
  | zero =>
    intro p q before
    exact (entering_placeholder unmarked before.refuse).since (growing_refuse p) (growing_refuse q)
  | succ levels ih =>
    intro p q before
    have nested := inStep_nested levels
    have growing := growing_nested levels
    apply Apart.ascend
    cases which with
    | expression => exact entering_conditional nested growing ih before.descend
    | disjunction => exact entering_disjunction nested growing ih before.descend
    | negation => exact entering_negation nested growing ih before.descend
    | factor => exact entering_factor unmarked nested growing before.descend

/-- What stands in a tag takes the token, whatever it is. -/
theorem Before.header (before : swap.Before p q) :
    swap.Apart p q (header p.current? p) (header p.current? q) := by
  have plain (unnamed : p.current?.any TokenKind.isKeyword = false) :
      swap.Apart p q p.generic q.generic := by
    have loose := before.loose unmarked
    have loose' := before.atStructural.trans loose
    have round : swap.Apart p q (genericRound p) (genericRound q) := by
      refine both_ite ?_ (fun _ => before.taken) fun _ => ?_
      · rw [isAt, isAt, before.current?]
      · rw [expression, expression, before.levels]
        exact entering_nested unmarked p.levels .expression before
    have going {r : Parser} (unnamed : r.current?.any TokenKind.isKeyword = false)
        (loose : r.atStructural = false) :
        r.generic = (genericRound r).loop (fun p => !p.atStructural) genericRound := by
      have free (s : Parser) (goes : (!s.atStructural) = true) : s.atStructural = false := by
        simpa using goes
      rw [generic, unnamed, if_neg Bool.false_ne_true]
      exact loop_of_test (fun s goes => isSome_of_loose (free s goes))
        (fun s goes => ahead_ite (past_bump s) (taking_expression s (free s goes)))
        (by rw [loose]; rfl)
    rw [going unnamed loose, going (before.current? ▸ unnamed) loose']
    exact round.step inStep_genericRest
  cases here : p.current? with
  | none => exact plain (by rw [here]; rfl)
  | some kind =>
    cases kind with
    | keyword keyword =>
      obtain ⟨closer, window, window'⟩ := swap.exists_windows
      exact before.taken.both
        (fun indifferent confined => confined.header window indifferent here)
        fun indifferent confined => confined.header window' indifferent (before.current?.trans here)
    | _ => exact plain (by rw [here]; rfl)

end

end Swap
end Stencil
