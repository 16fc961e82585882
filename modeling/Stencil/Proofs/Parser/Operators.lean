import Stencil.Proofs.Parser.Operands
/-!
# Expressions are parsed as they are derived

The operators of each precedence are complete for their phrases, and so are the nested productions,
by induction on the levels of nesting. `expression_derives` says so of whole expressions: the parser
reads exactly the tokens of a derivation, reports nothing and adds the tree of that derivation.
-/

namespace Stencil
namespace Parser

open Grammar (Phrase Operand Ends binding space word token spaced node around derives tightness)

variable {stream : TokenStream}

/-- Operands with operators of one precedence between them are parsed, grouped to the left. -/
theorem complete_leftGrouped {operand : Step} {phrase : Operand} {level : Nat}
    (base : Complete stream operand (spaced stream phrase) (level + 1)) (each : Growing operand)
    (kind : NodeKind) (operators : List TokenKind)
    (binds : ∀ kind ∈ operators, binding kind = level) :
    Complete stream (leftGrouped kind operators operand)
      (spaced stream (Grammar.leftGrouped stream kind operators.contains phrase)) level := by
  refine complete_checkpoint (fun p => ?_) fun p stop shape source here found ends => ?_
  · rw [leftGrouped, leftGrouped, checkpoint_skipSpace]
  rw [leftGrouped, checkpoint_of_visible here]
  dsimp only
  refine parses_chain operand
    (fun checkpoint q => (operand (q.startAt checkpoint kind).bump).finish) base (fun q => rfl)
    (fun kind member => binds kind (by simpa using member)) (fun inside start stop shape => ?_)
    (fun checkpoint q _ => past_operator each checkpoint kind q)
    (fun p q middle stop inside shape parses found ends => ?_) source here found ends
  · rintro ⟨_, ⟨_, _, _, operator, -, -⟩, -⟩
    exact operator.1
  · obtain ⟨_, ⟨_, left, right, operator, next, rfl⟩, rfl⟩ := found
    have opened := (parses_startAt parses p.builder.checkpoint kind).bump operator
    exact parses.around (opened.step base next ends)

/-- A sign is one of two operators. -/
theorem atAny_signs (p : Parser) :
    p.atAny [.operator .minus, .operator .plus] = p.current?.any Grammar.isSign := by
  rw [atAny]
  congr 1
  funext kind
  simp only [Grammar.isSign, List.contains_cons, List.contains_nil, Bool.or_false,
    Bool.beq_eq_decide_eq]

/-- What a factor does where no sign is: an operand, and a power if there is one. -/
def powered (inner : Inner) (p : Parser) : Parser :=
  let (checkpoint, p) := p.checkpoint
  let p := filtered inner p
  if p.isAt (.operator .power) then
    (inner .factor (p.startAt checkpoint .powerExpression).bump).finish
  else
    p

section

variable {inner : Inner} {below : Nested → Operand}
  (complete : ∀ which,
    Complete stream (inner which) (spaced stream (below which)) (tightness which))
  (opens : ∀ which, Grammar.Opens stream (Grammar.opening which) (below which))
  (growing : ∀ which, Growing (inner which))

include complete opens growing

/-- An operand with or without a power is parsed. -/
theorem complete_powered : Complete stream (powered inner) (spaced stream fun start stop shape =>
    Grammar.Factor stream below start stop shape ∧
      (stream.kindAt? start).any Grammar.isSign = false) 7 := by
  have base := complete_filtered complete opens growing
  refine complete_checkpoint (fun p => ?_) fun p stop shape source here found ends => ?_
  · rw [powered, powered, checkpoint_skipSpace]
  obtain ⟨found, unsigned⟩ := found
  rw [powered, checkpoint_of_visible here]
  dsimp only
  cases found with
  | signed sign =>
    obtain ⟨_, ⟨_, _, _, sign, -, -⟩, -⟩ := sign
    have signed := sign.1
    rw [← source, here, source, unsigned] at signed
    contradiction
  | plain only =>
    have whole := base.operand source here only (ends.mono (by decide))
    have none : ¬(filtered inner p).isAt (.operator .power) = true := by
      rw [whole.isAt_iff]
      exact ends.ne (Nat.le_refl _)
    rw [if_neg none]
    exact whole
  | power left exponent =>
    obtain ⟨_, ⟨_, _, _, power, next, rfl⟩, rfl⟩ := exponent
    have first :=
      base.operand source here left (ends_of_binding (kindAt?_of_token power) (by decide))
    have opened := (parses_startAt first p.builder.checkpoint .powerExpression).bump power
    rw [if_pos (first.at_token power)]
    exact first.around (opened.step (complete .factor) next ends)

/-- A sign before a factor, or an operand with or without a power, is parsed. -/
theorem complete_factor :
    Complete stream (factor inner) (spaced stream (Grammar.Factor stream below)) 7 := by
  rintro p stop shapes source ⟨shape, found, rfl⟩ ends
  have same := parses_refl source
  have sees : p.atAny [.operator .minus, .operator .plus] =
      (stream.kindAt? (stream.visible p.position)).any Grammar.isSign := by
    rw [atAny_signs, same.current?]
  cases unsigned : (stream.kindAt? (stream.visible p.position)).any Grammar.isSign with
  | false =>
    rw [factor, sees, unsigned, if_neg Bool.false_ne_true]
    exact complete_powered complete opens growing p stop _ source ⟨_, ⟨found, unsigned⟩, rfl⟩ ends
  | true =>
    rw [factor, sees, unsigned, if_pos rfl]
    have notFiltered {stop : Nat} {shape : Shape}
        (left : Grammar.filtered stream below (stream.visible p.position) stop shape) : False := by
      have starts := Grammar.opens_filtered _ _ _ (stream.visible_visible _) left
      have first := starts.kind
      cases seen : stream.kindAt? (stream.visible p.position) with
      | none =>
        rw [seen] at first
        contradiction
      | some kind =>
        rw [seen] at unsigned first
        exact Bool.false_ne_true ((Grammar.opensAtom_of_isSign unsigned).symm.trans first)
    cases found with
    | signed sign =>
      obtain ⟨_, ⟨_, _, _, sign, next, rfl⟩, rfl⟩ := sign
      have opened := (parses_start source .unaryExpression).bump sign
      exact same.node (opened.step (complete .factor) next ends)
    | plain only => exact absurd only notFiltered
    | power left _ => exact absurd left notFiltered

omit opens in
/-- Factors with operators between them are parsed. -/
theorem complete_product :
    Complete stream (product inner) (spaced stream (Grammar.product stream below)) 6 := by
  apply complete_leftGrouped (complete .factor) (growing .factor) _ Grammar.productOperators
  decide

omit opens in
/-- Products with operators between them are parsed. -/
theorem complete_sum :
    Complete stream (sum inner) (spaced stream (Grammar.sum stream below)) 5 := by
  refine complete_leftGrouped (complete_product complete growing) (growing_product growing) _
    Grammar.sumOperators ?_
  decide

/-- A sum, a comparison or a test is parsed. -/
theorem complete_comparison :
    Complete stream (comparison inner) (spaced stream (Grammar.Comparison stream below)) 4 := by
  have base := complete_sum complete growing
  refine complete_checkpoint (fun p => ?_) fun p stop shape source here found ends => ?_
  · rw [comparison, comparison, checkpoint_skipSpace]
  rw [comparison, checkpoint_of_visible here]
  change Parses stream p (if (sum inner p).current?.any Grammar.comparesAlone then _ else _) stop
    [shape]
  cases found with
  | plain only =>
    have whole := base.operand source here only (ends.mono (by decide))
    have alone : ¬(sum inner p).current?.any Grammar.comparesAlone = true := by
      rw [whole.current?, ends.any fun kind member =>
        Nat.le_of_eq (Grammar.binding_of_comparesAlone member).symm]
      exact Bool.false_ne_true
    have noNot : ¬((sum inner p).isAt (.keyword .notKw) &&
        (sum inner p).nth? 1 = some (.keyword .inKw)) = true := by
      rw [Bool.and_eq_true, whole.isAt_iff]
      exact fun both => ends.ne (Nat.le_refl _) both.1
    have noTest : ¬(sum inner p).isAt (.keyword .isKw) = true := by
      rw [whole.isAt_iff]
      exact ends.ne (Nat.le_refl _)
    rw [if_neg alone, if_neg noNot, if_neg noTest]
    exact whole
  | compared left right =>
    obtain ⟨_, ⟨middle, _, _, operator, next, rfl⟩, rfl⟩ := right
    have between : Ends stream 5 _ := ends_of_word operator fun kind member => by
      rw [Grammar.binding_of_comparesAlone member]
      decide
    have first := base.operand source here left between
    have alone : (sum inner p).current?.any Grammar.comparesAlone = true := by
      rw [first.current?]
      exact operator.1
    have opened := (parses_startAt first p.builder.checkpoint .comparisonExpression).bump operator
    rw [if_pos alone]
    exact first.around (opened.step base next (ends.mono (by decide)))
  | excluded left right =>
    obtain ⟨_, ⟨_, _, _, ⟨_, _, _, negated, contained, rfl⟩, next, rfl⟩, rfl⟩ := right
    have current := kindAt?_of_token negated
    have first := base.operand source here left (ends_of_binding current (by decide))
    have alone : ¬(sum inner p).current?.any Grammar.comparesAlone = true := by
      rw [first.current?, current]
      decide
    have both : ((sum inner p).isAt (.keyword .notKw) &&
        (sum inner p).nth? 1 = some (.keyword .inKw)) = true := by
      rw [Bool.and_eq_true, first.isAt_iff, decide_eq_true_iff, first.next?, ← negated.2.1]
      exact ⟨current, kindAt?_of_token contained⟩
    have opened := (parses_startAt first p.builder.checkpoint .comparisonExpression).bump negated
    rw [if_neg alone, if_pos both]
    exact first.around ((opened.bump contained).step base next (ends.mono (by decide)))
  | tested left right =>
    obtain ⟨_, ⟨_, _, _, ⟨_, _, _, test, negated, rfl⟩, next, rfl⟩, rfl⟩ := right
    have current := kindAt?_of_token test
    have first := base.operand source here left (ends_of_binding current (by decide))
    have alone : ¬(sum inner p).current?.any Grammar.comparesAlone = true := by
      rw [first.current?, current]
      decide
    have noNot : ¬((sum inner p).isAt (.keyword .notKw) &&
        (sum inner p).nth? 1 = some (.keyword .inKw)) = true := by
      rw [Bool.and_eq_true, first.isAt_iff, current]
      exact fun both => nomatch both.1
    have opened := (parses_startAt first p.builder.checkpoint .testExpression).bump test
    have unsigned := opened.skip negated fun _ => by
      obtain ⟨_, next, -⟩ := next
      exact Grammar.ne_of_any (Grammar.opens_sum (opens .factor) _ _ _ (stream.visible_visible _)
        next).kind rfl
    rw [if_neg alone, if_neg noNot, if_pos (first.at_token test)]
    exact first.around (unsigned.step base next (ends.mono (by decide)))

/-- A negated operand or a comparison is parsed. -/
theorem complete_negation :
    Complete stream (negation inner) (spaced stream (Grammar.Negation stream below)) 4 := by
  rintro p stop shapes source ⟨shape, found, rfl⟩ ends
  have same := parses_refl source
  cases found with
  | negated operand =>
    obtain ⟨_, ⟨_, _, _, sign, next, rfl⟩, rfl⟩ := operand
    have here : p.isAt (.keyword .notKw) = true :=
      (same.isAt_iff _).2 ((same.current?).symm.trans (current?_of_token source sign))
    have opened := (parses_start source .notExpression).bump sign
    rw [negation, if_pos here]
    exact same.node (opened.step (complete .negation) next ends)
  | plain only =>
    have starts := Grammar.opens_comparison (opens .factor) _ _ _ (stream.visible_visible _) only
    have absent : ¬p.isAt (.keyword .notKw) = true := by
      rw [same.isAt_iff]
      exact Grammar.ne_of_any starts.kind rfl
    rw [negation, if_neg absent]
    exact complete_comparison complete opens growing p stop _ source ⟨_, only, rfl⟩ ends

/-- Negations with `and` between them are parsed. -/
theorem complete_conjunction :
    Complete stream (conjunction inner) (spaced stream (Grammar.conjunction stream below)) 3 := by
  refine complete_leftGrouped (complete_negation complete opens growing)
    (growing_negation growing) _ [.keyword .andKw] ?_
  decide

/-- Conjunctions with `or` between them are parsed. -/
theorem complete_disjunction :
    Complete stream (disjunction inner) (spaced stream (Grammar.disjunction stream below)) 2 := by
  refine complete_leftGrouped (complete_conjunction complete opens growing)
    (growing_conjunction growing) _ [.keyword .orKw] ?_
  decide

/-- A disjunction with or without a condition, and that with or without an alternative, is
parsed. -/
theorem complete_conditional :
    Complete stream (conditional inner) (spaced stream (Grammar.Conditional stream below)) 1 := by
  have base := complete_disjunction complete opens growing
  refine complete_checkpoint (fun p => ?_) fun p stop shape source here found ends => ?_
  · rw [conditional, conditional, checkpoint_skipSpace]
  rw [conditional, checkpoint_of_visible here]
  dsimp only
  cases found with
  | plain only =>
    have whole := base.operand source here only (ends.mono (by decide))
    have none : ¬(disjunction inner p).isAt (.keyword .ifKw) = true := by
      rw [whole.isAt_iff]
      exact ends.ne (Nat.le_refl _)
    rw [if_neg none]
    exact whole
  | condition value rest =>
    obtain ⟨_, ⟨_, _, _, ⟨_, _, _, mark, test, rfl⟩, other, rfl⟩, rfl⟩ := rest
    have first := base.operand source here value
      (ends_of_binding (kindAt?_of_token mark) (by decide))
    have opened := (parses_startAt first p.builder.checkpoint .conditionalExpression).bump mark
    rw [if_pos (first.at_token mark)]
    rcases other with ⟨rfl, rfl⟩ | ⟨_, _, _, mark', alternative, rfl⟩
    · have tested := opened.step base test (ends.mono (by decide))
      have none : ¬(disjunction inner ((disjunction inner p).startAt p.builder.checkpoint
          .conditionalExpression).bump).isAt (.keyword .elseKw) = true := by
        rw [tested.isAt_iff]
        exact ends.ne (Nat.le_refl _)
      rw [if_neg none, List.append_nil]
      exact first.around tested
    · have tested := opened.step base test (ends_of_binding (kindAt?_of_token mark') (by decide))
      rw [if_pos (tested.at_token mark')]
      have whole := (tested.bump mark').step (complete .expression) alternative ends
      rw [List.append_assoc] at whole
      exact first.around whole

end

/-- The nested productions are parsed with as many levels left as a derivation nests. -/
theorem complete_nested (levels : Nat) (which : Nested) :
    Complete stream (nested levels which) (spaced stream (derives stream levels which))
      (tightness which) := by
  induction levels generalizing which with
  | zero =>
    rintro p stop shapes - ⟨shape, found, -⟩
    exact absurd found id
  | succ levels ih =>
    intro p stop shapes source found ends
    have opens := @Grammar.opens_derives stream levels
    have growing := growing_nested levels
    apply parses_ascend
    cases which with
    | expression =>
      exact complete_conditional ih opens growing p.descend stop shapes source found ends
    | disjunction =>
      exact complete_disjunction ih opens growing p.descend stop shapes source found ends
    | negation => exact complete_negation ih opens growing p.descend stop shapes source found ends
    | factor => exact complete_factor ih opens growing p.descend stop shapes source found ends

/-- Whole expressions are parsed. -/
theorem complete_expression (levels : Nat) {p : Parser} {stop : Nat} {shapes : List Shape}
    (source : p.stream = stream) (enough : p.levels = levels)
    (found : Grammar.subexpression stream (derives stream levels) p.position stop shapes)
    (ends : Ends stream 1 stop) : Parses stream p p.expression stop shapes := by
  rw [expression, enough]
  exact complete_nested levels .expression p stop shapes source found ends

/-- Where a delimiter, a line end or nothing follows an expression ends. -/
theorem ends_of_structural {stop level : Nat} (positive : 0 < level)
    (followed : ∀ kind, stream.kindAt? (stream.visible stop) = some kind →
      kind.isStructural = true) : Ends stream level stop := by
  intro kind next
  rw [Grammar.binding_of_isStructural (followed kind next)]
  exact positive

/-- Every expression that nests within the levels left, and is followed by a delimiter, a line end
or nothing, is parsed: exactly its tokens are read, nothing is reported, and besides the white space
before it one node is added, the tree of its derivation. -/
theorem expression_derives {p : Parser} {stop : Nat} {shape : Shape}
    (derivation : derives p.stream p.levels .expression (p.stream.visible p.position) stop shape)
    (followed : ∀ kind, p.stream.kindAt? (p.stream.visible stop) = some kind →
      kind.isStructural = true) :
    Parses p.stream p p.expression stop (space p.stream p.position ++ [shape]) ∧
      ∃ kind children, shape = .node kind children :=
  ⟨complete_expression p.levels rfl rfl ⟨shape, derivation, rfl⟩
    (ends_of_structural Nat.one_pos followed), Grammar.nodes_derives _ _ _ _ _ derivation⟩

/-- A sign stands around a power, inside a variable tag that is open: its opening, white space, a
minus, a name, the power and another name. -/
theorem expression_derives_power :
    let stream : TokenStream := ⟨"", #[⟨.delimiter .variableStart, 0, 2⟩, ⟨.whitespace, 2, 3⟩,
      ⟨.operator .minus, 3, 4⟩, ⟨.identifier, 4, 5⟩, ⟨.operator .power, 5, 7⟩,
      ⟨.identifier, 7, 8⟩], #[], .variableTag⟩
    let builder := ((TreeBuilder.empty stream.tokens).start .variableTag 0).token 0
    let p := { ofStream stream with position := 1, builder := builder }
    let shape : Shape := .node .unaryExpression [.token 2, .node .powerExpression
      [.node .variableReference [.token 3], .token 4, .node .variableReference [.token 5]]]
    p.builder.opened = [⟨.variableTag, #[.token 0], 0⟩] ∧
      derives stream p.levels .expression 2 6 shape ∧
      Parses stream p p.expression 6 [.token 1, shape] := by
  intro stream builder p shape
  have name {levels start : Nat} (here : stream.kindAt? start = some .identifier)
      (solid : stream.visible start = start) :
      Grammar.filtered stream (derives stream levels) start (start + 1)
        (.node .variableReference [.token start]) := by
    refine .single (.single (.name ⟨_, ⟨?_, ?_, ?_⟩, rfl⟩))
    · rw [solid, here]
      rfl
    · rw [solid]
    · rw [Nat.add_sub_cancel_left]
      rfl
  have base := @name 253 3 (by decide) (by decide)
  have exponent := @name 252 5 (by decide) (by decide)
  have power : derives stream 254 .factor 3 6 (.node .powerExpression
      [.node .variableReference [.token 3], .token 4, .node .variableReference [.token 5]]) :=
    .power base ⟨_, ⟨5, [.token 4], [.node .variableReference [.token 5]],
      ⟨by decide, by decide, rfl⟩, ⟨_, .plain exponent, rfl⟩, rfl⟩, rfl⟩
  have signed : derives stream 255 .factor 2 6 shape :=
    .signed ⟨_, ⟨3, _, _, ⟨by decide, by decide, rfl⟩, ⟨_, power, rfl⟩, rfl⟩, rfl⟩
  have derivation : derives stream p.levels .expression 2 6 shape :=
    .plain (.single (.single (.plain (.plain (.single (.single signed))))))
  have beyond : stream.kindAt? (stream.visible 6) = none := by decide
  have followed (kind : TokenKind) (next : stream.kindAt? (stream.visible 6) = some kind) :
      kind.isStructural = true := absurd (beyond.symm.trans next) nofun
  exact ⟨rfl, derivation, (@expression_derives p 6 shape derivation followed).1⟩

end Parser
end Stencil
