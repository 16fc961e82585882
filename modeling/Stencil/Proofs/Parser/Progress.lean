import Stencil.Proofs.Parser.Statements
/-!
# Every repetition ends

`Past` says that the later parser is beyond the token the earlier one saw. An expression gets past
any token that does not belong to the construct around it, and an item past any token at all
(`past_item`). So every repetition of the parser ends by itself: its bound only has to exceed the
number of tokens that are left, and any two such bounds give the same (`Terminating`).
-/

namespace Stencil
namespace Parser

/-- The later parser reads the same stream and is no further back. -/
structure Ahead (earlier later : Parser) : Prop where
  stream : later.stream = earlier.stream
  position : earlier.position ≤ later.position

/-- The later parser is beyond the token that the earlier one saw. -/
def Past (earlier later : Parser) : Prop := earlier.bump.Ahead later

/-- What has read on is ahead. -/
theorem Grows.ahead {earlier later : Parser} (growth : earlier.Grows later) :
    earlier.Ahead later := by
  obtain ⟨shapes, reading⟩ := growth
  exact ⟨reading.stream, reading.forward⟩

section

variable {origin p later : Parser}

/-- What is ahead of a parser that is ahead is ahead. -/
theorem Ahead.trans (first : origin.Ahead p) (second : p.Ahead later) : origin.Ahead later :=
  ⟨second.stream.trans first.stream, Nat.le_trans first.position second.position⟩

/-- A step that reads on goes further ahead. -/
theorem Ahead.step {step : Step} (first : origin.Ahead p) (next : Growing step) :
    origin.Ahead (step p) := first.trans (next p).ahead

/-- A node opened at a checkpoint leaves a parser ahead. -/
theorem Ahead.startAt (first : origin.Ahead p) (checkpoint : Checkpoint) (kind : NodeKind) :
    origin.Ahead (p.startAt checkpoint kind) := ⟨first.stream, first.position⟩

/-- A closed node leaves a parser ahead. -/
theorem Ahead.finish (first : origin.Ahead p) : origin.Ahead p.finish :=
  ⟨first.stream, first.position⟩

/-- Whichever way a choice goes, the parser is ahead if it is on both. -/
theorem ahead_ite {left right : Parser} {test : Prop} [Decidable test]
    (yes : origin.Ahead left) (no : origin.Ahead right) :
    origin.Ahead (if test then left else right) := by
  split
  · exact yes
  · exact no

/-- A loop goes ahead if each round does. -/
theorem Ahead.loop {test : Parser → Bool} {body : Step} (first : origin.Ahead p)
    (round : ∀ q, origin.Ahead q → origin.Ahead (body q)) : origin.Ahead (p.loop test body) := by
  rw [Parser.loop]
  generalize p.remaining = times
  induction times generalizing p with
  | zero => exact first
  | succ times ih =>
    rw [repeatWhile]
    split
    · exact ih (round p first)
    · exact first

/-- Beyond a token fewer tokens are left. -/
theorem Past.remaining_lt (past : p.Past later) (seen : p.current?.isSome) :
    later.remaining < p.remaining := by
  have inside := (current?_isSome_iff p).1 seen
  have ahead := p.stream.le_visible p.position
  have further := past.position
  rw [bump_position, if_pos inside] at further
  rw [remaining, remaining, past.stream, (growing_bump p).ahead.stream]
  omega

/-- What sees the same token gets past the same. -/
theorem Past.of_sees (past : p.Past later) (same : origin.Sees p) : origin.Past later where
  stream := by
    rw [past.stream, (growing_bump p).ahead.stream, same.stream, (growing_bump origin).ahead.stream]
  position := by
    have further := past.position
    rw [bump_position, same.stream, same.visible] at further
    rw [bump_position]
    exact further

/-- A token that is taken is got past. -/
theorem past_bump (p : Parser) : p.Past p.bump := p.bump.grows_refl.ahead

/-- A node whose content gets past the token gets past it. -/
theorem past_node (kind : NodeKind) (inside : (p.start kind).Past later) : p.Past later.finish :=
  Past.of_sees (Ahead.finish inside) (sees_start p kind)

/-- A loop whose test holds gets past the token. -/
theorem past_loop {test : Parser → Bool} {body : Step} (seen : p.current?.isSome)
    (first : test p = true) (taken : p.Past (body p)) (round : Growing body) :
    p.Past (p.loop test body) := by
  have some : 0 < p.remaining := Nat.lt_of_le_of_lt (Nat.zero_le _) (taken.remaining_lt seen)
  obtain ⟨times, enough⟩ := Nat.exists_eq_succ_of_ne_zero (Nat.ne_of_gt some)
  rw [loop, enough, repeatWhile, if_pos first]
  clear enough
  generalize body p = q at taken
  induction times generalizing q with
  | zero => exact taken
  | succ times ih =>
    rw [repeatWhile]
    split
    · exact ih _ (Ahead.step taken round)
    · exact taken

end

/-! ### Expressions -/

/-- A step that gets past any token that does not belong to the construct around an expression. -/
def Taking (step : Step) : Prop := ∀ p : Parser, p.atStructural = false → p.Past (step p)

/-- A step after white space gets past what it gets past. -/
theorem Taking.skipSpace {step : Step} (taking : Taking step) {p : Parser}
    (loose : p.atStructural = false) : p.Past (step p.skipSpace) :=
  (taking p.skipSpace ((sees_skipSpace p).atStructural.trans loose)).of_sees (sees_skipSpace p)

/-- A token alone gets past the token that begins it. -/
theorem past_single (kind : NodeKind) (p : Parser) : p.Past (p.single kind) :=
  past_node kind (past_bump (p.start kind))

/-- A placeholder gets past a token that is not structural. -/
theorem taking_placeholder : Taking placeholder := by
  intro p loose
  have reported := sees_error p .expectedExpression "Expected expression"
  generalize report : p.error .expectedExpression "Expected expression" = q at reported
  have seen := (reported.trans (sees_start q .error)).atStructural.trans loose
  have taken : q.Past ((q.start .error).bump).finish := past_node .error (past_bump _)
  rw [placeholder, report, seen]
  exact taken.of_sees reported

/-- String literals side by side get past the token that begins them. -/
theorem past_strings {p : Parser} (seen : p.current? = some (.literal .string)) :
    p.Past p.strings := by
  have same := (sees_start p .stringLiteral).current?.trans seen
  exact past_node .stringLiteral (past_loop (by rw [same]; rfl)
    ((isAt_iff _ _).2 same) (past_bump _) growing_bump)

/-- A bracketed group gets past the token that begins it. -/
theorem past_group (kind : NodeKind) {item : Step} (each : Growing item) (closer : Punctuation)
    (separator bracket : String) (p : Parser) :
    p.Past (p.group kind item closer separator bracket) := by
  have opened := past_bump (p.start kind)
  have listed : (p.start kind).Past
      (if (p.start kind).bump.isAt (.punctuation closer) then (p.start kind).bump
      else items item (.punctuation closer) separator ((p.start kind).bump.remaining + 1)
        (p.start kind).bump) := ahead_ite opened (opened.step (growing_items each _ _ _))
  have closed := listed.step (growing_expectCloser (.punctuation closer) bracket)
  rw [group]
  exact past_node kind closed

section

variable {inner : Inner} (nested : ∀ which, Growing (inner which))
  (taking : ∀ which, Taking (inner which))

include nested

/-- An expression in parentheses gets past the token that begins it. -/
theorem past_parenthesized (p : Parser) : p.Past (parenthesized inner p) := by
  refine Past.of_sees ?_ (sees_skipSpace p)
  have opened := past_bump p.skipSpace
  have first := opened.step (nested .expression)
  have empty := (opened.startAt p.skipSpace.builder.checkpoint .tupleLiteral).step growing_bump
  have tuple (times : Nat) := (first.startAt p.skipSpace.builder.checkpoint .tupleLiteral).step
    (growing_moreItems (nested .expression) (fun p => p.isAt (.punctuation .rightParen)) times)
  have single := first.startAt p.skipSpace.builder.checkpoint .parenthesizedExpression
  exact ahead_ite empty.finish
    ((ahead_ite (tuple _) single).step (growing_expectCloser _ _)).finish

/-- An atom gets past a token that is not structural. -/
theorem taking_atom : Taking (fun p => (atom inner p).2) := by
  intro p loose
  simp only [atom]
  split
  · exact past_single _ p
  · exact past_strings (by assumption)
  · exact past_single _ p
  · exact past_single _ p
  · exact past_single _ p
  · exact past_single _ p
  · exact past_single _ p
  · exact past_parenthesized nested p
  · exact past_group _ (nested .expression) _ _ _ p
  · exact past_group _ (growing_dictEntry nested) _ _ _ p
  · exact taking_placeholder p loose

omit nested in
/-- A node opened around earlier operands gets past the token that its own content gets past. -/
theorem past_startAt {p later : Parser} (checkpoint : Checkpoint) (kind : NodeKind)
    (inside : (p.startAt checkpoint kind).Past later) : p.Past later.finish :=
  Past.of_sees (Ahead.finish inside) ⟨rfl, rfl⟩

omit nested in
/-- What gets past a token goes ahead. -/
theorem Past.ahead {p later : Parser} (past : p.Past later) : p.Ahead later :=
  (growing_bump p).ahead.trans past

/-- A call, a subscript or an attribute gets past the token that begins it. -/
theorem past_postfixStep (checkpoint : Checkpoint) (p : Parser) :
    p.Past (postfixStep inner checkpoint p) := by
  have member := past_bump (p.startAt checkpoint .attributeAccess)
  have subscript := (past_bump (p.startAt checkpoint .subscriptAccess)).step (nested .expression)
  have call := past_group .argumentList (growing_argument nested) .rightParen
    "Expected ',' or ')'" "Expected ')'" (p.startAt checkpoint .functionCall)
  exact ahead_ite (past_startAt _ _ (ahead_ite (member.step growing_bump)
      (member.step (growing_error _ _))))
    (ahead_ite (past_startAt _ _ (subscript.step (growing_expectCloser _ _)))
      (past_startAt _ _ call))

/-- A primary expression gets past a token that is not structural. -/
theorem taking_primary : Taking (primary inner) := by
  intro p loose
  have operand := (taking_atom nested).skipSpace loose
  exact ahead_ite
    (operand.loop fun q ahead => ahead.trans (past_postfixStep nested _ q).ahead) operand

/-- A filter gets past the token that begins it. -/
theorem past_filterStep (checkpoint : Checkpoint) (p : Parser) :
    p.Past (filterStep inner checkpoint p) := by
  have opened := past_bump (p.startAt checkpoint .filterExpression)
  have named := opened.step growing_bump
  exact past_startAt _ _ (ahead_ite (ahead_ite (named.step (growing_argumentList nested)) named)
    (opened.step (growing_error _ _)))

/-- An operand with filters gets past a token that is not structural. -/
theorem taking_filtered : Taking (filtered inner) := by
  intro p loose
  have operand := (taking_primary nested).skipSpace loose
  exact operand.loop fun q ahead => ahead.trans (past_filterStep nested _ q).ahead

omit nested in
/-- Each operator with its operand gets past the operator. -/
theorem past_operator {operand : Step} (each : Growing operand) (checkpoint : Checkpoint)
    (kind : NodeKind) (p : Parser) :
    p.Past (operand (p.startAt checkpoint kind).bump).finish :=
  past_startAt _ _ ((past_bump (p.startAt checkpoint kind)).step each)

omit nested in
/-- A row of operands with operators gets past a token that is not structural. -/
theorem taking_leftGrouped {operand : Step} (each : Growing operand) (taking : Taking operand)
    (kind : NodeKind) (operators : List TokenKind) :
    Taking (leftGrouped kind operators operand) := by
  intro p loose
  have first := taking.skipSpace loose
  exact first.loop fun q ahead => ahead.trans (past_operator each _ kind q).ahead

/-- A factor gets past a token that is not structural. -/
theorem taking_factor : Taking (factor inner) := by
  intro p loose
  have operand := (taking_filtered nested).skipSpace loose
  have power := ((operand.startAt p.skipSpace.builder.checkpoint .powerExpression).step
    growing_bump).step (nested .factor)
  exact ahead_ite (past_node _ ((past_bump _).step (nested .factor)))
    (ahead_ite power.finish operand)

include taking

/-- A product gets past a token that is not structural. -/
theorem taking_product : Taking (product inner) :=
  taking_leftGrouped (nested .factor) (taking .factor) _ _

/-- A sum gets past a token that is not structural. -/
theorem taking_sum : Taking (sum inner) :=
  taking_leftGrouped (growing_product nested) (taking_product nested taking) _ _

/-- A comparison gets past a token that is not structural. -/
theorem taking_comparison : Taking (comparison inner) := by
  intro p loose
  have operand := (taking_sum nested taking).skipSpace loose
  have other := growing_sum nested
  have compared := (operand.startAt p.skipSpace.builder.checkpoint .comparisonExpression).step
    growing_bump
  have tested := (operand.startAt p.skipSpace.builder.checkpoint .testExpression).step growing_bump
  exact ahead_ite (compared.step other).finish
    (ahead_ite ((compared.step growing_bump).step other).finish
      (ahead_ite ((tested.step (growing_skip _)).step other).finish operand))

/-- A negation gets past a token that is not structural. -/
theorem taking_negation : Taking (negation inner) := fun p loose =>
  ahead_ite (past_node _ ((past_bump _).step (nested .negation)))
    (taking_comparison nested taking p loose)

/-- A conjunction gets past a token that is not structural. -/
theorem taking_conjunction : Taking (conjunction inner) :=
  taking_leftGrouped (growing_negation nested) (taking_negation nested taking) _ _

/-- A disjunction gets past a token that is not structural. -/
theorem taking_disjunction : Taking (disjunction inner) :=
  taking_leftGrouped (growing_conjunction nested) (taking_conjunction nested taking) _ _

/-- A conditional expression gets past a token that is not structural. -/
theorem taking_conditional : Taking (conditional inner) := by
  intro p loose
  have operand := (taking_disjunction nested taking).skipSpace loose
  rw [conditional, checkpoint]
  dsimp only
  generalize disjunction inner p.skipSpace = q at operand ⊢
  have condition := ((operand.startAt p.skipSpace.builder.checkpoint
    .conditionalExpression).step growing_bump).step (growing_disjunction nested)
  generalize disjunction inner (q.startAt p.skipSpace.builder.checkpoint
    .conditionalExpression).bump = r at condition ⊢
  have alternative := (condition.step growing_bump).step (nested .expression)
  exact ahead_ite (ahead_ite alternative condition).finish operand

end

/-- The nested productions get past a token with any number of levels left. -/
theorem taking_nested (levels : Nat) (which : Nested) : Taking (nested levels which) := by
  induction levels generalizing which with
  | zero =>
    intro p loose
    have same := sees_refuse p
    exact (taking_placeholder p.refuse (same.atStructural.trans loose)).of_sees same
  | succ levels ih =>
    intro p loose
    have growing := growing_nested levels
    have same : p.Sees p.descend := ⟨rfl, rfl⟩
    have seen := same.atStructural.trans loose
    have inside : p.descend.Past (production (nested levels) which p.descend) := by
      cases which with
      | expression => exact taking_conditional growing ih _ seen
      | disjunction => exact taking_disjunction growing ih _ seen
      | negation => exact taking_negation growing ih _ seen
      | factor => exact taking_factor growing _ seen
    exact Past.of_sees ⟨inside.stream, inside.position⟩ same

/-- An expression gets past a token that is not structural. -/
theorem taking_expression : Taking expression := fun p loose => taking_nested p.levels _ p loose

/-! ### Items -/

/-- What is in a tag gets past the token that begins it. -/
theorem past_tagContents (first : Option TokenKind) (p : Parser) :
    p.Past (tagContents first p) :=
  ((past_bump p).step (growing_header first)).step (growing_terminate _)

/-- A block tag gets past the token that begins it. -/
theorem past_tag (kind : NodeKind) (first : Option TokenKind) (p : Parser) :
    p.Past (tag kind first p) := past_node kind (past_tagContents first _)

/-- A variable tag gets past the token that begins it. -/
theorem past_variableTag (p : Parser) : p.Past p.variableTag := by
  have inside := (past_bump (p.start .variableTag)).step growing_expression
  exact past_node .variableTag (inside.trans
    (grows_ite (growing_bump _) (growing_recover _ _ _ _)).ahead)

/-- A comment gets past the token that begins it. -/
theorem past_comment (p : Parser) : p.Past p.comment :=
  past_node .comment (((past_bump _).trans (growing_loop growing_bump _).ahead).trans
    (grows_ite (growing_bump _) (grows_ite (grows_refl _) (growing_error _ _ _))).ahead)

/-- Text gets past whatever is not the start of a tag. -/
theorem past_text {p : Parser} (seen : p.current?.isSome) (plain : p.atTagStart = false) :
    p.Past p.text := by
  have same := (sees_start p .text).current?
  have there : (p.start .text).current?.isSome := by rw [same]; exact seen
  have away : (p.start .text).atTagStart = false := by
    rw [atTagStart, atAny, same]
    exact plain
  refine past_node .text (past_loop there ?_ (past_bump _) growing_bump)
  rw [there, away]
  rfl

section

variable {statement : Step} (each : Growing statement) (taking : ∀ p : Parser, p.Past (statement p))

include taking

/-- An item of content gets past the token that begins it. -/
theorem past_contentItem {p : Parser} (seen : p.current?.isSome) :
    p.Past (contentItem statement p) := by
  rw [contentItem]
  split
  · exact taking p
  · exact past_variableTag p
  · exact past_comment p
  next kind noBlock noVariable noComment current =>
    apply past_text seen
    have other : kind ∉ ([.delimiter .blockStart, .delimiter .variableStart,
        .delimiter .commentStart] : List TokenKind) := by
      simp only [List.mem_cons, List.not_mem_nil, or_false]
      rintro (rfl | rfl | rfl)
      · exact noBlock rfl
      · exact noVariable rfl
      · exact noComment rfl
    rw [atTagStart, atAny, current, Option.any_some]
    simpa using other
  next none =>
    rw [none] at seen
    contradiction

omit taking in
include each in
/-- A statement with a body gets past the token that begins it. -/
theorem past_bodyStatement (opener closer : Keyword) (p : Parser) :
    p.Past (bodyStatement statement opener closer p) := by
  have opened := past_tagContents (some (.keyword opener)) (p.start opener.node)
  have ended (stop : BodyStop) (q : Parser) : q.Grows (endTag opener closer p.offset stop q) :=
    grows_ite (growing_tag rfl _ q) (growing_errorAt _ _ _ q)
  rw [bodyStatement]
  dsimp only
  generalize tagContents (some (.keyword opener)) (p.start opener.node) = q at opened ⊢
  have items : (q.openBody (.keyword closer)).Grows (body statement opener closer
      ((q.openBody (.keyword closer)).remaining + 1) (q.openBody (.keyword closer))).2 :=
    growing_body each opener closer _ _
  generalize body statement opener closer ((q.openBody (.keyword closer)).remaining + 1)
    (q.openBody (.keyword closer)) = found at items ⊢
  have later := growing_branches each opener closer (found.2.remaining + 1) found.1 found.2
  have inside := grows_closeBody (Grows.trans items later)
  exact past_node opener.node (opened.trans (inside.trans (ended _ _)).ahead)

end

/-- A statement without a body gets past the token that begins it. -/
theorem past_plainStatement (first : Option TokenKind) (p : Parser) :
    p.Past (plainStatement first p) := by
  unfold plainStatement
  split
  · exact ahead_ite (Past.of_sees (past_tag _ _ _) (sees_error p _ _))
      (ahead_ite (Past.of_sees (past_tag _ _ _) (sees_error p _ _)) (past_tag _ _ p))
  · exact past_tag _ _ p

/-- A statement within some levels gets past the token that begins it. -/
theorem past_statementWithin (levels : Nat) (p : Parser) : p.Past (statementWithin levels p) := by
  have deeper : p.Sees p.descend := ⟨rfl, rfl⟩
  cases levels with
  | zero =>
    rw [statementWithin]
    split
    · exact Past.of_sees (past_tag _ _ _) (sees_refuse p)
    · exact past_plainStatement _ p
  | succ levels =>
    rw [statementWithin]
    split
    next opener closer opens =>
      have inside := past_bodyStatement (growing_statementWithin levels) opener closer p.descend
      exact Past.of_sees ⟨inside.stream, inside.position⟩ deeper
    next => exact past_plainStatement _ p

/-- A statement gets past the token that begins it. -/
theorem past_statement (p : Parser) : p.Past p.statement := past_statementWithin p.levels p

/-- An item gets past any token. -/
theorem past_item {p : Parser} (seen : p.current?.isSome) : p.Past p.item :=
  past_contentItem past_statement seen

end Parser
end Stencil
