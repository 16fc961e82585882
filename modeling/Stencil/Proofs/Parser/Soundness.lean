import Stencil.Proofs.Parser.Answers
import Stencil.Proofs.Parser.Operators
/-!
# What is read without a report is derived

Each production is sound for its phrases, given that the nested productions one level further down
are: it reads a derivation into its tree or reports something. The cases of a production are the
branches of the parser, and every branch that is no derivation reports. `expression_sound` puts
this together for whole expressions, by induction on the levels of nesting.
-/

namespace Stencil
namespace Parser

open Grammar (Phrase Operand space word token spaced node around alone extended derives)

variable {stream : TokenStream} {p q : Parser}

/-! ### Groups -/

/-- A group of brackets is read with its items, or something is reported. -/
theorem answers_group (kind : NodeKind) {item : Step} {operand : Operand}
    {opener closer : Punctuation} (each : Sound stream item (spaced stream operand))
    (separator message : String) (source : p.stream = stream)
    (opening : p.isAt (.punctuation opener) = true) :
    Answers stream (spaced stream (Grammar.bracketed stream kind opener closer operand)) p
      (p.group kind item closer separator message) := by
  have opened := answers_start_bump source kind (any_of_isAt opening)
  rw [group]
  apply Answers.node source
  by_cases closed : (p.start kind).bump.isAt (.punctuation closer) = true
  · rw [if_pos closed]
    refine (opened.step (sound_expectCloser (.punctuation closer) message)).weaken
      (Phrase.Within.before ?_ _)
    exact Phrase.within_append_optional _ _
  · rw [if_neg closed, Phrase.append_assoc]
    refine (opened.trans (answers_items each separator message _ opened.kept closed)).weaken ?_
    exact ((Phrase.within_optional _).before _).after _

/-- A node of one token is read where the token is seen. -/
theorem answers_single (kind : NodeKind) {kinds : TokenKind → Bool} (source : p.stream = stream)
    (seen : p.current?.any kinds = true) :
    Answers stream (spaced stream (node kind (word stream kinds))) p (p.single kind) :=
  (answers_start_bump source kind seen).node source

/-- String literals one after another are read. -/
theorem answers_strings (source : p.stream = stream) (seen : p.isAt (.literal .string) = true) :
    Answers stream (spaced stream (node .stringLiteral (token stream (.literal .string)).repeated))
      p p.strings := by
  have opened : (p.start .stringLiteral).isAt (.literal .string) = true :=
    (isAt_start p _ _).trans seen
  rw [strings, loop_of_test (fun _ => isSome_of_isAt) (fun q _ => past_bump q) opened]
  apply Answers.node source
  refine loop_keeps (fun q now goes => (now.take goes).weaken (Grammar.repeated_concat _)) ?_
  exact (answers_start_bump source _ (any_of_isAt seen)).weaken fun _ _ _ found => .last found

section

variable {inner : Inner} {below : Nested → Operand}
  (sound : ∀ which, Sound stream (inner which) (spaced stream (below which)))

include sound

/-- Parentheses are read around nothing, an expression or several, or something is reported. -/
theorem answers_parenthesized (source : p.stream = stream)
    (here : p.stream.visible p.position = p.position)
    (opening : p.isAt (.punctuation .leftParen) = true) :
    Answers stream (alone (Grammar.Parenthesized stream below)) p (parenthesized inner p) := by
  have opened := answers_bump source (any_of_isAt opening)
  rw [parenthesized, checkpoint_of_visible here]
  dsimp only
  by_cases empty : p.bump.isAt (.punctuation .rightParen) = true
  · rw [if_pos empty]
    have closing := answers_startAt_bump opened.kept p.builder.checkpoint .tupleLiteral
      (any_of_isAt empty)
    exact (opened.wrap closing).widen fun _ _ _ found => .empty found
  rw [if_neg empty]
  have first := opened.step (sound .expression)
  by_cases several : (inner .expression p.bump).isAt (.punctuation .comma) = true
  · rw [if_pos several]
    have tail : Answers stream _ ((inner .expression p.bump).startAt p.builder.checkpoint
        .tupleLiteral) _ := answers_further (fun q => q.isAt (.punctuation .rightParen))
      (sound .expression) first.kept several
    refine (first.wrap (tail.step (sound_expectCloser _ _))).widen fun start stop shape found => ?_
    rw [← Phrase.append_assoc] at found
    exact .tuple found
  · rw [if_neg several]
    have closed := sound_expectCloser (.punctuation .rightParen) "Expected ')'"
      ((inner .expression p.bump).startAt p.builder.checkpoint .parenthesizedExpression) first.kept
    exact (first.wrap closed).widen fun _ _ _ found => .single found

/-- A name with a value or a value alone is read, or something is reported. -/
theorem sound_argument :
    Sound stream (argument inner) (spaced stream (Grammar.Argument stream below)) := by
  intro p source
  rw [argument]
  by_cases named : (p.isAt .identifier && p.nth? 1 = some (.operator .assign)) = true
  · rw [if_pos named]
    have sees : ((p.start .keywordArgument).isAt .identifier &&
        (p.start .keywordArgument).nth? 1 = some (.operator .assign)) = true := by
      rw [isAt_start, (sees_start p .keywordArgument).next?]
      exact named
    have name : (p.start .keywordArgument).isAt .identifier = true :=
      (Bool.and_eq_true_iff.1 sees).1
    have assigned := (answers_bump (stream_start source _) (any_of_isAt name)).take (isAt_bump sees)
    refine ((assigned.step (sound .expression)).node source).weaken ?_
    rintro start stop _ ⟨shape, found, rfl⟩
    exact ⟨shape, .keyword found, rfl⟩
  · rw [if_neg named]
    refine (sound .expression p source).weaken ?_
    rintro start stop _ ⟨shape, found, rfl⟩
    exact ⟨shape, .value found, rfl⟩

/-- Arguments between parentheses are read, or something is reported. -/
theorem answers_argumentList (source : p.stream = stream)
    (opening : p.isAt (.punctuation .leftParen) = true) :
    Answers stream (spaced stream (Grammar.argumentList stream below)) p (argumentList inner p) :=
  answers_group .argumentList (sound_argument sound) _ _ source opening

/-- A key, a colon and a value are read, or something is reported. -/
theorem sound_dictEntry :
    Sound stream (dictEntry inner) (spaced stream (Grammar.dictEntry stream below)) := by
  intro p source
  have key := sound .expression (p.start .dictEntry) (stream_start source _)
  rw [dictEntry]
  apply Answers.node source
  by_cases colon : (inner .expression (p.start .dictEntry)).isAt (.punctuation .colon) = true
  · rw [if_pos colon]
    exact (key.take colon).step (sound .expression)
  · rw [if_neg colon]
    exact key.error _ _

/-! ### Atoms and what follows them -/

omit sound in
/-- A placeholder answers for any phrase. -/
theorem answers_placeholder {phrase : Phrase} (source : p.stream = stream) :
    Answers stream phrase p p.placeholder := by
  obtain ⟨_, reads⟩ := growing_placeholder p
  refine answers_of_reported source (reads.stream.trans source) ?_
  rw [reports_placeholder]
  exact Nat.lt_succ_self _

/-- Names, literals and groups are read; anything else is reported. -/
theorem answers_atom (source : p.stream = stream)
    (here : p.stream.visible p.position = p.position) :
    Answers stream (alone (Grammar.Atom stream below)) p (atom inner p).2 := by
  have solid {kinds : TokenKind → Bool} {kind : TokenKind} (current : p.current? = some kind)
      (member : kinds kind = true) : p.current?.any kinds = true := by
    rw [current]
    exact member
  have single (kind : NodeKind) {kinds : TokenKind → Bool} (seen : p.current?.any kinds = true) :
      Answers stream (alone (node kind (word stream kinds))) p (p.single kind) :=
    (answers_single kind source seen).operand here
  rw [atom]
  split
  next current =>
    exact (single _ (solid current (by decide))).widen fun _ _ _ found => .name found
  next current =>
    exact ((answers_strings source ((Parser.isAt_iff _ _).2 current)).operand here).widen
      fun _ _ _ found => .string found
  next current =>
    exact (single _ (solid current (by decide))).widen fun _ _ _ found => .number found
  next current =>
    exact (single _ (solid current (by decide))).widen fun _ _ _ found => .number found
  next current =>
    exact (single _ (solid current (by decide))).widen fun _ _ _ found => .truth found
  next current =>
    exact (single _ (solid current (by decide))).widen fun _ _ _ found => .truth found
  next current =>
    exact (single _ (solid current (by decide))).widen fun _ _ _ found => .none found
  next current =>
    exact (answers_parenthesized sound source here ((Parser.isAt_iff _ _).2 current)).widen
      fun _ _ _ found => .parenthesized found
  next current =>
    exact ((answers_group _ (sound .expression) _ _ source
      ((Parser.isAt_iff _ _).2 current)).operand here).widen fun _ _ _ found => .list found
  next current =>
    exact ((answers_group _ (sound_dictEntry sound) _ _ source
      ((Parser.isAt_iff _ _).2 current)).operand here).widen fun _ _ _ found => .dict found
  next => exact answers_placeholder source

/-- An attribute, a subscript or a call is read around what it stands after, or something is
reported. -/
theorem answers_postfixStep {operand : Operand} (first : Answers stream (alone operand) p q)
    (follows : q.atPostfix = true) :
    Answers stream (alone (extended operand (Grammar.Postfix stream below))) p
      (postfixStep inner p.builder.checkpoint q) := by
  have widened {step : Shape → Operand} {r : Parser}
      (answers : Answers stream (alone (extended operand step)) p r)
      (within : ∀ inside start stop shape, step inside start stop shape →
        Grammar.Postfix stream below inside start stop shape) :
      Answers stream (alone (extended operand (Grammar.Postfix stream below))) p r := by
    refine answers.widen ?_
    rintro start stop shape ⟨middle, inside, before, next⟩
    exact ⟨middle, inside, before, within _ _ _ _ next⟩
  rw [postfixStep]
  by_cases dot : q.isAt (.punctuation .dot) = true
  · have opened := answers_startAt_bump first.kept p.builder.checkpoint .attributeAccess
      (any_of_isAt dot)
    rw [if_pos dot]
    dsimp only
    refine widened (first.around ?_) fun _ _ _ _ found => .attribute found
    by_cases named : (q.startAt p.builder.checkpoint .attributeAccess).bump.current?.any
        isAttributeName = true
    · rw [if_pos named]
      exact opened.bump named
    · rw [if_neg named]
      exact opened.error _ _
  rw [if_neg dot]
  by_cases bracket : q.isAt (.punctuation .leftBracket) = true
  · have opened := answers_startAt_bump first.kept p.builder.checkpoint .subscriptAccess
      (any_of_isAt bracket)
    rw [if_pos bracket]
    exact widened (first.around ((opened.step (sound .expression)).step
      (sound_expectCloser _ _))) fun _ _ _ _ found => .subscript found
  · rw [if_neg bracket]
    have opening := isAt_leftParen follows dot bracket
    have listed : Answers stream _ (q.startAt p.builder.checkpoint .functionCall) _ :=
      answers_argumentList sound first.kept opening
    exact widened (first.around listed) fun _ _ _ _ found => .call found

/-- An atom with what follows it is read, or something is reported. -/
theorem sound_primary :
    Sound stream (primary inner) (spaced stream (Grammar.primary stream below)) := by
  refine sound_checkpoint (fun p => ?_) fun p source here => ?_
  · rw [primary, primary, checkpoint_skipSpace]
  have first := answers_atom sound source here
  rw [primary, checkpoint_of_visible here]
  dsimp only
  by_cases isAtom : (atom inner p).1 = true
  · rw [if_pos isAtom]
    exact first.chain fun q now follows => answers_postfixStep sound now follows
  · rw [if_neg isAtom]
    exact first.widen fun _ _ _ found => .single found

/-- A filter is read around what it stands after, or something is reported. -/
theorem answers_filterStep {operand : Operand} (first : Answers stream (alone operand) p q)
    (pipe : q.isAt (.operator .pipe) = true) :
    Answers stream (alone (extended operand (around .filterExpression
      (token stream (.operator .pipe) ++ token stream .identifier ++
        (spaced stream (Grammar.argumentList stream below)).optional)))) p
      (filterStep inner p.builder.checkpoint q) := by
  have opened := answers_startAt_bump first.kept p.builder.checkpoint .filterExpression
      (any_of_isAt pipe)
  rw [filterStep]
  dsimp only
  apply first.around
  by_cases name : (q.startAt p.builder.checkpoint .filterExpression).bump.isAt .identifier = true
  · have named := opened.take name
    rw [if_pos name]
    by_cases opening : (q.startAt p.builder.checkpoint .filterExpression).bump.bump.isAt
        (.punctuation .leftParen) = true
    · rw [if_pos opening]
      exact (named.trans (answers_argumentList sound named.kept opening)).weaken
        ((Phrase.within_optional _).after _)
    · rw [if_neg opening]
      exact named.weaken (Phrase.within_append_optional _ _)
  · rw [if_neg name]
    exact opened.error _ _

/-- A primary with the filters after it is read, or something is reported. -/
theorem sound_filtered :
    Sound stream (filtered inner) (spaced stream (Grammar.filtered stream below)) := by
  refine sound_checkpoint (fun p => ?_) fun p source here => ?_
  · rw [filtered, filtered, checkpoint_skipSpace]
  rw [filtered, checkpoint_of_visible here]
  exact ((sound_primary sound).operand source here).chain fun q now pipe =>
    answers_filterStep sound now pipe

/-! ### Operators -/

omit sound in
/-- Operands with operators of one precedence between them are read, grouped to the left, or
something is reported. -/
theorem sound_leftGrouped {operand : Step} {phrase : Operand}
    (each : Sound stream operand (spaced stream phrase)) (kind : NodeKind)
    (operators : List TokenKind) : Sound stream (leftGrouped kind operators operand)
      (spaced stream (Grammar.leftGrouped stream kind operators.contains phrase)) := by
  refine sound_checkpoint (fun p => ?_) fun p source here => ?_
  · rw [leftGrouped, leftGrouped, checkpoint_skipSpace]
  rw [leftGrouped, checkpoint_of_visible here]
  refine (each.operand source here).chain fun q now follows => ?_
  have opened := answers_startAt_bump now.kept p.builder.checkpoint kind follows
  exact now.around (opened.step each)

/-- An operand with or without a power is read, or something is reported. -/
theorem sound_powered :
    Sound stream (powered inner) (spaced stream (Grammar.Factor stream below)) := by
  refine sound_checkpoint (fun p => ?_) fun p source here => ?_
  · rw [powered, powered, checkpoint_skipSpace]
  have first := (sound_filtered sound).operand source here
  rw [powered, checkpoint_of_visible here]
  dsimp only
  by_cases power : (filtered inner p).isAt (.operator .power) = true
  · have opened := answers_startAt_bump first.kept p.builder.checkpoint .powerExpression
      (any_of_isAt power)
    rw [if_pos power]
    have whole := first.around (opened.step (sound .factor))
    refine whole.widen ?_
    rintro start stop shape ⟨middle, inside, base, exponent⟩
    exact .power base exponent
  · rw [if_neg power]
    exact first.widen fun _ _ _ found => .plain found

/-- A signed factor, or an operand with or without a power, is read, or something is reported. -/
theorem sound_factor :
    Sound stream (factor inner) (spaced stream (Grammar.Factor stream below)) := by
  intro p source
  by_cases signed : p.atAny [.operator .minus, .operator .plus] = true
  · rw [factor, if_pos signed]
    rw [atAny_signs] at signed
    have opened := answers_start_bump source .unaryExpression signed
    refine ((opened.step (sound .factor)).node source).weaken ?_
    rintro start stop _ ⟨shape, found, rfl⟩
    exact ⟨shape, .signed found, rfl⟩
  · have unsigned : factor inner p = powered inner p := if_neg signed
    rw [unsigned]
    exact sound_powered sound p source

/-- Factors with operators between them are read, or something is reported. -/
theorem sound_product :
    Sound stream (product inner) (spaced stream (Grammar.product stream below)) :=
  sound_leftGrouped (sound .factor) _ Grammar.productOperators

/-- Products with operators between them are read, or something is reported. -/
theorem sound_sum : Sound stream (sum inner) (spaced stream (Grammar.sum stream below)) :=
  sound_leftGrouped (sound_product sound) _ Grammar.sumOperators

/-- A sum, a comparison or a test is read, or something is reported. -/
theorem sound_comparison :
    Sound stream (comparison inner) (spaced stream (Grammar.Comparison stream below)) := by
  have side := sound_sum sound
  refine sound_checkpoint (fun p => ?_) fun p source here => ?_
  · rw [comparison, comparison, checkpoint_skipSpace]
  have first := side.operand source here
  rw [comparison, checkpoint_of_visible here]
  change Answers stream _ p (if (sum inner p).current?.any Grammar.comparesAlone then _ else _)
  by_cases single : (sum inner p).current?.any Grammar.comparesAlone = true
  · have opened := answers_startAt_bump first.kept p.builder.checkpoint .comparisonExpression
      single
    rw [if_pos single]
    have whole := first.around (opened.step side)
    refine whole.widen ?_
    rintro start stop shape ⟨middle, inside, left, right⟩
    exact .compared left right
  rw [if_neg single]
  by_cases excluded : ((sum inner p).isAt (.keyword .notKw) &&
      (sum inner p).nth? 1 = some (.keyword .inKw)) = true
  · have opened := answers_startAt_bump first.kept p.builder.checkpoint .comparisonExpression
      (any_of_isAt (Bool.and_eq_true_iff.1 excluded).1)
    have both := opened.take (isAt_bump excluded)
    rw [if_pos excluded]
    have whole := first.around (both.step side)
    refine whole.widen ?_
    rintro start stop shape ⟨middle, inside, left, right⟩
    exact .excluded left right
  rw [if_neg excluded]
  by_cases tested : (sum inner p).isAt (.keyword .isKw) = true
  · have opened := answers_startAt_bump first.kept p.builder.checkpoint .testExpression
      (any_of_isAt tested)
    rw [if_pos tested]
    have whole := first.around ((opened.skip (.keyword .notKw)).step side)
    refine whole.widen ?_
    rintro start stop shape ⟨middle, inside, left, right⟩
    exact .tested left right
  · rw [if_neg tested]
    exact first.widen fun _ _ _ found => .plain found

/-- A negated operand or a comparison is read, or something is reported. -/
theorem sound_negation :
    Sound stream (negation inner) (spaced stream (Grammar.Negation stream below)) := by
  intro p source
  rw [negation]
  by_cases negated : p.isAt (.keyword .notKw) = true
  · rw [if_pos negated]
    have opened := answers_start_bump source .notExpression (any_of_isAt negated)
    refine ((opened.step (sound .negation)).node source).weaken ?_
    rintro start stop _ ⟨shape, found, rfl⟩
    exact ⟨shape, .negated found, rfl⟩
  · rw [if_neg negated]
    refine (sound_comparison sound p source).weaken ?_
    rintro start stop _ ⟨shape, found, rfl⟩
    exact ⟨shape, .plain found, rfl⟩

/-- Negations with `and` between them are read, or something is reported. -/
theorem sound_conjunction :
    Sound stream (conjunction inner) (spaced stream (Grammar.conjunction stream below)) :=
  sound_leftGrouped (sound_negation sound) _ [.keyword .andKw]

/-- Conjunctions with `or` between them are read, or something is reported. -/
theorem sound_disjunction :
    Sound stream (disjunction inner) (spaced stream (Grammar.disjunction stream below)) :=
  sound_leftGrouped (sound_conjunction sound) _ [.keyword .orKw]

/-- A disjunction with or without a condition, and that with or without an alternative, is read, or
something is reported. -/
theorem sound_conditional :
    Sound stream (conditional inner) (spaced stream (Grammar.Conditional stream below)) := by
  have value := sound_disjunction sound
  have alternative : Sound stream
      (fun p => if p.isAt (.keyword .elseKw) then inner .expression p.bump else p)
      (token stream (.keyword .elseKw) ++ Grammar.subexpression stream below).optional := by
    intro p source
    dsimp only
    by_cases other : p.isAt (.keyword .elseKw) = true
    · rw [if_pos other]
      exact ((answers_bump source (any_of_isAt other)).step (sound .expression)).weaken
        (Phrase.within_optional _)
    · rw [if_neg other]
      exact answers_of_parses (parses_refl source) (.inl ⟨rfl, rfl⟩)
  refine sound_checkpoint (fun p => ?_) fun p source here => ?_
  · rw [conditional, conditional, checkpoint_skipSpace]
  have first := value.operand source here
  rw [conditional, checkpoint_of_visible here]
  dsimp only
  by_cases condition : (disjunction inner p).isAt (.keyword .ifKw) = true
  · have opened := answers_startAt_bump first.kept p.builder.checkpoint .conditionalExpression
      (any_of_isAt condition)
    rw [if_pos condition]
    have whole := first.around ((opened.step value).step alternative)
    refine whole.widen ?_
    rintro start stop shape ⟨middle, inside, left, right⟩
    exact .condition left right
  · rw [if_neg condition]
    exact first.widen fun _ _ _ found => .plain found

end

/-- The nested productions are sound with any number of levels left. Where none is left something is
reported. -/
theorem sound_nested (levels : Nat) (which : Nested) :
    Sound stream (nested levels which) (spaced stream (derives stream levels which)) := by
  induction levels generalizing which with
  | zero =>
    intro p source
    have refused := (sees_refuse p).stream.trans source
    have placed : Answers stream (spaced stream (derives stream 0 which)) p.refuse
        p.refuse.placeholder := answers_placeholder refused
    refine answers_of_reported source placed.kept (Nat.lt_of_le_of_lt p.le_reports_refuse ?_)
    rw [nested, reports_placeholder]
    exact Nat.lt_succ_self _
  | succ levels ih =>
    intro p source
    have inside : Answers stream (spaced stream (derives stream (levels + 1) which)) p.descend
        (production (nested levels) which p.descend) := by
      cases which with
      | expression => exact sound_conditional ih p.descend source
      | disjunction => exact sound_disjunction ih p.descend source
      | negation => exact sound_negation ih p.descend source
      | factor => exact sound_factor ih p.descend source
    refine ⟨source, inside.kept, inside.answer.imp_right ?_⟩
    rintro ⟨shapes, found, parses⟩
    exact ⟨shapes, found, parses_ascend parses⟩

/-- Every expression that is read without a report, recorded or not, is a derivation: its tokens are
what the grammar derives with the levels of nesting that were left, and besides the white space
before it the innermost open node gained one node, the tree of that derivation. -/
theorem expression_sound {p : Parser} (recorded : p.expression.diagnostics = p.diagnostics)
    (suppressed : p.expression.suppressed = p.suppressed) :
    ∃ shape, derives p.stream p.levels .expression (p.stream.visible p.position)
        p.expression.position shape ∧
      Parses p.stream p p.expression p.expression.position (space p.stream p.position ++ [shape]) ∧
      ∃ kind children, shape = .node kind children := by
  obtain ⟨-, -, answer⟩ := sound_nested p.levels .expression p rfl
  rcases answer with reported | ⟨_, ⟨shape, found, rfl⟩, parses⟩
  · have silent : p.expression.reports = p.reports := by
      rw [reports, reports, recorded, suppressed]
    rw [← expression, silent] at reported
    exact absurd reported (Nat.lt_irrefl _)
  · exact ⟨shape, found, parses, Grammar.nodes_derives _ _ _ _ _ found⟩

/-- A name is sought in a list of one with a comma after it: nothing is reported. -/
theorem expression_sound_excluded :
    let stream : TokenStream := ⟨"", #[⟨.identifier, 0, 1⟩, ⟨.whitespace, 1, 2⟩,
      ⟨.keyword .notKw, 2, 5⟩, ⟨.whitespace, 5, 6⟩, ⟨.keyword .inKw, 6, 8⟩,
      ⟨.punctuation .leftBracket, 8, 9⟩, ⟨.literal .integer, 9, 10⟩, ⟨.punctuation .comma, 10, 11⟩,
      ⟨.punctuation .rightBracket, 11, 12⟩], #[], .blockTag⟩
    let p : Parser := (ofStream stream).start .template
    p.expression.diagnostics = p.diagnostics ∧ p.expression.suppressed = p.suppressed ∧
      ∃ shape, derives stream p.levels .expression 0 9 shape ∧
        Parses stream p p.expression 9 [shape] ∧ ∃ kind children, shape = .node kind children := by
  intro stream p
  have recorded : p.expression.diagnostics = p.diagnostics := by decide +kernel
  have suppressed : p.expression.suppressed = p.suppressed := by decide +kernel
  have stops : p.expression.position = 9 := by decide +kernel
  have sound := expression_sound recorded suppressed
  rw [stops] at sound
  exact ⟨recorded, suppressed, sound⟩

end Parser
end Stencil
