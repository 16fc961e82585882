import Stencil.Proofs.Coupling.Steps
/-!
# Expressions keep parsers coupled

The productions of the expression grammar are followed one by one. They take no token that belongs
to the construct around an expression, so that an inner coupling is enough. Lists are bounded by the
number of tokens that are left, which may differ on both sides and makes no difference.
-/

namespace Stencil
namespace Parser
namespace InnerCoupling

variable {twin : Parser → Parser → Prop} (c : InnerCoupling twin) {o o' p q r s x y : Parser}

include c

/-! ### Lists and groups -/

/-- Items with a separator keep two parsers linked. -/
theorem keeps_items {item : Step} (each : Keeps twin item) {closer : TokenKind}
    (loose : closer.isStructural = false) (message : String) (times : Nat) :
    Keeps twin (items item closer message times) := by
  induction times with
  | zero => exact fun _ _ _ _ both => both
  | succ times ih =>
    intro o o' p q both
    have first := each both
    refine c.ifAt first _ rfl (fun comma => ?_)
      (c.ifAt first _ loose (fun _ => first) (c.keeps_error _ (by decide) _ first))
    have past := c.take first comma rfl
    exact c.ifAt past _ loose (fun _ => past) (ih past)

/-- A list of items with a bound above the number of tokens left. -/
theorem keeps_itemList {item : Step} (each : Keeps twin item) (growing : Growing item)
    {closer : TokenKind} (loose : closer.isStructural = false) (message : String) :
    Keeps twin (fun p => items item closer message (p.remaining + 1) p) := fun _ _ _ _ both =>
  linked_of_unhindered (unhindered_items growing closer message)
    (unhindered_items growing closer message) fun times =>
      c.keeps_items each loose message times both

/-- A node of brackets around a list, from the opening bracket on. -/
theorem brackets (kind : NodeKind) {closer : TokenKind} (closes : closer.isStructural = false)
    (message : String) {list : Step} (lists : Keeps twin list) (both : Linked twin o o' p q)
    (loose : p.atStructural = false) :
    Linked twin o o'
      (Parser.finish (expectCloser (if (p.start kind).bump.isAt closer then (p.start kind).bump
        else list (p.start kind).bump) closer message))
      (Parser.finish (expectCloser (if (q.start kind).bump.isAt closer then (q.start kind).bump
        else list (q.start kind).bump) closer message)) := by
  refine c.node kind both fun opened => ?_
  have first := c.linked_bump opened ((sees_start p kind).atStructural.trans loose)
  exact c.keeps_expectCloser closes message
    (c.ifAt first closer closes (fun _ => first) (lists first))

/-- A bracketed group of items keeps two parsers linked. -/
theorem group (kind : NodeKind) {item : Step} (each : Keeps twin item)
    (growing : Growing item) (closer : Punctuation) (separator bracket : String)
    (both : Linked twin o o' p q) (loose : p.atStructural = false) :
    Linked twin o o' (p.group kind item closer separator bracket)
      (q.group kind item closer separator bracket) := by
  have closes : TokenKind.isStructural (.punctuation closer) = false := rfl
  have lists := c.keeps_itemList each growing closes separator
  have whole := c.brackets kind closes bracket lists both loose
  rw [Parser.group, Parser.group]
  exact whole

/-- Further items keep two parsers linked, as long as these end the items alike. -/
theorem keeps_moreItems {item : Step} (each : Keeps twin item) {ends : Parser → Bool}
    (ending : ∀ ⦃r s : Parser⦄, twin r s → ends s = ends r) (times : Nat) :
    Keeps twin (moreItems item ends times) := by
  induction times with
  | zero => exact fun _ _ _ _ both => both
  | succ times ih =>
    intro o o' p q both
    refine c.ifAt both _ rfl (fun comma => ?_) both
    have past := c.take both comma rfl
    exact both_ite (by rw [ending past.now]) (fun _ => past) fun _ => ih (each past)

/-- Further items up to the end of the tag keep two parsers linked. -/
theorem keeps_moreItemList {item : Step} (each : Keeps twin item) (growing : Growing item)
    {ends : Parser → Bool} (ending : ∀ ⦃r s : Parser⦄, twin r s → ends s = ends r) :
    Keeps twin (fun p => moreItems item ends p.remaining p) := fun _ _ _ _ both =>
  linked_of_unhindered (unhindered_moreItems growing ends) (unhindered_moreItems growing ends)
    fun times => c.keeps_moreItems each ending times both

section

variable {inner : Inner} (nested : ∀ which, Keeps twin (inner which))
  (growing : ∀ which, Growing (inner which))

include nested

/-- An argument keeps two parsers linked. -/
theorem keeps_argument : Keeps twin (argument inner) := by
  intro o o' p q both
  refine both_ite (by rw [c.followedBy both.now rfl rfl]) (fun named => ?_)
    fun _ => nested .expression both
  have named' : ((p.start .keywordArgument).isAt .identifier &&
      decide ((p.start .keywordArgument).nth? 1 = some (.operator .assign))) = true := by
    rw [isAt_start, (sees_start p .keywordArgument).next?]
    exact named
  exact c.node .keywordArgument both fun opened => nested .expression
    (c.take (c.take opened (Bool.and_eq_true_iff.1 named').1 rfl) (isAt_bump named') rfl)

omit growing in
/-- Parameters keep two parsers linked. -/
theorem keeps_parameters (times : Nat) : Keeps twin (parameters inner times) := by
  induction times with
  | zero => exact fun _ _ _ _ both => both
  | succ times ih =>
    intro o o' p q both
    refine c.ifAt both _ rfl (fun named => ?_) (c.keeps_error _ (by decide) _ both)
    have here : (p.start .parameter).isAt .identifier = true := (isAt_start p _ _).trans named
    have whole : Linked twin o o'
        (Parser.finish (if (p.start .parameter).bump.isAt (.operator .assign) then
          inner .expression (p.start .parameter).bump.bump else (p.start .parameter).bump))
        (Parser.finish (if (q.start .parameter).bump.isAt (.operator .assign) then
          inner .expression (q.start .parameter).bump.bump else (q.start .parameter).bump)) := by
      refine c.node .parameter both fun opened => ?_
      have name := c.take opened here rfl
      exact c.ifAt name _ rfl (fun assigned => nested .expression (c.take name assigned rfl)) name
    refine c.ifAt whole _ rfl (fun comma => ?_)
      (c.ifAt whole _ rfl (fun _ => whole) (c.keeps_error _ (by decide) _ whole))
    have past := c.take whole comma rfl
    exact c.ifAt past _ rfl (fun _ => past) (ih past)

include growing

/-- A list of arguments keeps two parsers linked. -/
theorem argumentList (both : Linked twin o o' p q)
    (here : p.isAt (.punctuation .leftParen) = true) :
    Linked twin o o' (argumentList inner p) (argumentList inner q) :=
  c.group _ (c.keeps_argument nested) (growing_argument growing) _ _ _ both
    (atStructural_of_isAt here)

/-- A list of parameters keeps two parsers linked. -/
theorem parameterList (both : Linked twin o o' p q)
    (here : p.isAt (.punctuation .leftParen) = true) :
    Linked twin o o' (parameterList inner p) (parameterList inner q) := by
  have lists : Keeps twin (fun p => parameters inner (p.remaining + 1) p) := fun _ _ _ _ both =>
    linked_of_unhindered (unhindered_parameters growing) (unhindered_parameters growing)
      fun times => c.keeps_parameters nested times both
  have closes : TokenKind.isStructural (.punctuation .rightParen) = false := rfl
  have whole := c.brackets .parameterList closes "Expected ')'" lists both
    (atStructural_of_isAt here)
  rw [Parser.parameterList, Parser.parameterList]
  exact whole

/-! ### Atoms and what follows them -/

omit growing in
/-- An entry of a dictionary keeps two parsers linked. -/
theorem keeps_dictEntry : Keeps twin (dictEntry inner) := by
  intro o o' p q both
  refine c.node .dictEntry both fun opened => ?_
  have key := nested .expression opened
  exact c.ifAt key _ rfl (fun colon => nested .expression (c.take key colon rfl))
    (c.keeps_error _ (by decide) _ key)

/-- An expression in parentheses keeps two parsers linked. -/
theorem parenthesized (both : Linked twin o o' p q) (loose : p.atStructural = false) :
    Linked twin o o' (parenthesized inner p) (parenthesized inner q) := by
  refine c.spaced both fun first => ?_
  have opened := c.linked_bump first ((sees_skipSpace p).atStructural.trans loose)
  have value := nested .expression opened
  refine c.ifAt opened _ rfl
    (fun closed => c.around .tupleLiteral opened fun at_ => c.take at_ closed rfl) ?_
  dsimp only
  -- The bracket that closes is expected in a tuple as in a parenthesised expression.
  rw [apply_ite (fun r => Parser.finish (expectCloser r _ _)),
    apply_ite (fun r => Parser.finish (expectCloser r _ _))]
  refine c.ifAt value _ rfl (fun _ => c.around .tupleLiteral value fun at_ => ?_)
    (c.around .parenthesizedExpression value fun at_ => c.keeps_expectCloser rfl _ at_)
  exact c.keeps_expectCloser rfl _ (c.keeps_moreItemList (nested .expression) (growing .expression)
    (fun _ _ now => c.isAt now rfl) at_)

omit nested growing in
/-- String literals side by side keep two parsers linked. -/
theorem keeps_strings : Keeps twin strings := fun _ _ _ _ both =>
  c.node .stringLiteral both fun opened =>
    c.bumps opened (fun _ => atStructural_of_isAt) (fun _ => atStructural_of_isAt)
      fun _ _ now => c.isAt now rfl

omit c nested growing in
/-- An atom begins with a token that is not structural. -/
theorem loose_of_atomStep? {kind : TokenKind} {step : Step}
    (asks : atomStep? inner kind = some step) : kind.isStructural = false := by
  cases kind with
  | delimiter d => contradiction
  | newline => contradiction
  | _ => rfl

/-- An atom is read by what its first token asks for. -/
theorem atomStep (both : Linked twin o o' p q) {kind : TokenKind} {step : Step}
    (seen : p.current? = some kind) (asks : atomStep? inner kind = some step) :
    Linked twin o o' (step p) (step q) := by
  have loose : p.atStructural = false :=
    (atStructural_of_current? seen).trans (loose_of_atomStep? asks)
  unfold atomStep? at asks
  split at asks
  case h_2 =>
    obtain rfl := Option.some.inj asks
    exact c.keeps_strings both
  case h_8 =>
    obtain rfl := Option.some.inj asks
    exact c.parenthesized nested growing both loose
  case h_9 =>
    obtain rfl := Option.some.inj asks
    exact c.group _ (nested .expression) (growing .expression) _ _ _ both loose
  case h_10 =>
    obtain rfl := Option.some.inj asks
    exact c.group _ (c.keeps_dictEntry nested) (growing_dictEntry growing) _ _ _ both loose
  case h_11 => contradiction
  all_goals
    obtain rfl := Option.some.inj asks
    exact c.single both loose _

omit nested growing in
/-- The same atom is asked for on both sides. -/
theorem asks (both : twin p q) :
    q.current?.bind (atomStep? inner) = p.current?.bind (atomStep? inner) := by
  have seen (r : Parser) : r.current?.bind (atomStep? inner) =
      (unlessStructural r.current?).bind (atomStep? inner) := by
    cases r.current? with
    | none => rfl
    | some kind =>
      cases kind with
      | delimiter d => rfl
      | newline => rfl
      | _ => rfl
  rw [seen, seen, c.current? both]

/-- Whether there is an atom is the same on both sides, and so is what is done with it. -/
theorem keeps_atom (both : Linked twin o o' p q) : (atom inner q).1 = (atom inner p).1 ∧
    Linked twin o o' (atom inner p).2 (atom inner q).2 := by
  rw [atom_eq, atom_eq, c.asks both.now]
  cases asked : p.current?.bind (atomStep? inner) with
  | none => exact ⟨rfl, c.keeps_placeholder both⟩
  | some step =>
    obtain ⟨kind, seen, asks⟩ := Option.bind_eq_some_iff.1 asked
    exact ⟨rfl, c.atomStep nested growing both seen asks⟩

omit c nested growing in
/-- Attributes are named by tokens that are not structural. -/
theorem loose_of_isAttributeName (kind : TokenKind) (names : isAttributeName kind = true) :
    kind.isStructural = false := by
  cases kind with
  | delimiter d => contradiction
  | newline => contradiction
  | _ => rfl

omit c nested growing in
/-- A token that passes a test of kinds that are not structural is not structural. -/
theorem loose_of_any {kinds : TokenKind → Bool} (seen : p.current?.any kinds = true)
    (loose : ∀ kind, kinds kind = true → kind.isStructural = false) : p.atStructural = false := by
  rw [Option.any_eq_true] at seen
  obtain ⟨kind, current, passes⟩ := seen
  exact (atStructural_of_current? current).trans (loose kind passes)

/-- An attribute, a subscript or a call around an operand. -/
theorem postfixStep (operand : Linked twin x.skipSpace y.skipSpace p q)
    (follows : p.atPostfix = true) : Linked twin x.skipSpace y.skipSpace
      (postfixStep inner x.skipSpace.builder.checkpoint p)
      (postfixStep inner y.skipSpace.builder.checkpoint q) := by
  refine both_ite (by rw [c.isAt operand.now rfl]) (fun dot => ?_) fun dot =>
    both_ite (by rw [c.isAt operand.now rfl]) (fun bracket => ?_) fun bracket => ?_
  · refine c.around .attributeAccess operand fun at_ => ?_
    have member := c.take at_ dot rfl
    exact both_ite (by rw [c.any member.now loose_of_isAttributeName])
      (fun named => c.linked_bump member (loose_of_any named loose_of_isAttributeName))
      fun _ => c.keeps_error _ (by decide) _ member
  · exact c.around .subscriptAccess operand fun at_ =>
      c.keeps_expectCloser rfl _ (nested .expression (c.take at_ bracket rfl))
  · exact c.around .functionCall operand fun at_ =>
      c.argumentList nested growing at_ (isAt_leftParen follows dot bracket)

/-- A primary expression keeps two parsers linked. -/
theorem keeps_primary : Keeps twin (primary inner) := by
  intro o o' p q both
  refine c.spaced both fun first => ?_
  obtain ⟨same, operand⟩ := c.keeps_atom nested growing first
  rw [primary, primary, checkpoint, checkpoint]
  dsimp only
  refine both_ite (by rw [same]) (fun _ => ?_) fun _ => operand
  exact linked_loop operand (fun _ => isSome_of_atAny) (fun _ => isSome_of_atAny)
    (fun _ _ now => c.atAny now (by decide)) (fun r _ => past_postfixStep growing _ r)
    (fun r _ => past_postfixStep growing _ r)
    fun _ _ before follows => c.postfixStep nested growing before follows

/-- A filter around an operand. -/
theorem filterStep (operand : Linked twin x.skipSpace y.skipSpace p q)
    (here : p.isAt (.operator .pipe) = true) : Linked twin x.skipSpace y.skipSpace
      (filterStep inner x.skipSpace.builder.checkpoint p)
      (filterStep inner y.skipSpace.builder.checkpoint q) := by
  refine c.around .filterExpression operand fun at_ => ?_
  have pipe := c.take at_ here rfl
  refine c.ifAt pipe _ rfl (fun name => ?_) (c.keeps_error _ (by decide) _ pipe)
  have named := c.take pipe name rfl
  exact c.ifAt named _ rfl (fun call => c.argumentList nested growing named call) named

/-- An operand with its filters keeps two parsers linked. -/
theorem keeps_filtered : Keeps twin (filtered inner) := by
  intro o o' p q both
  refine c.spaced both fun first => ?_
  exact linked_loop (c.keeps_primary nested growing first) (fun _ => isSome_of_isAt)
    (fun _ => isSome_of_isAt) (fun _ _ now => c.isAt now rfl)
    (fun r _ => past_filterStep growing _ r) (fun r _ => past_filterStep growing _ r)
    fun _ _ before here => c.filterStep nested growing before here

/-! ### Operators -/

omit nested growing in
/-- Operands with operators of one precedence keep two parsers linked. -/
theorem keeps_leftGrouped {operand : Step} (each : Keeps twin operand) (grows : Growing operand)
    (kind : NodeKind) {operators : List TokenKind}
    (loose : ∀ kind ∈ operators, kind.isStructural = false) :
    Keeps twin (leftGrouped kind operators operand) := by
  intro o o' p q both
  refine c.spaced both fun first => ?_
  exact linked_loop (each first) (fun _ => isSome_of_atAny) (fun _ => isSome_of_atAny)
    (fun _ _ now => c.atAny now loose) (fun r _ => past_operator grows _ kind r)
    (fun r _ => past_operator grows _ kind r) fun _ _ before sign =>
      c.around kind before fun at_ => each (c.linked_bump at_ (atStructural_of_atAny sign loose))

/-- A factor keeps two parsers linked. -/
theorem keeps_factor : Keeps twin (factor inner) := by
  intro o o' p q both
  refine both_ite (by rw [c.atAny both.now loose_signs]) (fun sign => ?_) fun _ => ?_
  · have loose := (sees_start p .unaryExpression).atStructural.trans
      (atStructural_of_atAny sign loose_signs)
    exact c.node .unaryExpression both fun opened => nested .factor (c.linked_bump opened loose)
  · refine c.spaced both fun first => ?_
    have operand := c.keeps_filtered nested growing first
    exact c.ifAt operand _ rfl (fun power => c.around .powerExpression operand fun at_ =>
      nested .factor (c.take at_ power rfl)) operand

omit growing in
/-- A product keeps two parsers linked. -/
theorem keeps_product (growing : ∀ which, Growing (inner which)) : Keeps twin (product inner) :=
  c.keeps_leftGrouped (nested .factor) (growing .factor) _ (by decide)

/-- A sum keeps two parsers linked. -/
theorem keeps_sum : Keeps twin (sum inner) :=
  c.keeps_leftGrouped (c.keeps_product nested growing) (growing_product growing) _ (by decide)

omit c nested growing in
/-- What compares is not structural. -/
theorem loose_of_compares (kind : TokenKind)
    (compares : (kind.isComparison || kind = .keyword .inKw) = true) :
    kind.isStructural = false := by
  cases kind with
  | delimiter d => contradiction
  | newline => contradiction
  | _ => rfl

/-- A comparison keeps two parsers linked. -/
theorem keeps_comparison : Keeps twin (comparison inner) := by
  intro o o' p q both
  refine c.spaced both fun first => ?_
  have operand := c.keeps_sum nested growing first
  have other := c.keeps_sum nested growing
  rw [comparison, comparison, checkpoint, checkpoint]
  dsimp only
  generalize sum inner p.skipSpace = r at operand ⊢
  generalize sum inner q.skipSpace = s at operand ⊢
  refine both_ite (by rw [c.any operand.now loose_of_compares]) (fun compares => ?_) fun _ =>
    both_ite (by rw [c.followedBy operand.now rfl rfl]) (fun excludes => ?_) fun _ =>
      c.ifAt operand _ rfl
        (fun tests => c.around .testExpression operand fun at_ => ?_) operand
  · exact c.around .comparisonExpression operand fun at_ =>
      other (c.linked_bump at_ (loose_of_any compares loose_of_compares))
  · have contained : ((r.startAt p.skipSpace.builder.checkpoint .comparisonExpression).isAt
        (.keyword .notKw) && decide ((r.startAt p.skipSpace.builder.checkpoint
          .comparisonExpression).nth? 1 = some (.keyword .inKw))) = true := excludes
    exact c.around .comparisonExpression operand fun at_ => other
      (c.take (c.take at_ (Bool.and_eq_true_iff.1 contained).1 rfl) (isAt_bump contained) rfl)
  · exact other (c.keeps_skip rfl (c.take at_ tests rfl))

/-- A negation keeps two parsers linked. -/
theorem keeps_negation : Keeps twin (negation inner) := fun _ _ p _ both =>
  c.ifAt both _ rfl
    (fun negated => c.node .notExpression both fun opened =>
      nested .negation (c.take opened ((isAt_start p _ _).trans negated) rfl))
    (c.keeps_comparison nested growing both)

/-- A conjunction keeps two parsers linked. -/
theorem keeps_conjunction : Keeps twin (conjunction inner) :=
  c.keeps_leftGrouped (c.keeps_negation nested growing) (growing_negation growing) _ (by decide)

/-- A disjunction keeps two parsers linked. -/
theorem keeps_disjunction : Keeps twin (disjunction inner) :=
  c.keeps_leftGrouped (c.keeps_conjunction nested growing) (growing_conjunction growing) _
    (by decide)

/-- A conditional expression keeps two parsers linked. -/
theorem keeps_conditional : Keeps twin (conditional inner) := by
  intro o o' p q both
  refine c.spaced both fun first => ?_
  have operand := c.keeps_disjunction nested growing first
  rw [conditional, conditional, checkpoint, checkpoint]
  dsimp only
  generalize disjunction inner p.skipSpace = r at operand ⊢
  generalize disjunction inner q.skipSpace = s at operand ⊢
  refine c.ifAt operand _ rfl
    (fun mark => c.around .conditionalExpression operand fun at_ => ?_) operand
  have condition := c.keeps_disjunction nested growing (c.take at_ mark rfl)
  exact c.ifAt condition _ rfl (fun other => nested .expression (c.take condition other rfl))
    condition

end

/-- The nested productions keep parsers coupled with any number of levels left. -/
theorem keeps_nested (levels : Nat) (which : Nested) : Keeps twin (nested levels which) := by
  induction levels generalizing which with
  | zero => exact fun _ _ _ _ both => c.keeps_placeholder (c.keeps_refuse both)
  | succ levels ih =>
    intro o o' p q both
    have growing := growing_nested levels
    have expression := c.keeps_conditional ih growing
    have disjunction := c.keeps_disjunction ih growing
    have negation := c.keeps_negation ih growing
    have factor := c.keeps_factor ih growing
    have produces : Keeps twin (production (Parser.nested levels) which) := by
      cases which with
      | expression => exact expression
      | disjunction => exact disjunction
      | negation => exact negation
      | factor => exact factor
    rw [Parser.nested, Parser.nested]
    exact c.deeper both fun inside => produces inside

/-- An expression keeps two parsers linked. -/
theorem keeps_expression : Keeps twin expression :=
  c.keeps_within_levels fun levels => c.keeps_nested levels .expression

/-- An expression without a condition keeps two parsers linked. -/
theorem keeps_orExpression : Keeps twin orExpression :=
  c.keeps_within_levels fun levels => c.keeps_nested levels .disjunction

/-- A tuple or an expression keeps two parsers linked. -/
theorem keeps_tupleOrExpression : Keeps twin tupleOrExpression := by
  intro o o' p q both
  refine c.spaced both fun first => ?_
  have operand := c.keeps_expression first
  exact c.ifAt operand _ rfl (fun _ => c.around .tupleLiteral operand fun at_ =>
    c.keeps_moreItemList c.keeps_expression growing_expression
      (fun _ _ now => c.atStructural now) at_) operand

end InnerCoupling
end Parser
end Stencil
