import Stencil.Proofs.Parser.Abreast
import Stencil.Proofs.Parser.Operators
/-!
# Expressions are parsed in step

Two parsers that are abreast before an expression are abreast after it. The productions are taken
one by one: what a production does to a first operand, and what it does around an operand that was
read, are separate lemmas, since the first token may stand where the streams are not compared.
-/

namespace Stencil
namespace Parser

open Correspondence

variable {c : Correspondence} {o o' p q later other further beyond : Parser}

/-! ### Small steps -/

/-- A choice on the kind of the current token. -/
theorem Correspondence.Follows.ifAt (first : c.Follows o o' p q) (lawful : c.Lawful)
    {kind : TokenKind} (yes : p.isAt kind = true → c.Follows o o' later other)
    (no : c.Follows o o' further beyond) :
    c.Follows o o' (if p.isAt kind then later else further)
      (if q.isAt kind then other else beyond) :=
  both_ite (first.abreast.isAt_iff lawful kind) yes fun _ => no

/-- An optional token is taken where it stands. -/
theorem skip_eq (p : Parser) (kind : TokenKind) :
    p.skip kind = if p.isAt kind then p.bump else p := by
  rw [skip, eat]
  exact apply_ite Prod.snd _ _ _

/-- An optional token is in step. -/
theorem inStep_skip {kind : TokenKind} (loose : kind.isStructural = false) :
    InStep (fun p => p.skip kind) := by
  intro c lawful p q abreast
  have first := abreast.refl
  dsimp only
  rw [skip_eq, skip_eq]
  exact first.ifAt lawful (fun here => first.take lawful here loose) first

/-- A bracket that closes is in step. -/
theorem inStep_expectCloser {closer : TokenKind} (loose : closer.isStructural = false)
    (message : String) : InStep (fun p => p.expectCloser closer message) := by
  intro c lawful p q abreast
  have first := abreast.refl
  exact first.ifAt lawful (fun here => first.take lawful here loose)
    (first.error lawful (by decide) message)

/-- An expected token is in step. -/
theorem inStep_expect {kind : TokenKind} (loose : kind.isStructural = false) (message : String) :
    InStep (fun p => p.expect kind message) := by
  intro c lawful p q abreast
  have first := abreast.refl
  exact first.ifAt lawful (fun here => first.take lawful here loose)
    (first.error lawful (by decide) message)

/-- A name is taken where it stands and otherwise reported as missing. -/
theorem expectName_eq (p : Parser) (message : String) : p.expectName message =
    (p.isAt .identifier, if p.isAt .identifier then p.bump else p.error .expectedName message) := by
  rw [expectName]
  cases p.isAt .identifier with
  | true => rfl
  | false => rfl

/-- An expected name is in step. -/
theorem inStep_expectName (message : String) : InStep (fun p => (p.expectName message).2) := by
  intro c lawful p q abreast
  have first := abreast.refl
  dsimp only
  rw [expectName_eq, expectName_eq]
  exact first.ifAt lawful (fun here => first.take lawful here rfl)
    (first.error lawful (by decide) message)

/-- A token that may stand in the way is taken unless it is structural. -/
theorem Correspondence.Follows.bumpUnlessStructural (first : c.Follows o o' p q)
    (lawful : c.Lawful) : c.Follows o o' (if p.atStructural then p else p.bump)
      (if q.atStructural then q else q.bump) := by
  refine both_ite ?_ (fun _ => first) fun loose => first.bump lawful (by simpa using loose)
  rw [first.abreast.atStructural lawful]

/-- A placeholder is in step. -/
theorem inStep_placeholder : InStep placeholder := by
  intro c lawful p q abreast
  have reported : c.Follows p q (p.error .expectedExpression "Expected expression")
      (q.error .expectedExpression "Expected expression") := abreast.error lawful (by decide) _
  have opened := (reported.abreast.start lawful .error).refl
  exact reported.trans (reported.abreast.node lawful (opened.bumpUnlessStructural lawful))

/-- A node of one token is made on both sides. -/
theorem Correspondence.Poised.single (poised : c.Poised p q) (kind : NodeKind) :
    c.Follows p q (p.single kind) (q.single kind) := poised.node (poised.start kind).bump

/-- Two tokens that are looked for together are found on both sides. -/
theorem Correspondence.Abreast.followedBy (abreast : c.Abreast p q) (lawful : c.Lawful)
    {kind : TokenKind} (loose : kind.isStructural = false) (next : TokenKind) :
    (q.isAt kind && decide (q.nth? 1 = some next)) =
      (p.isAt kind && decide (p.nth? 1 = some next)) := by
  rw [abreast.isAt lawful]
  cases here : p.isAt kind with
  | false => rfl
  | true => rw [abreast.next? lawful ((atStructural_of_isAt here).trans loose)]

/-! ### Lists and groups -/

/-- Items with a separator are in step. -/
theorem inStep_items {item : Step} (each : InStep item) {closer : TokenKind} (message : String)
    (times : Nat) : InStep (items item closer message times) := by
  induction times with
  | zero => exact fun _ _ _ _ abreast => abreast.refl
  | succ times ih =>
    intro c lawful p q abreast
    have first := each lawful abreast
    refine first.ifAt lawful (fun comma => ?_) (first.ifAt lawful (fun _ => first)
      (first.error lawful (by decide) message))
    have past := first.take lawful comma rfl
    exact past.ifAt lawful (fun _ => past) (past.step lawful ih)

/-- A list of items comes out alike whatever its bounds are. -/
theorem inStep_itemList {item : Step} (each : InStep item) (growing : Growing item)
    (closer : TokenKind) (message : String) :
    InStep (fun p => items item closer message (p.remaining + 1) p) :=
  fun _ lawful _ _ abreast => follows_of_unhindered (unhindered_items growing closer message)
    (unhindered_items growing closer message) (Nat.le_refl _) (Nat.le_refl _)
    fun times => inStep_items each message times lawful abreast

/-- Brackets with a list between them follow if the opening one is taken. -/
theorem Correspondence.Follows.brackets (opened : c.Follows o o' p q) (lawful : c.Lawful)
    {list : Step} (lists : InStep list) {closer : TokenKind}
    (loose : closer.isStructural = false) (message : String) :
    c.Follows o o' ((if p.isAt closer then p else list p).expectCloser closer message)
      ((if q.isAt closer then q else list q).expectCloser closer message) :=
  (opened.ifAt lawful (fun _ => opened) (opened.step lawful lists)).step lawful
    (inStep_expectCloser loose message)

section

variable {item : Step} (each : InStep item) (growing : Growing item)

include each growing

/-- A bracketed group is made on both sides. -/
theorem Correspondence.Poised.group (poised : c.Poised p q) (lawful : c.Lawful) (kind : NodeKind)
    (closer : Punctuation) (separator bracket : String) :
    c.Follows p q (p.group kind item closer separator bracket)
      (q.group kind item closer separator bracket) :=
  poised.node ((poised.start kind).bump.brackets lawful
    (inStep_itemList each growing (.punctuation closer) separator) rfl bracket)

/-- Before a token that is not structural a group is in step. -/
theorem Correspondence.Abreast.group (abreast : c.Abreast p q) (lawful : c.Lawful)
    (loose : p.atStructural = false) (kind : NodeKind) (closer : Punctuation)
    (separator bracket : String) : c.Follows p q (p.group kind item closer separator bracket)
      (q.group kind item closer separator bracket) := by
  have free := (sees_start p kind).atStructural.trans loose
  have opened := (abreast.start lawful kind).bump lawful free
  exact abreast.node lawful (opened.brackets lawful
    (inStep_itemList each growing (.punctuation closer) separator) rfl bracket)

end

/-- Further items are in step, as long as these end the items alike. -/
theorem inStep_moreItems {item : Step} (each : InStep item) {ends : Parser → Bool}
    (ending : ∀ ⦃c : Correspondence⦄, c.Lawful → ∀ ⦃p q⦄, c.Abreast p q → ends q = ends p)
    (times : Nat) : InStep (moreItems item ends times) := by
  induction times with
  | zero => exact fun _ _ _ _ abreast => abreast.refl
  | succ times ih =>
    intro c lawful p q abreast
    have first := abreast.refl
    refine first.ifAt lawful (fun comma => ?_) first
    have past := first.take lawful comma rfl
    refine both_ite ?_ (fun _ => past) fun _ => (past.step lawful each).step lawful ih
    rw [ending lawful past.abreast]

/-- Further items up to the end of the tag are in step. -/
theorem inStep_moreItemList {item : Step} (each : InStep item) (growing : Growing item)
    {ends : Parser → Bool}
    (ending : ∀ ⦃c : Correspondence⦄, c.Lawful → ∀ ⦃p q⦄, c.Abreast p q → ends q = ends p) :
    InStep (fun p => moreItems item ends p.remaining p) :=
  fun _ lawful _ _ abreast => follows_of_unhindered (unhindered_moreItems growing ends)
    (unhindered_moreItems growing ends) (Nat.le_refl _) (Nat.le_refl _)
    fun times => inStep_moreItems each ending times lawful abreast

section

variable {inner : Inner} (nested : ∀ which, InStep (inner which))
  (growing : ∀ which, Growing (inner which))

include nested

/-- An argument is in step. -/
theorem inStep_argument : InStep (argument inner) := by
  intro c lawful p q abreast
  refine both_ite ?_ (fun both => ?_) fun _ => nested .expression lawful abreast
  · rw [abreast.followedBy lawful rfl]
  · have both' : ((p.start .keywordArgument).isAt .identifier &&
        decide ((p.start .keywordArgument).nth? 1 = some (.operator .assign))) = true := by
      rw [isAt_start, (sees_start p .keywordArgument).next?]
      exact both
    have named := (Bool.and_eq_true_iff.1 both').1
    have assigned := isAt_bump both'
    have opened := (abreast.start lawful .keywordArgument).refl.take lawful named rfl
    have valued := opened.take lawful assigned rfl
    exact abreast.node lawful (valued.step lawful (nested .expression))

include growing

/-- A list of arguments is made on both sides. -/
theorem Correspondence.Abreast.argumentList (abreast : c.Abreast p q) (lawful : c.Lawful)
    (here : p.isAt (.punctuation .leftParen) = true) :
    c.Follows p q (argumentList inner p) (argumentList inner q) :=
  abreast.group (inStep_argument nested) (growing_argument growing) lawful
    (atStructural_of_isAt here) .argumentList .rightParen "Expected ',' or ')'" "Expected ')'"

omit growing in
/-- Parameters are in step. -/
theorem inStep_parameters (times : Nat) : InStep (parameters inner times) := by
  induction times with
  | zero => exact fun _ _ _ _ abreast => abreast.refl
  | succ times ih =>
    intro c lawful p q abreast
    refine abreast.refl.ifAt lawful (fun named => ?_)
      (abreast.refl.error lawful (by decide) "Expected parameter name")
    have here : (p.start .parameter).isAt .identifier = true := (isAt_start p _ _).trans named
    have opened := (abreast.start lawful .parameter).refl.take lawful here rfl
    have valued (assigned : (p.start .parameter).bump.isAt (.operator .assign) = true) :=
      (opened.take lawful assigned rfl).step lawful (nested .expression)
    have whole := abreast.node lawful (opened.ifAt lawful valued opened)
    refine whole.ifAt lawful (fun comma => ?_) (whole.ifAt lawful (fun _ => whole)
      (whole.error lawful (by decide) "Expected ',' or ')'"))
    have past := whole.take lawful comma rfl
    exact past.ifAt lawful (fun _ => past) (past.step lawful ih)

/-- A list of parameters is made on both sides. -/
theorem Correspondence.Abreast.parameterList (abreast : c.Abreast p q) (lawful : c.Lawful)
    (here : p.isAt (.punctuation .leftParen) = true) :
    c.Follows p q (parameterList inner p) (parameterList inner q) := by
  have lists : InStep (fun p => parameters inner (p.remaining + 1) p) :=
    fun _ lawful _ _ abreast => follows_of_unhindered (unhindered_parameters growing)
      (unhindered_parameters growing) (Nat.le_refl _) (Nat.le_refl _)
      fun times => inStep_parameters nested times lawful abreast
  have paren : (p.start .parameterList).isAt (.punctuation .leftParen) = true :=
    (isAt_start p _ _).trans here
  have opened := (abreast.start lawful .parameterList).refl.take lawful paren rfl
  exact abreast.node lawful (opened.brackets lawful lists rfl "Expected ')'")

/-! ### Atoms and what follows them -/

omit growing in
/-- An entry of a dictionary is in step. -/
theorem inStep_dictEntry : InStep (dictEntry inner) := by
  intro c lawful p q abreast
  have key := (abreast.start lawful .dictEntry).refl.step lawful (nested .expression)
  exact abreast.node lawful (key.ifAt lawful
    (fun colon => (key.take lawful colon rfl).step lawful (nested .expression))
    (key.error lawful (by decide) "Expected ':'"))

/-- An expression in parentheses is made on both sides. -/
theorem Correspondence.Poised.parenthesized (poised : c.Poised p q) (lawful : c.Lawful) :
    c.Follows p q (parenthesized inner p) (parenthesized inner q) := by
  have opened := poised.bump
  rw [Parser.parenthesized, Parser.parenthesized, checkpoint_of_visible poised.here,
    checkpoint_of_visible poised.also]
  refine opened.ifAt lawful (fun closed => ?_) ?_
  · exact opened.around ((opened.abreast.startAt _ _ .tupleLiteral).refl.take lawful closed rfl)
  have value := opened.step lawful (nested .expression)
  have closer : InStep (fun p => p.expectCloser (.punctuation .rightParen) "Expected ')'") :=
    inStep_expectCloser rfl _
  by_cases comma : (inner .expression p.bump).isAt (.punctuation .comma) = true
  · have comma' := (value.abreast.isAt_iff lawful _).2 comma
    have rest : InStep (fun p => moreItems (inner .expression)
        (fun p => p.isAt (.punctuation .rightParen)) p.remaining p) :=
      inStep_moreItemList (nested .expression) (growing .expression)
        fun _ lawful _ _ abreast => abreast.isAt lawful _
    dsimp only
    rw [if_pos comma, if_pos comma']
    exact value.around (((value.abreast.startAt _ _ .tupleLiteral).refl.step lawful rest).step
      lawful closer)
  · have comma' := mt (value.abreast.isAt_iff lawful _).1 comma
    dsimp only
    rw [if_neg comma, if_neg comma']
    exact value.around
      ((value.abreast.startAt _ _ .parenthesizedExpression).refl.step lawful closer)

omit nested growing in
/-- String literals side by side are made into one node on both sides. -/
theorem Correspondence.Poised.strings (poised : c.Poised p q) (lawful : c.Lawful)
    (here : p.isAt (.literal .string) = true) :
    c.Follows p q p.strings q.strings := by
  have first := (poised.start .stringLiteral).bump
  have here' : (p.start .stringLiteral).isAt (.literal .string) = true :=
    (isAt_start p _ _).trans here
  have also : (q.start .stringLiteral).isAt (.literal .string) = true := by
    rw [Parser.isAt, (poised.start .stringLiteral).same]
    exact here'
  have going (r : Parser) (there : r.isAt (.literal .string) = true) :
      r.loop (fun p => p.isAt (.literal .string)) Parser.bump =
        r.bump.loop (fun p => p.isAt (.literal .string)) Parser.bump :=
    loop_of_test (fun _ => isSome_of_isAt) (fun r _ => past_bump r) there
  rw [Parser.strings, Parser.strings, going _ here', going _ also]
  exact poised.node (first.loopAt lawful past_bump past_bump
    fun r s both there => both.take lawful there rfl)

/-- What reads an atom that begins with a token of a kind. -/
def atomStep? (inner : Inner) : TokenKind → Option Step
  | .identifier => some fun p => p.single .variableReference
  | .literal .string => some strings
  | .literal .integer => some fun p => p.single .numberLiteral
  | .literal .float => some fun p => p.single .numberLiteral
  | .literal .boolTrue => some fun p => p.single .booleanLiteral
  | .literal .boolFalse => some fun p => p.single .booleanLiteral
  | .literal .none => some fun p => p.single .noneLiteral
  | .punctuation .leftParen => some (parenthesized inner)
  | .punctuation .leftBracket => some (group .listLiteral (inner .expression) .rightBracket
      "Expected ',' or ']'" "Expected ']'")
  | .punctuation .leftBrace => some (group .dictLiteral (dictEntry inner) .rightBrace
      "Expected ',' or '\x7d'" "Expected '\x7d'")
  | _ => none

omit nested growing in
/-- An atom is read by what its first token asks for. -/
theorem atom_eq (inner : Inner) (p : Parser) : atom inner p =
    match p.current?.bind (atomStep? inner) with
    | some step => (true, step p)
    | none => (false, p.placeholder) := by
  cases seen : p.current? with
  | none => rw [atom, seen]; rfl
  | some kind =>
    rw [atom, seen, Option.bind_some]
    cases kind with
    | literal l => cases l <;> rfl
    | punctuation mark => cases mark <;> rfl
    | _ => rfl

/-- An atom is made on both sides. -/
theorem Correspondence.Poised.atom (poised : c.Poised p q) (lawful : c.Lawful) {step : Step}
    (asked : p.current?.bind (atomStep? inner) = some step) :
    c.Follows p q (step p) (step q) := by
  obtain ⟨kind, seen, asks⟩ := Option.bind_eq_some_iff.1 asked
  have atString (same : kind = .literal .string) : p.isAt (.literal .string) = true :=
    (isAt_iff p _).2 (same ▸ seen)
  unfold atomStep? at asks
  split at asks
  case h_2 =>
    obtain rfl := Option.some.inj asks
    exact poised.strings lawful (atString rfl)
  case h_8 =>
    obtain rfl := Option.some.inj asks
    exact poised.parenthesized nested growing lawful
  case h_9 =>
    obtain rfl := Option.some.inj asks
    exact poised.group (nested .expression) (growing .expression) lawful _ _ _ _
  case h_10 =>
    obtain rfl := Option.some.inj asks
    exact poised.group (inStep_dictEntry nested) (growing_dictEntry growing) lawful _ _ _ _
  case h_11 => contradiction
  all_goals
    obtain rfl := Option.some.inj asks
    exact poised.single _

/-- Attributes, subscripts and calls go on around an operand. -/
theorem trailing_postfixes :
    Trailing fun checkpoint p => p.loop atPostfix (postfixStep inner checkpoint) := by
  intro c lawful o o' p q first
  refine first.loopAny lawful (past_postfixStep growing _) (past_postfixStep growing _)
    fun r s both follows => ?_
  have opened (kind : NodeKind) :=
    (both.abreast.startAt o.builder.checkpoint o'.builder.checkpoint kind).refl
  by_cases dot : r.isAt (.punctuation .dot) = true
  · rw [postfixStep, postfixStep, if_pos dot, if_pos ((both.abreast.isAt_iff lawful _).2 dot)]
    have member := (opened .attributeAccess).take lawful dot rfl
    refine both.around (both_ite ?_ (fun named => member.bump lawful ?_)
      (fun _ => member.error lawful (by decide) "Expected attribute name"))
    · rw [member.abreast.current? lawful]
    · rw [Option.any_eq_true] at named
      obtain ⟨kind, current, named⟩ := named
      rw [atStructural_of_current? current]
      cases kind with
      | identifier => rfl
      | literal l => rfl
      | keyword k => rfl
      | _ => contradiction
  rw [postfixStep, postfixStep, if_neg dot, if_neg (mt (both.abreast.isAt_iff lawful _).1 dot)]
  by_cases bracket : r.isAt (.punctuation .leftBracket) = true
  · rw [if_pos bracket, if_pos ((both.abreast.isAt_iff lawful _).2 bracket)]
    have subscript := ((opened .subscriptAccess).take lawful bracket rfl).step lawful
      (nested .expression)
    exact both.around (subscript.step lawful (inStep_expectCloser rfl "Expected ']'"))
  · rw [if_neg bracket, if_neg (mt (both.abreast.isAt_iff lawful _).1 bracket)]
    have call : (r.startAt o.builder.checkpoint .functionCall).isAt (.punctuation .leftParen) =
        true := isAt_leftParen follows dot bracket
    exact both.around ((opened .functionCall).abreast.argumentList nested growing lawful call)

/-- An atom, with what follows it if it is one. -/
theorem inStep_primary : InStep (primary inner) := by
  intro c lawful p q abreast
  have spaced := abreast.skipSpace lawful
  refine spaced.trans ?_
  rw [primary, primary, checkpoint, checkpoint]
  dsimp only
  rw [atom_eq, atom_eq, spaced.abreast.current? lawful]
  cases asked : p.skipSpace.current?.bind (atomStep? inner) with
  | none => exact inStep_placeholder lawful spaced.abreast
  | some step =>
    obtain ⟨kind, seen, asks⟩ := Option.bind_eq_some_iff.1 asked
    have loose : p.atStructural = false := by
      rw [(sees_skipSpace p).current?] at seen
      rw [atStructural_of_current? seen]
      cases kind with
      | delimiter d => contradiction
      | newline => contradiction
      | _ => rfl
    exact trailing_postfixes nested growing lawful
      ((abreast.poised lawful loose).atom nested growing lawful asked)

/-- Filters go on around an operand. -/
theorem trailing_filters :
    Trailing fun checkpoint p =>
      p.loop (fun p => p.isAt (.operator .pipe)) (filterStep inner checkpoint) := by
  intro c lawful o o' p q first
  refine first.loopAt lawful (past_filterStep growing _) (past_filterStep growing _)
    fun r s both pipe => ?_
  have opened := (both.abreast.startAt o.builder.checkpoint o'.builder.checkpoint
    .filterExpression).refl.take lawful pipe rfl
  refine both.around (opened.ifAt lawful (fun name => ?_)
    (opened.error lawful (by decide) "Expected filter name"))
  have named := opened.take lawful name rfl
  exact named.ifAt lawful
    (fun call => named.trans (named.abreast.argumentList nested growing lawful call)) named

/-- An operand with its filters is in step. -/
theorem inStep_filtered : InStep (filtered inner) :=
  (inStep_primary nested growing).trailed (trailing_filters nested growing) fun _ => rfl

/-! ### Operators -/

omit nested growing in
/-- Operators of one precedence with their operands go on around an operand. -/
theorem trailing_operators {operand : Step} (each : InStep operand) (growing : Growing operand)
    (kind : NodeKind) {operators : List TokenKind}
    (loose : ∀ kind ∈ operators, kind.isStructural = false) :
    Trailing fun checkpoint p => p.loop (fun p => p.atAny operators)
      fun p => (operand (p.startAt checkpoint kind).bump).finish := by
  intro c lawful o o' p q first
  refine first.loopAny lawful (past_operator growing _ kind) (past_operator growing _ kind)
    fun r s both sign => ?_
  have opened := (both.abreast.startAt o.builder.checkpoint o'.builder.checkpoint kind).refl
  exact both.around ((opened.bump lawful (atStructural_of_atAny sign loose)).step lawful each)

omit nested growing in
/-- Operands with operators between them are in step. -/
theorem inStep_leftGrouped {operand : Step} (each : InStep operand) (growing : Growing operand)
    (kind : NodeKind) {operators : List TokenKind}
    (loose : ∀ kind ∈ operators, kind.isStructural = false) :
    InStep (leftGrouped kind operators operand) :=
  each.trailed (trailing_operators each growing kind loose) fun _ => rfl

/-- A power goes on around an operand. -/
def powerAfter (inner : Inner) (checkpoint : Checkpoint) (p : Parser) : Parser :=
  if p.isAt (.operator .power) then
    (inner .factor (p.startAt checkpoint .powerExpression).bump).finish
  else
    p

omit growing in
/-- A power goes on around its base on both sides. -/
theorem trailing_power : Trailing (powerAfter inner) := by
  intro c lawful o o' p q first
  refine first.ifAt lawful (fun power => ?_) first
  have opened := (first.abreast.startAt o.builder.checkpoint o'.builder.checkpoint
    .powerExpression).refl
  exact first.around ((opened.take lawful power rfl).step lawful (nested .factor))

/-- A power is in step. -/
theorem inStep_powered : InStep (powered inner) :=
  (inStep_filtered nested growing).trailed (trailing_power nested) fun _ => rfl

omit nested growing in
/-- The signs are not structural. -/
theorem loose_signs : ∀ kind ∈ [TokenKind.operator .minus, .operator .plus],
    kind.isStructural = false := by decide

/-- A factor is in step. -/
theorem inStep_factor : InStep (factor inner) := by
  intro c lawful p q abreast
  refine both_ite ?_ (fun sign => ?_) fun _ => inStep_powered nested growing lawful abreast
  · rw [abreast.atAny lawful]
  · have loose := (sees_start p .unaryExpression).atStructural.trans
      (atStructural_of_atAny sign loose_signs)
    have opened := (abreast.start lawful .unaryExpression).bump lawful loose
    exact abreast.node lawful (opened.step lawful (nested .factor))

/-- A product is in step. -/
theorem inStep_product : InStep (product inner) :=
  inStep_leftGrouped (nested .factor) (growing .factor) .termExpression (by decide)

/-- A sum is in step. -/
theorem inStep_sum : InStep (sum inner) :=
  inStep_leftGrouped (inStep_product nested growing) (growing_product growing)
    .arithmeticExpression (by decide)

/-- A comparison or a test goes on around an operand. -/
def comparisonAfter (inner : Inner) (checkpoint : Checkpoint) (p : Parser) : Parser :=
  if p.current?.any fun kind => kind.isComparison || kind = .keyword .inKw then
    (sum inner (p.startAt checkpoint .comparisonExpression).bump).finish
  else if p.isAt (.keyword .notKw) && p.nth? 1 = some (.keyword .inKw) then
    (sum inner (p.startAt checkpoint .comparisonExpression).bump.bump).finish
  else if p.isAt (.keyword .isKw) then
    (sum inner ((p.startAt checkpoint .testExpression).bump.skip (.keyword .notKw))).finish
  else
    p

/-- A comparison goes on around its first operand on both sides. -/
theorem trailing_comparison : Trailing (comparisonAfter inner) := by
  intro c lawful o o' p q first
  have operand := inStep_sum nested growing
  have opened (kind : NodeKind) :=
    (first.abreast.startAt o.builder.checkpoint o'.builder.checkpoint kind).refl
  refine both_ite ?_ (fun compares => ?_) fun _ => both_ite ?_ (fun excludes => ?_)
    fun _ => first.ifAt lawful (fun tests => ?_) first
  · rw [first.abreast.current? lawful]
  · rw [Option.any_eq_true] at compares
    obtain ⟨kind, current, compares⟩ := compares
    have loose : kind.isStructural = false := by
      cases kind with
      | delimiter d => contradiction
      | newline => contradiction
      | _ => rfl
    exact first.around (((opened .comparisonExpression).bump lawful
      ((atStructural_of_current? current).trans loose)).step lawful operand)
  · rw [first.abreast.followedBy lawful rfl]
  · have negated := (Bool.and_eq_true_iff.1 excludes).1
    have both : ((p.startAt o.builder.checkpoint .comparisonExpression).isAt (.keyword .notKw) &&
        decide ((p.startAt o.builder.checkpoint .comparisonExpression).nth? 1 =
          some (.keyword .inKw))) = true := excludes
    have contained := isAt_bump both
    exact first.around ((((opened .comparisonExpression).take lawful negated rfl).take lawful
      contained rfl).step lawful operand)
  · exact first.around ((((opened .testExpression).take lawful tests rfl).step lawful
      (inStep_skip rfl)).step lawful operand)

/-- A comparison is in step. -/
theorem inStep_comparison : InStep (comparison inner) :=
  (inStep_sum nested growing).trailed (trailing_comparison nested growing) fun _ => rfl

/-- A negation is in step. -/
theorem inStep_negation : InStep (negation inner) := by
  intro c lawful p q abreast
  refine abreast.refl.ifAt lawful (fun negated => ?_)
    (inStep_comparison nested growing lawful abreast)
  have here : (p.start .notExpression).isAt (.keyword .notKw) = true :=
    (isAt_start p _ _).trans negated
  have opened := (abreast.start lawful .notExpression).refl.take lawful here rfl
  exact abreast.node lawful (opened.step lawful (nested .negation))

/-- A conjunction is in step. -/
theorem inStep_conjunction : InStep (conjunction inner) :=
  inStep_leftGrouped (inStep_negation nested growing) (growing_negation growing) .andExpression
    (by decide)

/-- A disjunction is in step. -/
theorem inStep_disjunction : InStep (disjunction inner) :=
  inStep_leftGrouped (inStep_conjunction nested growing) (growing_conjunction growing)
    .orExpression (by decide)

/-- A condition and an alternative go on around an operand. -/
def conditionAfter (inner : Inner) (checkpoint : Checkpoint) (p : Parser) : Parser :=
  if p.isAt (.keyword .ifKw) then
    let p := disjunction inner (p.startAt checkpoint .conditionalExpression).bump
    (if p.isAt (.keyword .elseKw) then inner .expression p.bump else p).finish
  else
    p

/-- A condition goes on around its first branch on both sides. -/
theorem trailing_condition : Trailing (conditionAfter inner) := by
  intro c lawful o o' p q first
  refine first.ifAt lawful (fun mark => ?_) first
  have opened := (first.abreast.startAt o.builder.checkpoint o'.builder.checkpoint
    .conditionalExpression).refl.take lawful mark rfl
  have tested := opened.step lawful (inStep_disjunction nested growing)
  exact first.around (tested.ifAt lawful
    (fun other => (tested.take lawful other rfl).step lawful (nested .expression)) tested)

/-- A conditional expression is in step. -/
theorem inStep_conditional : InStep (conditional inner) :=
  (inStep_disjunction nested growing).trailed (trailing_condition nested growing) fun _ => rfl

end

/-- The nested productions are in step with any number of levels left. -/
theorem inStep_nested (levels : Nat) (which : Nested) : InStep (nested levels which) := by
  induction levels generalizing which with
  | zero =>
    exact fun _ lawful _ _ abreast => (abreast.refuse lawful).step lawful inStep_placeholder
  | succ levels ih =>
    intro c lawful p q abreast
    have growing := growing_nested levels
    apply Follows.ascend
    cases which with
    | expression => exact inStep_conditional ih growing lawful abreast.descend
    | disjunction => exact inStep_disjunction ih growing lawful abreast.descend
    | negation => exact inStep_negation ih growing lawful abreast.descend
    | factor => exact inStep_factor ih growing lawful abreast.descend

/-- An expression is in step. -/
theorem inStep_expression : InStep expression := by
  intro c lawful p q abreast
  rw [expression, expression, abreast.levels]
  exact inStep_nested p.levels .expression lawful abreast

/-- An expression without a condition is in step. -/
theorem inStep_orExpression : InStep orExpression := by
  intro c lawful p q abreast
  rw [orExpression, orExpression, abreast.levels]
  exact inStep_nested p.levels .disjunction lawful abreast

/-- More expressions go on after a first one and make a tuple of it. -/
def tupleAfter (checkpoint : Checkpoint) (p : Parser) : Parser :=
  if p.isAt (.punctuation .comma) then
    let p := p.startAt checkpoint .tupleLiteral
    (moreItems expression atStructural p.remaining p).finish
  else
    p

/-- A tuple goes on around its first item on both sides. -/
theorem trailing_tuple : Trailing tupleAfter := by
  intro c lawful o o' p q first
  refine first.ifAt lawful (fun comma => ?_) first
  have rest : InStep (fun p => moreItems expression atStructural p.remaining p) :=
    inStep_moreItemList inStep_expression growing_expression
      fun _ lawful _ _ abreast => abreast.atStructural lawful
  exact first.around ((first.abreast.startAt _ _ .tupleLiteral).refl.step lawful rest)

/-- A tuple or an expression is in step. -/
theorem inStep_tupleOrExpression : InStep tupleOrExpression :=
  inStep_expression.trailed trailing_tuple fun _ => rfl

end Parser
end Stencil
