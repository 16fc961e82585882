import Stencil.Proofs.Outline.Inside
import Stencil.Proofs.Parser.Coverage
import Stencil.Proofs.Tree.Composition
/-!
# The parser composes nodes

Whatever the tokens are, each node that the parser closes has the child nodes and the tokens of its
kind. `Builds` says that what was read between two moments of a parse is composed, and which rows of
nodes it is. Every production of an expression builds one operand (`building_expression`): a
placeholder is one too, and a node that is opened around an operand stands in its place.
-/

namespace Stencil
namespace Parser

open NodeKind (operand)
open scoped Computability

/-- The later parser has read composed nodes, in one of these rows. -/
def Builds (earlier later : Parser) (rows : Language NodeKind) : Prop :=
  ∃ shapes, earlier.Reads later shapes ∧ Shape.Composed earlier.stream shapes ∧
    Shape.kinds shapes ∈ rows

/-- A step builds such a row from everywhere. -/
def Building (rows : Language NodeKind) (step : Step) : Prop :=
  ∀ p : Parser, p.Builds (step p) rows

variable {rows more further : Language NodeKind}

/-! ### Small steps -/

/-- Reading tokens builds no node. -/
theorem builds_of_tokens {p q : Parser} (start count : Nat)
    (reads : p.Reads q (Shape.tokens start count)) : p.Builds q 1 :=
  ⟨_, reads, Shape.composed_tokens _ _ _, Shape.kinds_tokens start count⟩

/-- Without a step no row is built. -/
theorem builds_refl (p : Parser) : p.Builds p 1 := builds_of_tokens 0 0 p.reads_refl

/-- Rows built after one another are one row. -/
theorem Builds.trans {first second third : Parser} (before : first.Builds second rows)
    (after : second.Builds third more) : first.Builds third (rows * more) := by
  obtain ⟨left, reading, early, begins⟩ := before
  obtain ⟨right, next, late, ends⟩ := after
  rw [reading.stream] at late
  refine ⟨left ++ right, reading.trans next, Shape.composed_append.2 ⟨early, late⟩, ?_⟩
  rw [Shape.kinds_append]
  exact Language.append_mem_mul begins ends

/-- A row is one of more rows. -/
theorem Builds.widen {earlier later : Parser} (built : earlier.Builds later rows)
    (within : rows ≤ more) : earlier.Builds later more := by
  obtain ⟨shapes, reading, composed, row⟩ := built
  exact ⟨shapes, reading, composed, within row⟩

/-- After no node, the row is what is built next. -/
theorem Builds.next {first second third : Parser} (before : first.Builds second 1)
    (after : second.Builds third rows) : first.Builds third rows := by
  have whole := before.trans after
  rw [one_mul] at whole
  exact whole

/-- Before no node, the row is what was built. -/
theorem Builds.rest {first second third : Parser} (before : first.Builds second rows)
    (after : second.Builds third 1) : first.Builds third rows := by
  have whole := before.trans after
  rw [mul_one] at whole
  exact whole

/-- A choice builds what both alternatives build. -/
theorem builds_ite {origin left right : Parser} {test : Prop} [Decidable test]
    (yes : origin.Builds left rows) (no : origin.Builds right rows) :
    origin.Builds (if test then left else right) rows := by
  split
  · exact yes
  · exact no

/-- White space builds no row. -/
theorem building_skipSpace : Building 1 skipSpace := fun p =>
  builds_of_tokens _ _ p.reads_skipSpace

/-- A token builds no row. -/
theorem building_bump : Building 1 bump := by
  intro p
  have spaced := building_skipSpace p
  simp only [bump]
  split
  next inside => exact spaced.next (builds_of_tokens _ 1 (reads_take inside))
  · exact spaced

/-- A report anywhere builds no row. -/
theorem building_errorAt (offset : Nat) (fault : SyntaxFault) (message : String) :
    Building 1 (fun p => p.errorAt offset fault message) := fun p =>
  builds_of_tokens 0 0 (reads_errorAt p offset fault message).1

/-- A report builds no row. -/
theorem building_error (fault : SyntaxFault) (message : String) :
    Building 1 (fun p => p.error fault message) := fun p =>
  building_errorAt p.offset fault message p

/-- A refused level builds no row. -/
theorem building_refuse : Building 1 refuse := fun p => builds_of_tokens 0 0 (reads_refuse p).1

/-- An optional token builds no row. -/
theorem building_skip (kind : TokenKind) : Building 1 (fun p => p.skip kind) := by
  intro p
  change p.Builds (p.skip kind) 1
  rw [skip_eq]
  exact builds_ite (building_bump p) (builds_refl p)

/-- A bracket that closes builds no row. -/
theorem building_expectCloser (closer : TokenKind) (message : String) :
    Building 1 (fun p => p.expectCloser closer message) := fun p =>
  builds_ite (building_bump p) (building_error _ _ p)

/-! ### Nodes -/

/-- A node builds itself if it is given what its kind may have. -/
theorem builds_of_fits {p q : Parser} {kind : NodeKind} {shapes : List Shape}
    (reads : (p.start kind).Reads q shapes) (composed : Shape.Composed p.stream shapes)
    (fits : Shape.Fits p.stream kind shapes) : p.Builds q.finish {[kind]} := by
  have node : p.skipSpace.Builds q.finish {[kind]} := by
    refine ⟨_, reads_node reads, ?_, rfl⟩
    rw [p.reads_skipSpace.stream]
    exact Shape.composed_node.2 ⟨fits, composed⟩
  exact (building_skipSpace p).next node

/-- A node of a kind that may have any tokens is given the child nodes of its kind. -/
theorem builds_node {p q : Parser} (kind : NodeKind) (free : kind.words = ⊤)
    (inside : (p.start kind).Builds q kind.parts) : p.Builds q.finish {[kind]} := by
  obtain ⟨shapes, reads, composed, parts⟩ := inside
  have source : (p.start kind).stream = p.stream := p.reads_skipSpace.stream
  rw [source] at composed
  refine builds_of_fits reads composed ⟨parts, ?_⟩
  rw [free]
  trivial

/-- A node around what was built since a checkpoint takes its place. -/
theorem builds_around {origin middle later : Parser} (kind : NodeKind) (free : kind.words = ⊤)
    (before : origin.Builds middle rows)
    (after : (middle.startAt origin.builder.checkpoint kind).Builds later more)
    (fits : rows * more ≤ kind.parts) : origin.Builds later.finish {[kind]} := by
  obtain ⟨left, reading, early, begins⟩ := before
  obtain ⟨right, next, late, ends⟩ := after
  have source : (middle.startAt origin.builder.checkpoint kind).stream = origin.stream :=
    reading.stream
  rw [source] at late
  refine ⟨_, reads_startAt reading next, Shape.composed_node.2 ⟨⟨?_, ?_⟩, ?_⟩, rfl⟩
  · rw [Shape.kinds_append]
    exact fits (Language.append_mem_mul begins ends)
  · rw [free]
    trivial
  · exact Shape.composed_append.2 ⟨early, late⟩

/-- A node that is an operand. -/
theorem Builds.operand {p q : Parser} {kind : NodeKind} (built : p.Builds q {[kind]})
    (isOperand : kind.isOperand = true) : p.Builds q operand :=
  built.widen (NodeKind.singleton_le_operand isOperand)

/-- What is read one level deeper builds the same. -/
theorem builds_ascend {p q : Parser} (inside : p.descend.Builds q rows) :
    p.Builds q.ascend rows := by
  obtain ⟨shapes, reading, composed, row⟩ := inside
  exact ⟨shapes, reads_ascend reading, composed, row⟩

/-- A placeholder builds one operand. -/
theorem building_placeholder : Building operand placeholder := by
  intro p
  have node : (p.error .expectedExpression "Expected expression").Builds p.placeholder
      {[.error]} := by
    refine builds_node .error rfl (Builds.widen ?_ (show 1 ≤ NodeKind.error.parts from le_top))
    exact builds_ite (builds_refl _) (building_bump _)
  exact (building_error _ _ p).next (node.operand rfl)

/-! ### Names and literals -/

/-- The later parser has read tokens of these kinds, and no node. -/
def Spells (earlier later : Parser) (kinds : List TokenKind) : Prop :=
  ∃ shapes, earlier.Reads later shapes ∧ Shape.Composed earlier.stream shapes ∧
    Shape.kinds shapes = [] ∧ Shape.words earlier.stream shapes = kinds

/-- The token that the parser sees is read, with the white space before it. -/
theorem spells_bump {p : Parser} {kind : TokenKind} (here : p.current? = some kind) :
    p.Spells p.bump [kind] := by
  have solid : kind ≠ .whitespace := by
    rintro rfl
    rw [current?_eq] at here
    exact p.stream.kindAt?_visible _ here
  have blank (index : Nat) (after : p.position ≤ index)
      (before : index < p.position + (p.stream.visible p.position - p.position)) :
      p.stream.kindAt? index = some .whitespace := by
    have ahead := p.stream.le_visible p.position
    exact TokenStream.kindAt?_before_visible after (by omega)
  refine ⟨_, reads_bump (here ▸ rfl), ?_, ?_, ?_⟩
  · exact Shape.composed_append.2
      ⟨Shape.composed_tokens _ _ _, Shape.composed_tokens _ (p.stream.visible p.position) 1⟩
  · rw [Shape.kinds_append, Shape.kinds_tokens]
    rfl
  · rw [current?_eq] at here
    rw [Shape.words_append, Shape.words_tokens_of_blank blank, List.nil_append,
      Shape.words_token here solid]

/-- Tokens read after one another are read together. -/
theorem Spells.trans {first second third : Parser} {kinds kinds' : List TokenKind}
    (before : first.Spells second kinds) (after : second.Spells third kinds') :
    first.Spells third (kinds ++ kinds') := by
  obtain ⟨left, reading, early, none, begins⟩ := before
  obtain ⟨right, next, late, none', ends⟩ := after
  rw [reading.stream] at late ends
  refine ⟨_, reading.trans next, Shape.composed_append.2 ⟨early, late⟩, ?_, ?_⟩
  · rw [Shape.kinds_append, none, none', List.nil_append]
  · rw [Shape.words_append, begins, ends]

/-- A node of tokens that its kind may have, and of no others. -/
theorem builds_of_spells {p q : Parser} {kind : NodeKind} {kinds : List TokenKind}
    (inside : (p.start kind).Spells q kinds) (bare : kind.parts = 1) (word : kinds ∈ kind.words) :
    p.Builds q.finish {[kind]} := by
  obtain ⟨shapes, reading, composed, none, same⟩ := inside
  have source : (p.start kind).stream = p.stream := p.reads_skipSpace.stream
  rw [source] at composed same
  refine builds_of_fits reading composed ⟨?_, same ▸ word⟩
  rw [none, bare]
  exact Language.nil_mem_one

/-- A node of one token of its kind. -/
theorem builds_single {p : Parser} {kind : NodeKind} {token : TokenKind}
    (here : p.current? = some token) (bare : kind.parts = 1) (word : [token] ∈ kind.words)
    (isOperand : kind.isOperand = true) : p.Builds (p.single kind) operand := by
  have inside : (p.start kind).Spells (p.start kind).bump [token] :=
    spells_bump ((current?_start p kind).trans here)
  exact (builds_of_spells inside bare word).operand isOperand

/-- String literals one after another are the tokens of one node: the loop takes the first, since
there is one, and adds others. -/
theorem builds_strings {p : Parser} (here : p.current? = some (.literal .string)) :
    p.Builds p.strings operand := by
  set o := p.start .stringLiteral with opened
  let isString (q : Parser) : Bool := q.isAt (.literal .string)
  have seen : o.isAt (.literal .string) = true := by
    rw [isAt_start, isAt_iff]
    exact here
  have round (q : Parser)
      (before : q = o ∨ ∃ row ∈ NodeKind.stringLiteral.words, o.Spells q row)
      (goes : isString q = true) :
      q.bump = o ∨ ∃ row ∈ NodeKind.stringLiteral.words, o.Spells q.bump row := by
    have taken := spells_bump ((isAt_iff q _).1 goes)
    rcases before with rfl | ⟨row, word, spelled⟩
    · exact .inr ⟨_, NodeKind.single_string_mem, taken⟩
    · exact .inr ⟨_, NodeKind.append_string_mem word, spelled.trans taken⟩
  rcases loop_keeps round (.inl rfl) with still | ⟨row, word, spelled⟩
  · have ended : isString (o.loop isString bump) = false :=
      loop_exits (fun _ => isSome_of_isAt) (fun q _ => past_bump q) o
    have more : isString o = true := seen
    rw [still, more] at ended
    contradiction
  · exact (builds_of_spells spelled rfl word).operand rfl

/-! ### Lists and groups -/

/-- A list with separators builds a row of its items. -/
theorem building_items {item : Step} (each : Building rows item) (closer : TokenKind)
    (message : String) (times : Nat) : Building rows∗ (items item closer message times) := by
  induction times with
  | zero => exact fun p => p.builds_refl.widen one_le_kstar
  | succ times ih =>
    intro p
    have first := each p
    have past := first.rest (building_bump (item p))
    have last := first.widen le_kstar
    refine builds_ite (builds_ite (past.widen le_kstar) ?_)
      (builds_ite last (last.rest (building_error _ _ _)))
    exact (past.trans (ih _)).widen mul_kstar_le_kstar

/-- Further items build a row of these. -/
theorem building_moreItems {item : Step} (each : Building rows item) (ends : Parser → Bool)
    (times : Nat) : Building rows∗ (moreItems item ends times) := by
  induction times with
  | zero => exact fun p => p.builds_refl.widen one_le_kstar
  | succ times ih =>
    intro p
    have past := building_bump p
    have none := p.builds_refl.widen (one_le_kstar (a := rows))
    refine builds_ite (builds_ite (none.rest past) ?_) none
    exact past.next (((each _).trans (ih _)).widen mul_kstar_le_kstar)

/-- A loop builds what its rounds leave a row of. -/
theorem builds_loop {origin p : Parser} {test : Parser → Bool} {body : Step}
    (first : origin.Builds p rows)
    (round : ∀ q, origin.Builds q rows → origin.Builds (body q) rows) :
    origin.Builds (p.loop test body) rows :=
  loop_keeps (fun q before _ => round q before) first

/-- A node of brackets around a list. -/
theorem builds_brackets (kind : NodeKind) (free : kind.words = ⊤) (empty : 1 ≤ kind.parts)
    (closer : TokenKind) (message : String) {list : Step} (lists : Building kind.parts list)
    (p : Parser) :
    p.Builds (Parser.finish (expectCloser
      (if (p.start kind).bump.isAt closer then (p.start kind).bump else list (p.start kind).bump)
      closer message)) {[kind]} := by
  have opened := building_bump (p.start kind)
  have inside : (p.start kind).Builds
      (if (p.start kind).bump.isAt closer then (p.start kind).bump
      else list (p.start kind).bump) kind.parts :=
    builds_ite (opened.widen empty) (opened.next (lists _))
  exact builds_node kind free (inside.rest (building_expectCloser closer message _))

/-- A bracketed group builds one node. -/
theorem building_group (kind : NodeKind) (free : kind.words = ⊤) (list : kind.parts = rows∗)
    {item : Step} (each : Building rows item) (closer : Punctuation)
    (separator bracket : String) :
    Building {[kind]} (group kind item closer separator bracket) := by
  intro p
  have lists : Building kind.parts
      (fun q => items item (.punctuation closer) separator (q.remaining + 1) q) := fun q =>
    list ▸ building_items each _ separator (q.remaining + 1) q
  rw [group]
  exact builds_brackets kind free (list ▸ one_le_kstar) (.punctuation closer) bracket lists p

section

variable {inner : Inner} (nested : ∀ which, Building operand (inner which))

include nested

/-- An argument builds an operand or a keyword argument. -/
theorem building_argument : Building (operand + {[.keywordArgument]}) (argument inner) := by
  intro p
  have named : p.Builds (inner .expression (p.start .keywordArgument).bump.bump).finish
      {[.keywordArgument]} :=
    builds_node _ rfl (((building_bump _).next (building_bump _)).next (nested .expression _))
  exact builds_ite (named.widen le_add_self) ((nested .expression p).widen le_self_add)

/-- A list of arguments builds one node. -/
theorem building_argumentList : Building {[.argumentList]} (argumentList inner) :=
  building_group _ rfl rfl (building_argument nested) _ _ _

/-- Parameters build a row of nodes. -/
theorem building_parameters (times : Nat) :
    Building {[.parameter]}∗ (parameters inner times) := by
  induction times with
  | zero => exact fun p => p.builds_refl.widen one_le_kstar
  | succ times ih =>
    intro p
    have named := building_bump (p.start .parameter)
    have value := (named.next (building_bump _)).next (nested .expression _)
    have whole : p.Builds (Parser.finish
        (if (p.start .parameter).bump.isAt (.operator .assign) then
          inner .expression (p.start .parameter).bump.bump
        else (p.start .parameter).bump)) {[.parameter]} :=
      builds_node _ rfl (builds_ite (value.widen le_add_self) (named.widen le_self_add))
    rw [parameters]
    dsimp only
    generalize Parser.finish (if (p.start .parameter).bump.isAt (.operator .assign) then
      inner .expression (p.start .parameter).bump.bump
      else (p.start .parameter).bump) = q at whole ⊢
    have past := whole.rest (building_bump q)
    have last := whole.widen le_kstar
    refine builds_ite (builds_ite (builds_ite (past.widen le_kstar) ?_)
      (builds_ite last (last.rest (building_error _ _ q))))
      ((building_error _ _ p).widen one_le_kstar)
    exact (past.trans (ih _)).widen mul_kstar_le_kstar

/-- A list of parameters builds one node. -/
theorem building_parameterList : Building {[.parameterList]} (parameterList inner) := by
  intro p
  have lists : Building NodeKind.parameterList.parts
      (fun q => parameters inner (q.remaining + 1) q) := fun q =>
    building_parameters nested (q.remaining + 1) q
  have whole := builds_brackets .parameterList rfl one_le_kstar (.punctuation .rightParen)
    "Expected ')'" lists p
  rw [parameterList]
  exact whole

/-! ### Atoms and what follows them -/

/-- An entry of a dictionary builds one node. -/
theorem building_dictEntry : Building {[.dictEntry]} (dictEntry inner) := by
  intro p
  have key := nested .expression (p.start .dictEntry)
  have value (q : Parser) : q.Builds
      (if q.isAt (.punctuation .colon) then inner .expression q.bump
      else q.error .unexpectedToken "Expected ':'") (1 + operand) :=
    builds_ite (((building_bump q).next (nested .expression _)).widen le_add_self)
      ((building_error _ _ q).widen le_self_add)
  exact builds_node _ rfl (key.trans (value _))

/-- An expression in parentheses builds one operand. -/
theorem building_parenthesized : Building operand (parenthesized inner) := by
  intro p
  have opened := building_bump p.skipSpace
  have first := opened.next (nested .expression _)
  refine (building_skipSpace p).next (builds_ite ?_ ?_)
  · have empty : (1 : Language NodeKind) * 1 ≤ operand∗ := (one_mul 1).trans_le one_le_kstar
    exact (builds_around .tupleLiteral rfl opened (building_bump _) empty).operand rfl
  · dsimp only
    split
    · exact (builds_around .tupleLiteral rfl first ((building_moreItems (nested .expression) _ _
        _).rest (building_expectCloser _ _ _)) mul_kstar_le_kstar).operand rfl
    · exact (builds_around .parenthesizedExpression rfl first
        (building_expectCloser _ _ _) (mul_one _).le).operand rfl

/-- An atom builds one operand. -/
theorem building_atom : Building operand (fun p => (atom inner p).2) := by
  intro p
  simp only [atom]
  split
  next here => exact builds_single here rfl rfl rfl
  next here => exact builds_strings here
  next here => exact builds_single here rfl (.inl rfl) rfl
  next here => exact builds_single here rfl (.inr rfl) rfl
  next here => exact builds_single here rfl (.inl rfl) rfl
  next here => exact builds_single here rfl (.inr rfl) rfl
  next here => exact builds_single here rfl rfl rfl
  · exact building_parenthesized nested p
  · exact (building_group .listLiteral rfl rfl (nested .expression) _ _ _ p).operand rfl
  · exact (building_group .dictLiteral rfl rfl (building_dictEntry nested) _ _ _
      p).operand rfl
  · exact building_placeholder p

/-- A call, a subscript or an attribute builds one operand around the one before it. -/
theorem builds_postfixStep {origin p : Parser} (before : origin.Builds p operand) :
    origin.Builds (postfixStep inner origin.builder.checkpoint p) operand := by
  refine builds_ite ?_ (builds_ite ?_ ?_)
  · have name := building_bump (p.startAt origin.builder.checkpoint .attributeAccess)
    exact (builds_around .attributeAccess rfl before
      (name.next (builds_ite (building_bump _) (building_error _ _ _))) (mul_one _).le).operand rfl
  · have index := (building_bump (p.startAt origin.builder.checkpoint .subscriptAccess)).next
      (nested .expression _)
    exact (builds_around .subscriptAccess rfl before
      (index.rest (building_expectCloser _ _ _)) le_rfl).operand rfl
  · exact (builds_around .functionCall rfl before (building_argumentList nested _)
      le_rfl).operand rfl

/-- A primary expression builds one operand. -/
theorem building_primary : Building operand (primary inner) := by
  intro p
  have first := building_atom nested p.skipSpace
  apply (building_skipSpace p).next
  exact builds_ite (builds_loop first fun q => builds_postfixStep nested) first

/-- A filter builds one operand around the one before it. -/
theorem builds_filterStep {origin p : Parser} (before : origin.Builds p operand) :
    origin.Builds (filterStep inner origin.builder.checkpoint p) operand := by
  have arguments (q : Parser) : q.Builds
      (if q.isAt (.punctuation .leftParen) then argumentList inner q else q)
      (1 + {[.argumentList]}) :=
    builds_ite ((building_argumentList nested q).widen le_add_self)
      (q.builds_refl.widen le_self_add)
  have pipe := building_bump (p.startAt origin.builder.checkpoint .filterExpression)
  exact (builds_around .filterExpression rfl before (pipe.next (builds_ite
    ((building_bump _).next (arguments _)) ((building_error _ _ _).widen le_self_add)))
    le_rfl).operand rfl

/-- An operand with filters builds one operand. -/
theorem building_filtered : Building operand (filtered inner) := by
  intro p
  have first := building_primary nested p.skipSpace
  exact (building_skipSpace p).next (builds_loop first fun q => builds_filterStep nested)

/-! ### Operators -/

omit nested in
/-- Operands with operators of one precedence build one operand. -/
theorem building_leftGrouped {each : Step} (operands : Building operand each) {kind : NodeKind}
    (free : kind.words = ⊤) (parts : kind.parts = operand * operand)
    (isOperand : kind.isOperand = true) (operators : List TokenKind) :
    Building operand (leftGrouped kind operators each) := by
  intro p
  have first := operands p.skipSpace
  refine (building_skipSpace p).next (builds_loop first fun q before => ?_)
  exact (builds_around kind free before ((building_bump _).next (operands _)) parts.ge).operand
    isOperand

/-- A factor builds one operand. -/
theorem building_factor : Building operand (factor inner) := by
  intro p
  refine builds_ite ?_ ?_
  · exact (builds_node .unaryExpression rfl
      ((building_bump _).next (nested .factor _))).operand rfl
  · have first := building_filtered nested p.skipSpace
    refine (building_skipSpace p).next (builds_ite ?_ first)
    exact (builds_around .powerExpression rfl first
      ((building_bump _).next (nested .factor _)) le_rfl).operand rfl

/-- A product builds one operand. -/
theorem building_product : Building operand (product inner) :=
  building_leftGrouped (nested .factor) rfl rfl rfl _

/-- A sum builds one operand. -/
theorem building_sum : Building operand (sum inner) :=
  building_leftGrouped (building_product nested) rfl rfl rfl _

/-- A comparison builds one operand. -/
theorem building_comparison : Building operand (comparison inner) := by
  intro p
  have first := building_sum nested p.skipSpace
  have other := building_sum nested
  refine (building_skipSpace p).next
    (builds_ite ?_ (builds_ite ?_ (builds_ite ?_ first)))
  · exact (builds_around .comparisonExpression rfl first
      ((building_bump _).next (other _)) le_rfl).operand rfl
  · exact (builds_around .comparisonExpression rfl first
      ((building_bump _).next ((building_bump _).next (other _))) le_rfl).operand rfl
  · exact (builds_around .testExpression rfl first
      ((building_bump _).next ((building_skip _ _).next (other _))) le_rfl).operand rfl

/-- A negation builds one operand. -/
theorem building_negation : Building operand (negation inner) := by
  intro p
  refine builds_ite ?_ (building_comparison nested p)
  exact (builds_node .notExpression rfl
    ((building_bump _).next (nested .negation _))).operand rfl

/-- A conjunction builds one operand. -/
theorem building_conjunction : Building operand (conjunction inner) :=
  building_leftGrouped (building_negation nested) rfl rfl rfl _

/-- A disjunction builds one operand. -/
theorem building_disjunction : Building operand (disjunction inner) :=
  building_leftGrouped (building_conjunction nested) rfl rfl rfl _

/-- A conditional expression builds one operand. -/
theorem building_conditional : Building operand (conditional inner) := by
  intro p
  have first := building_disjunction nested p.skipSpace
  rw [conditional, checkpoint]
  dsimp only
  generalize disjunction inner p.skipSpace = q at first ⊢
  have condition := (building_bump (q.startAt p.skipSpace.builder.checkpoint
    .conditionalExpression)).next (building_disjunction nested _)
  have alternative (r : Parser) :
      r.Builds (if r.isAt (.keyword .elseKw) then inner .expression r.bump else r)
        (1 + operand) :=
    builds_ite (((building_bump r).next (nested .expression _)).widen le_add_self)
      (r.builds_refl.widen le_self_add)
  have whole := builds_around _ rfl first (condition.trans (alternative _)) (mul_assoc _ _ _).ge
  exact (building_skipSpace p).next (builds_ite (whole.operand rfl) first)

end

/-- The nested productions build an operand with any number of levels left. -/
theorem building_nested (levels : Nat) (which : Nested) :
    Building operand (nested levels which) := by
  induction levels generalizing which with
  | zero => exact fun p => (building_refuse p).next (building_placeholder _)
  | succ levels ih =>
    intro p
    apply builds_ascend
    cases which with
    | expression => exact building_conditional ih _
    | disjunction => exact building_disjunction ih _
    | negation => exact building_negation ih _
    | factor => exact building_factor ih _

/-- An expression builds one operand. -/
theorem building_expression : Building operand expression := fun p =>
  building_nested p.levels _ p

/-- A tuple or an expression builds one operand. -/
theorem building_tupleOrExpression : Building operand tupleOrExpression := by
  intro p
  have first := building_expression p.skipSpace
  refine (building_skipSpace p).next (builds_ite ?_ first)
  exact (builds_around .tupleLiteral rfl first
    (building_moreItems building_expression _ _ _) mul_kstar_le_kstar).operand rfl

/-! ### Templates -/

/-- Templates are assembled from composed nodes. -/
theorem assembly_builds : Assembly (fun p q => p.Builds q ⊤) where
  refl p := p.builds_refl.widen le_top
  trans before after := (before.trans after).widen le_top
  bump p := (building_bump p).widen le_top
  errorAt offset fault message p := (building_errorAt offset fault message p).widen le_top
  refuse p := (building_refuse p).widen le_top
  node {_ _ kind} outer inside := by
    obtain ⟨parts, words⟩ := NodeKind.parts_of_isOuter outer
    exact (builds_node kind words (inside.widen parts.ge)).widen le_top
  ascend := builds_ascend
  closeBody inside := by
    obtain ⟨shapes, reading, composed, row⟩ := inside
    exact ⟨shapes, reads_closeBody reading, composed, row⟩
  expression p := (building_expression p).widen le_top
  orExpression p := (building_nested p.levels .disjunction p).widen le_top
  tupleOrExpression p := (building_tupleOrExpression p).widen le_top
  argument p := (building_argument (building_nested p.levels) p).widen le_top
  parameterList p := (building_parameterList (building_nested p.levels) p).widen le_top

end Parser

namespace TokenStream

/-- Every stream is parsed into a template of composed nodes. -/
theorem exists_composed_parse (stream : TokenStream) (limits : ParseLimits) :
    ∃ shapes : List Shape, Shape.Composed stream [.node .template shapes] ∧
      Draws (stream.parse limits).tree.nodes (.node (stream.parse limits).tree.root)
        (.node .template shapes) ∧
      (stream.parse limits).tree.childCount = (Shape.node .template shapes).places := by
  let p := Parser.ofStream stream limits
  have items : (p.start .template).Builds
      ((p.start .template).loop (fun p => p.current?.isSome) Parser.item) ⊤ :=
    Parser.assembly_builds.loop Parser.assembly_builds.item _
  obtain ⟨shapes, reads, composed, -⟩ := items.rest (Parser.building_skipSpace _)
  have source : (p.start .template).stream = stream := p.reads_skipSpace.stream
  rw [source] at composed
  exact ⟨shapes, Shape.composed_node.2 ⟨⟨trivial, trivial⟩, composed⟩,
    Parser.draws_of_reads reads p.remaining_template⟩

/-- Whatever the tokens are, and however deep a parse may nest, each node of the tree has the child
nodes of its kind, and next to them the tokens of its kind. -/
theorem parse_composed (stream : TokenStream) (limits : ParseLimits) :
    let tree := (stream.parse limits).tree
    ∀ id ∈ tree.root :: tree.descendants tree.root, tree.Composed stream id := by
  intro tree id member
  obtain ⟨shapes, composed, drawn, places⟩ := stream.exists_composed_parse limits
  exact tree.composed_of_mem drawn (Nat.le_of_eq places.symm) composed member

/-- A call that breaks off within a sum: the sum has two operands, a name and a placeholder. -/
theorem parse_composed_broken :
    let stream : TokenStream := ⟨"", #[⟨.delimiter .variableStart, 0, 0⟩, ⟨.identifier, 0, 0⟩,
      ⟨.punctuation .leftParen, 0, 0⟩, ⟨.identifier, 0, 0⟩, ⟨.whitespace, 0, 0⟩,
      ⟨.operator .plus, 0, 0⟩, ⟨.delimiter .variableEnd, 0, 0⟩], #[], .template⟩
    let tree := (stream.parse {}).tree
    3 ∈ tree.root :: tree.descendants tree.root ∧
      tree.kind? 3 = some .arithmeticExpression ∧
      (tree.childNodes 3).map tree.kind? = [some .variableReference, some .error] ∧
      tree.Composed stream 3 :=
  ⟨by decide +kernel, by decide +kernel, by decide +kernel,
    parse_composed _ {} 3 (by decide +kernel)⟩

end TokenStream
end Stencil
