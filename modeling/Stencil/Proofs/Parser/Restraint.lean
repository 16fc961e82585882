import Stencil.Proofs.Outline.Inside
import Stencil.Proofs.Parser.Progress
/-!
# What expressions take and what they put

A token that belongs to the construct around an expression is never taken (`Spares`), and any other
token where an expression begins is (`Taking`). Whatever stands there, the open node gains the white
space before it and one node (`Puts`): an expression, or an empty placeholder with a report where
there is nothing to take (`puts_nested`).
-/

namespace Stencil
namespace Parser

variable {o p q : Parser}

/-! ### Restraint -/

/-- The later parser is further ahead, and between is no token that belongs to the construct around
an expression. -/
structure Spares (p q : Parser) : Prop extends p.Ahead q where
  loose {index : Nat} {kind : TokenKind} (late : p.position ≤ index) (early : index < q.position)
    (found : p.stream.kindAt? index = some kind) : kind.isStructural = false

/-- A parser that stays where it is takes nothing. -/
theorem spares_of_still (stream : q.stream = p.stream) (still : q.position = p.position) :
    p.Spares q where
  stream := stream
  position := Nat.le_of_eq still.symm
  loose late early := absurd (still ▸ early) (Nat.not_lt.2 late)

/-- What is spared on both of two stretches is spared on both together. -/
theorem Spares.trans (before : o.Spares p) (after : p.Spares q) : o.Spares q where
  toAhead := before.toAhead.trans after.toAhead
  loose {index _} late early found := by
    by_cases first : index < p.position
    · exact before.loose late first found
    · exact after.loose (Nat.not_lt.1 first) early (before.stream ▸ found)

/-- White space takes no token of the construct around. -/
theorem spares_skipSpace (p : Parser) : p.Spares p.skipSpace where
  toAhead := (growing_skipSpace p).ahead
  loose late early found := by
    rw [skipSpace_position] at early
    rw [TokenStream.kindAt?_before_visible late early] at found
    obtain rfl := Option.some.inj found
    rfl

/-- A token that does not belong to the construct around may be taken. -/
theorem spares_bump (loose : p.atStructural = false) : p.Spares p.bump where
  toAhead := (growing_bump p).ahead
  loose {index _} late early found := by
    by_cases blank : index < p.stream.visible p.position
    · exact (spares_skipSpace p).loose late (p.skipSpace_position ▸ blank) found
    · have last : index = p.stream.visible p.position := by
        rw [bump_position] at early
        split_ifs at early <;> omega
      rw [last, ← current?_eq] at found
      exact (atStructural_of_current? found).symm.trans loose

/-- A node takes no token of the construct around, if what is in it takes none. -/
theorem spares_node {kind : NodeKind} (inside : (p.start kind).Spares q) : p.Spares q.finish :=
  (spares_skipSpace p).trans ⟨⟨inside.stream, inside.position⟩, inside.loose⟩

/-- A report takes nothing. -/
theorem spares_error (p : Parser) (fault : SyntaxFault) (message : String) :
    p.Spares (p.error fault message) :=
  spares_of_still (sees_error p fault message).stream (reads_errorAt p _ _ _).2

/-- The steps of expressions take no token that belongs to the construct around. -/
theorem routine_spares : Routine Spares where
  refl _ := spares_of_still rfl rfl
  trans := Spares.trans
  skipSpace := spares_skipSpace
  bump {_ kind} here written := by
    have loose : kind.isStructural = false := by cases kind <;> first | rfl | contradiction
    exact spares_bump ((atStructural_of_current? here).trans loose)
  error p _ message _ := spares_error p _ message
  refuse p := spares_of_still (sees_refuse p).stream p.reads_refuse.2.1
  placeholder p := by
    refine (spares_error p _ _).trans (spares_node (Phrasing.related_ite
      (fun _ => spares_of_still rfl rfl) fun loose => spares_bump ?_))
    exact Bool.not_eq_true _ ▸ loose
  node _ := spares_node
  around _ _ before after :=
    before.trans ⟨⟨after.stream, after.position⟩, after.loose⟩
  ascend inside := ⟨⟨inside.stream, inside.position⟩, inside.loose⟩

/-! ### One node -/

/-- Where the earlier parser stands, a missing expression was reported, and nothing else but
perhaps, before it, that there is no deeper level. -/
def Laments (p q : Parser) : Prop :=
  ∃ before, (before = p.findings ∨ before = p.findings.add p.limits.diagnostics
      ⟨p.offset, .maxRecursionDepth,
        "Nesting deeper than " ++ toString p.limits.depth ++ " levels"⟩) ∧
    q.findings =
      before.add p.limits.diagnostics ⟨p.offset, .expectedExpression, "Expected expression"⟩

/-- The later parser has read the white space before the current token and one node. At a token that
belongs to the construct around an expression the node is an error node without children, and it was
reported. -/
def Puts (p q : Parser) : Prop :=
  ∃ kind shapes, p.Reads q (Shape.tokens p.position (p.stream.visible p.position - p.position) ++
      [.node kind shapes]) ∧
    (p.atStructural = true → kind = .error ∧ shapes = [] ∧ p.Laments q)

/-- One node behind the white space is read on over. -/
theorem Puts.grows (puts : p.Puts q) : p.Grows q := by
  obtain ⟨kind, shapes, reads, -⟩ := puts
  exact reads.grows

/-- A node where there is something to take. -/
theorem puts_of_loose {kind : NodeKind} {shapes : List Shape} (loose : p.atStructural = false)
    (reads : p.skipSpace.Reads q [.node kind shapes]) : p.Puts q :=
  ⟨kind, shapes, p.reads_skipSpace.trans reads, fun tied => nomatch loose.symm.trans tied⟩

/-- A node that is opened where no structural token is puts one node. -/
theorem puts_node {kind : NodeKind} (loose : p.atStructural = false)
    (inside : (p.start kind).Grows q) : p.Puts q.finish := by
  obtain ⟨shapes, reads⟩ := inside
  exact puts_of_loose loose (reads_node reads)

/-- A node around what was read where there is something to take. -/
theorem puts_around (kind : NodeKind) {r : Parser} (loose : p.atStructural = false)
    (before : p.skipSpace.Grows q)
    (after : (q.startAt p.skipSpace.builder.checkpoint kind).Grows r) : p.Puts r.finish := by
  obtain ⟨left, reads⟩ := before
  obtain ⟨right, further⟩ := after
  exact puts_of_loose loose (reads_startAt reads further)

/-- White space before makes no difference. -/
theorem Puts.of_skipSpace (puts : p.skipSpace.Puts q) : p.Puts q := by
  obtain ⟨kind, shapes, reads, missing⟩ := puts
  rw [visible_skipSpace, Nat.sub_self] at reads
  refine ⟨kind, shapes, p.reads_skipSpace.trans reads, fun tied => ?_⟩
  have same := sees_skipSpace p
  obtain ⟨error, empty, laments⟩ := missing (same.atStructural.trans tied)
  have offset : p.skipSpace.offset = p.offset := by
    rw [offset_eq, offset_eq, same.stream, same.visible]
  rw [Laments, findings_skipSpace, p.reads_skipSpace.limits, offset] at laments
  exact ⟨error, empty, laments⟩

/-- Where nothing is taken the parser stays at the token. -/
theorem Puts.position (puts : p.Puts q) (tied : p.atStructural = true) :
    q.position = p.stream.visible p.position := by
  obtain ⟨kind, shapes, reads, missing⟩ := puts
  obtain ⟨-, rfl, -⟩ := missing tied
  have taken := congrArg List.length reads.leaves
  have here := p.stream.le_visible p.position
  have forward := reads.forward
  simp only [Shape.leavesAll_append, Shape.leavesAll_tokens, Shape.leavesAll, Shape.leaves,
    List.append_nil, List.length_range'] at taken
  omega

/-- At a structural token a parser sees the same token behind the node. -/
theorem Puts.sees (puts : p.Puts q) (tied : p.atStructural = true) : p.Sees q where
  stream := puts.grows.ahead.stream
  visible := by rw [puts.position tied, TokenStream.visible_visible]

/-- A node around one that was put, and what is read after it, where there is something to take. -/
theorem Puts.around (kind : NodeKind) (before : o.skipSpace.Puts p) (loose : p.atStructural = false)
    (after : (p.startAt o.skipSpace.builder.checkpoint kind).Grows q) :
    o.skipSpace.Puts q.finish := by
  have apart : o.skipSpace.atStructural = false := by
    cases tied : o.skipSpace.atStructural with
    | false => rfl
    | true => rw [← (before.sees tied).atStructural, loose] at tied; contradiction
  have still : o.skipSpace.skipSpace = o.skipSpace := o.skipSpace_skipSpace
  exact puts_around kind apart (still.symm ▸ before.grows) (still.symm ▸ after)

/-- A placeholder is reported. -/
theorem findings_placeholder (p : Parser) : p.placeholder.findings =
    p.findings.add p.limits.diagnostics ⟨p.offset, .expectedExpression, "Expected expression"⟩ := by
  have noted := findings_errorAt p p.offset .expectedExpression "Expected expression"
  rw [placeholder, ← noted, ← error]
  generalize p.error .expectedExpression "Expected expression" = e
  have opened : (e.start .error).findings = e.findings := e.findings_skipSpace
  split
  · exact opened
  · exact (findings_bump _).trans opened

/-- A placeholder is put. -/
theorem reads_placeholder (p : Parser) : ∃ shapes, p.Reads p.placeholder
    (Shape.tokens p.position (p.stream.visible p.position - p.position) ++
      [.node .error shapes]) ∧ (p.atStructural = true → shapes = []) := by
  rw [placeholder]
  have told := reads_errorAt p p.offset .expectedExpression "Expected expression"
  have seen := sees_error p .expectedExpression "Expected expression"
  rw [← error] at told
  generalize p.error .expectedExpression "Expected expression" = e at told seen ⊢
  have spaced := told.1.trans e.reads_skipSpace
  rw [told.2, told.1.stream, List.nil_append] at spaced
  rw [(seen.trans (sees_start e .error)).atStructural]
  cases p.atStructural with
  | true =>
    rw [if_pos rfl]
    exact ⟨[], spaced.trans (reads_node (reads_refl _)), fun _ => rfl⟩
  | false =>
    rw [if_neg Bool.false_ne_true]
    obtain ⟨shapes, reads⟩ := growing_bump (e.start .error)
    exact ⟨shapes, spaced.trans (reads_node reads),
      fun tied => absurd tied Bool.false_ne_true⟩

/-- A placeholder puts one node behind the white space. -/
theorem puts_placeholder (p : Parser) : p.Puts p.placeholder := by
  obtain ⟨shapes, reads, empty⟩ := reads_placeholder p
  exact ⟨.error, shapes, reads, fun tied =>
    ⟨rfl, empty tied, p.findings, .inl rfl, findings_placeholder p⟩⟩

/-- A token alone puts one node behind the white space. -/
theorem puts_single {kind : NodeKind} (loose : p.atStructural = false) : p.Puts (p.single kind) :=
  puts_node loose (growing_bump _)

/-- A bracketed group puts one node behind the white space. -/
theorem puts_group {kind : NodeKind} {item : Step} (each : Growing item) {closer : Punctuation}
    {separator bracket : String} (loose : p.atStructural = false) :
    p.Puts (p.group kind item closer separator bracket) := by
  have lists : Growing (fun q => items item (.punctuation closer) separator (q.remaining + 1) q) :=
    fun q => growing_items each _ separator (q.remaining + 1) q
  have opened := growing_bump (p.start kind)
  have inside : (p.start kind).Grows (if (p.start kind).bump.isAt (.punctuation closer) then
      (p.start kind).bump
      else items item (.punctuation closer) separator ((p.start kind).bump.remaining + 1)
        (p.start kind).bump) := grows_ite opened (opened.trans (lists _))
  have closed := inside.step (growing_expectCloser (.punctuation closer) bracket)
  rw [group]
  exact puts_node loose closed

section

variable {inner : Inner} (nested : ∀ which p, Puts p (inner which p))

include nested

/-- An expression in parentheses puts one node behind the white space. -/
theorem puts_parenthesized (loose : p.atStructural = false) : p.Puts (parenthesized inner p) := by
  have each : Growing (inner .expression) := fun q => (nested _ q).grows
  have opened := growing_bump p.skipSpace
  have first := opened.step each
  refine Phrasing.related_ite (fun _ =>
    puts_around .tupleLiteral loose opened (growing_bump _)) fun _ => ?_
  dsimp only
  split
  · exact puts_around .tupleLiteral loose first
      ((growing_moreItems each _ _ _).step (growing_expectCloser _ _))
  · exact puts_around .parenthesizedExpression loose first (growing_expectCloser _ _ _)

/-- An atom puts one node behind the white space. -/
theorem puts_atom (p : Parser) : p.Puts (atom inner p).2 := by
  have each : Growing (inner .expression) := fun q => (nested _ q).grows
  have entry : Growing (dictEntry inner) := growing_dictEntry fun which q => (nested which q).grows
  simp only [atom]
  split
  next here => exact puts_single (atStructural_of_current? here)
  next here => exact puts_node (atStructural_of_current? here) (growing_loop growing_bump _)
  next here => exact puts_single (atStructural_of_current? here)
  next here => exact puts_single (atStructural_of_current? here)
  next here => exact puts_single (atStructural_of_current? here)
  next here => exact puts_single (atStructural_of_current? here)
  next here => exact puts_single (atStructural_of_current? here)
  next here => exact puts_parenthesized nested (atStructural_of_current? here)
  next here => exact puts_group each (atStructural_of_current? here)
  next here => exact puts_group entry (atStructural_of_current? here)
  · exact puts_placeholder p

/-- A call, a subscript or an attribute puts one node around the one before it. -/
theorem puts_postfixStep (operand : o.skipSpace.Puts p) (follows : p.atPostfix = true) :
    o.skipSpace.Puts (postfixStep inner o.skipSpace.builder.checkpoint p) := by
  have each : ∀ which, Growing (inner which) := fun which q => (nested which q).grows
  have loose := atStructural_of_atAny follows (by decide)
  refine Phrasing.related_ite (fun _ => operand.around .attributeAccess loose ?_) fun _ =>
    Phrasing.related_ite (fun _ => operand.around .subscriptAccess loose ?_) fun _ =>
      operand.around .functionCall loose (growing_argumentList each _)
  · exact (growing_bump _).trans (grows_ite (growing_bump _) (growing_error _ _ _))
  · exact ((growing_bump _).step (each .expression)).step (growing_expectCloser _ _)

/-- A primary expression puts one node behind the white space. -/
theorem puts_primary (p : Parser) : p.Puts (primary inner p) := by
  have operand := puts_atom nested p.skipSpace
  refine Puts.of_skipSpace (Phrasing.related_ite (fun _ => ?_) fun _ => operand)
  exact loop_keeps (fun q before follows => puts_postfixStep nested before follows) operand

/-- A filter puts one node around the one before it. -/
theorem puts_filterStep (operand : o.skipSpace.Puts p) (follows : p.isAt (.operator .pipe) = true) :
    o.skipSpace.Puts (filterStep inner o.skipSpace.builder.checkpoint p) := by
  have arguments : Growing (argumentList inner) :=
    growing_argumentList fun which q => (nested which q).grows
  refine operand.around .filterExpression (atStructural_of_isAt follows) ?_
  exact (growing_bump _).trans (grows_ite ((growing_bump _).trans
    (grows_ite (arguments _) (grows_refl _))) (growing_error _ _ _))

/-- An operand with filters puts one node behind the white space. -/
theorem puts_filtered (p : Parser) : p.Puts (filtered inner p) :=
  Puts.of_skipSpace (loop_keeps (fun _ before follows => puts_filterStep nested before follows)
    (puts_primary nested p.skipSpace))

omit nested in
/-- A row of operands with operators puts one node behind the white space. -/
theorem puts_leftGrouped {operand : Step} (each : ∀ q, Puts q (operand q)) {kind : NodeKind}
    {operators : List TokenKind} (loose : ∀ kind ∈ operators, kind.isStructural = false)
    (p : Parser) : p.Puts (leftGrouped kind operators operand p) :=
  Puts.of_skipSpace (loop_keeps
    (fun _ before here => before.around kind (atStructural_of_atAny here loose)
      ((growing_bump _).step fun q => (each q).grows))
    (each p.skipSpace))

/-- A factor puts one node behind the white space. -/
theorem puts_factor (p : Parser) : p.Puts (factor inner p) := by
  have each : Growing (inner .factor) := fun q => (nested _ q).grows
  refine Phrasing.related_ite (fun sign => puts_node (atStructural_of_atAny sign (by decide))
    ((growing_bump _).step each)) fun _ => ?_
  have operand := puts_filtered nested p.skipSpace
  exact Puts.of_skipSpace (Phrasing.related_ite (fun power =>
    operand.around .powerExpression (atStructural_of_isAt power)
      ((growing_bump _).step each)) fun _ => operand)

/-- A product puts one node behind the white space. -/
theorem puts_product (p : Parser) : p.Puts (product inner p) :=
  puts_leftGrouped (nested .factor) (by decide) p

/-- A sum puts one node behind the white space. -/
theorem puts_sum (p : Parser) : p.Puts (sum inner p) :=
  puts_leftGrouped (puts_product nested) (by decide) p

/-- A comparison puts one node behind the white space. -/
theorem puts_comparison (p : Parser) : p.Puts (comparison inner p) := by
  have operand := puts_sum nested p.skipSpace
  have other : Growing (sum inner) := fun q => (puts_sum nested q).grows
  apply Puts.of_skipSpace
  rw [comparison, checkpoint]
  dsimp only
  generalize sum inner p.skipSpace = q at operand ⊢
  refine Phrasing.related_ite (fun compares => ?_) fun _ =>
    Phrasing.related_ite (fun negated => ?_) fun _ => Phrasing.related_ite (fun tests => ?_)
      fun _ => operand
  · obtain ⟨kind, current, compares⟩ := exists_of_any compares
    have loose : kind.isStructural = false := by
      cases kind <;> first | rfl | simp [TokenKind.isComparison] at compares
    exact operand.around .comparisonExpression ((atStructural_of_current? current).trans loose)
      ((growing_bump _).step other)
  · exact operand.around .comparisonExpression
      (atStructural_of_isAt (Bool.and_eq_true_iff.1 negated).1)
      (((growing_bump _).step growing_bump).step other)
  · exact operand.around .testExpression (atStructural_of_isAt tests)
      (((growing_bump _).step (growing_skip _)).step other)

/-- A negation puts one node behind the white space. -/
theorem puts_negation (p : Parser) : p.Puts (negation inner p) :=
  Phrasing.related_ite (fun negated => puts_node (atStructural_of_isAt negated)
    ((growing_bump _).step fun q => (nested .negation q).grows)) fun _ => puts_comparison nested p

/-- A conjunction puts one node behind the white space. -/
theorem puts_conjunction (p : Parser) : p.Puts (conjunction inner p) :=
  puts_leftGrouped (puts_negation nested) (by decide) p

/-- A disjunction puts one node behind the white space. -/
theorem puts_disjunction (p : Parser) : p.Puts (disjunction inner p) :=
  puts_leftGrouped (puts_conjunction nested) (by decide) p

/-- A conditional expression puts one node behind the white space. -/
theorem puts_conditional (p : Parser) : p.Puts (conditional inner p) := by
  have each : Growing (inner .expression) := fun q => (nested _ q).grows
  have other : Growing (disjunction inner) := fun q => (puts_disjunction nested q).grows
  have operand := puts_disjunction nested p.skipSpace
  apply Puts.of_skipSpace
  rw [conditional, checkpoint]
  dsimp only
  generalize disjunction inner p.skipSpace = q at operand ⊢
  have alternative (r : Parser) :
      r.Grows (if r.isAt (.keyword .elseKw) then inner .expression r.bump else r) :=
    grows_ite ((growing_bump r).step each) r.grows_refl
  refine Phrasing.related_ite (fun tests => ?_) fun _ => operand
  exact operand.around .conditionalExpression (atStructural_of_isAt tests)
    (((growing_bump _).step other).trans (alternative _))

/-- An argument puts one node behind the white space. -/
theorem puts_argument (p : Parser) : p.Puts (argument inner p) := by
  have each : Growing (inner .expression) := fun q => (nested _ q).grows
  refine Phrasing.related_ite (fun named => ?_) fun _ => nested .expression p
  exact puts_node (atStructural_of_isAt (Bool.and_eq_true_iff.1 named).1)
    (((growing_bump (p.start .keywordArgument)).step growing_bump).step each)

end

/-- Where there is no deeper level that is reported once. -/
theorem findings_refuse (p : Parser) : p.refuse.findings = p.findings ∨
    p.refuse.findings = p.findings.add p.limits.diagnostics ⟨p.offset, .maxRecursionDepth,
      "Nesting deeper than " ++ toString p.limits.depth ++ " levels"⟩ := by
  rw [refuse]
  split
  · exact .inl rfl
  · exact .inr (findings_errorAt _ _ _ _)

/-- The nested productions put a node with any number of levels left. -/
theorem puts_nested (levels : Nat) (which : Nested) (p : Parser) :
    p.Puts (nested levels which p) := by
  induction levels generalizing which p with
  | zero =>
    have same := sees_refuse p
    obtain ⟨still, position, -⟩ := reads_refuse p
    obtain ⟨shapes, reads, empty⟩ := reads_placeholder p.refuse
    have whole := still.trans reads
    rw [List.nil_append, position, same.stream] at whole
    have told := findings_placeholder p.refuse
    rw [still.limits, offset_eq, same.stream, same.visible, ← offset_eq] at told
    exact ⟨.error, shapes, whole, fun tied =>
      ⟨rfl, empty (same.atStructural.trans tied), p.refuse.findings, findings_refuse p, told⟩⟩
  | succ levels ih =>
    have inside : p.descend.Puts (production (nested levels) which p.descend) := by
      cases which with
      | expression => exact puts_conditional ih _
      | disjunction => exact puts_disjunction ih _
      | negation => exact puts_negation ih _
      | factor => exact puts_factor ih _
    obtain ⟨kind, shapes, reads, missing⟩ := inside
    exact ⟨kind, shapes, reads_ascend reads, missing⟩

/-! ### Values -/

/-- The productions that stand for one value. -/
inductive Value where
  | expression | orExpression | argument

/-- What a production for a value does. -/
def Value.read : Value → Step
  | .expression => Parser.expression
  | .orExpression => Parser.orExpression
  | .argument => fun p => Parser.argument (nested p.levels) p

/-- A value takes no token of the construct around it. -/
theorem spares_value (value : Value) (p : Parser) : p.Spares (value.read p) := by
  cases value with
  | expression => exact routine_spares.expression p
  | orExpression => exact routine_spares.orExpression p
  | argument => exact routine_spares.argument (routine_spares.nested p.levels) p

/-- A value puts one node behind the white space. -/
theorem puts_value (value : Value) (p : Parser) : p.Puts (value.read p) := by
  cases value with
  | expression => exact puts_nested p.levels .expression p
  | orExpression => exact puts_nested p.levels .disjunction p
  | argument => exact puts_argument (puts_nested p.levels) p

/-- A value gets past a token that is not structural. -/
theorem taking_value (value : Value) : Taking value.read := by
  intro p loose
  cases value with
  | expression => exact taking_nested p.levels .expression p loose
  | orExpression => exact taking_nested p.levels .disjunction p loose
  | argument =>
    exact ahead_ite (past_node _ (((past_bump _).step growing_bump).step (growing_nested _ _)))
      (taking_nested p.levels .expression p loose)

/-- Where the first shapes are tokens, the first children are. -/
theorem exists_of_drawsAll_tokens {nodes : Array Node} {children : List Child} {start count : Nat}
    {shapes : List Shape} (drawn : DrawsAll nodes children (Shape.tokens start count ++ shapes)) :
    ∃ rest, children = (List.range' start count).map Child.token ++ rest ∧
      DrawsAll nodes rest shapes := by
  induction count generalizing start children with
  | zero => exact ⟨children, rfl, drawn⟩
  | succ count ih =>
    rw [Shape.tokens, List.range'_succ, List.map_cons, List.cons_append] at drawn
    cases drawn with
    | cons first rest =>
      cases first
      obtain ⟨more, rfl, drawn⟩ := ih rest
      exact ⟨more, rfl, drawn⟩

/-- The open node gains the white space and the node. -/
theorem Puts.exists_children (puts : p.Puts q) {innermost : OpenNode} {outer : List OpenNode}
    (opened : p.builder.opened = innermost :: outer) :
    ∃ id node, q.builder.nodes[id]? = some node ∧
      q.builder.opened = { innermost with children := innermost.children ++
        ((List.range' p.position (p.skipSpace.position - p.position)).map Child.token ++
          [Child.node id]).toArray } :: outer ∧
      (p.atStructural = true → node.kind = .error ∧ node.children = #[]) := by
  obtain ⟨kind, shapes, reads, missing⟩ := puts
  obtain ⟨added, children, -, -, still, drawn, -⟩ := reads.builder _ _ opened
  obtain ⟨rest, listed, last⟩ := exists_of_drawsAll_tokens drawn
  cases last with
  | cons first none =>
    cases none
    cases first with
    | @node id node _ found beneath =>
      refine ⟨id, node, found, ?_, fun tied => ?_⟩
      · rw [still, skipSpace_position, ← listed, Array.toArray_toList]
      · obtain ⟨error, empty, -⟩ := missing tied
        rw [empty] at beneath
        refine ⟨error, Array.toList_eq_nil_iff.1 ?_⟩
        cases none : node.children.toList with
        | nil => rfl
        | cons child others => rw [none] at beneath; cases beneath

/-- Expressions and arguments, at whatever token and with however many levels left. They take no
token that belongs to the construct around, and any other token where they begin. At a token that
belongs there, or at the end, they take nothing but white space, report that an expression is
missing, and put an error node without children. In any case the open node gains the white space
before the token and one node. -/
theorem value_restrained (value : Value) (p : Parser) {innermost : OpenNode}
    {outer : List OpenNode} (opened : p.builder.opened = innermost :: outer) :
    let q := value.read p
    let spaces := List.range' p.position (p.skipSpace.position - p.position)
    (∀ index kind, p.position ≤ index → index < q.position →
      p.stream.kindAt? index = some kind → kind.isStructural = false) ∧
    (p.atStructural = false → p.skipSpace.position < q.position) ∧
    (p.atStructural = true → q.position = p.skipSpace.position ∧ p.Laments q) ∧
    (∀ index ∈ spaces, p.stream.kindAt? index = some .whitespace) ∧
    ∃ id node, q.builder.nodes[id]? = some node ∧
      q.builder.opened = { innermost with children := innermost.children ++
        (spaces.map Child.token ++ [Child.node id]).toArray } :: outer ∧
      (p.atStructural = true → node.kind = .error ∧ node.children = #[]) := by
  intro q spaces
  have puts := puts_value value p
  refine ⟨fun index kind late early => (spares_value value p).loose late early, fun loose => ?_,
    fun tied => ⟨?_, ?_⟩, fun index listed => ?_, puts.exists_children opened⟩
  · obtain ⟨kind, current, -⟩ := current?_of_loose loose
    have inside := p.current?_isSome_iff.1 (current ▸ rfl)
    have past := (taking_value value p loose).position
    rw [bump_position, if_pos inside] at past
    rw [skipSpace_position]
    exact past
  · rw [skipSpace_position]
    exact puts.position tied
  · obtain ⟨_, _, _, missing⟩ := puts
    exact (missing tied).2.2
  · rw [List.mem_range'_1, skipSpace_position] at listed
    exact TokenStream.kindAt?_before_visible listed.1 (by omega)

/-- A name is taken, and then nothing up to the end of its tag. -/
theorem value_restrained_name :
    let stream : TokenStream := ⟨"", #[⟨.delimiter .variableStart, 0, 0⟩, ⟨.whitespace, 0, 0⟩,
      ⟨.identifier, 0, 0⟩, ⟨.delimiter .variableEnd, 0, 0⟩], #[], .template⟩
    let p := ((ofStream stream).start .variableTag).bump
    let q := Value.expression.read p
    p.builder.opened = [⟨.variableTag, #[.token 0], 0⟩] ∧
    p.atStructural = false ∧ p.skipSpace.position < q.position ∧
    q.atStructural = true ∧ q.Laments (Value.argument.read q) := by
  intro stream p q
  have opened : p.builder.opened = [⟨.variableTag, #[.token 0], 0⟩] := rfl
  obtain ⟨-, takes, -, -, id, node, -, still, -⟩ := value_restrained .expression p opened
  obtain ⟨-, -, stays, -⟩ := value_restrained .argument q still
  have loose : p.atStructural = false := by decide
  have tied : q.atStructural = true := by decide
  exact ⟨opened, loose, takes loose, tied, (stays tied).2⟩

end Parser
end Stencil
