import Stencil.Proofs.Containment.Header
/-!
# Parsers that go on in the same way

What a parser does next depends on little: on the kinds of the two tokens that it sees, the mode
after the first, the levels that are left and the end tags that are awaited. A relation between two
parsers is a `Coupling` if related parsers agree on these and the elementary steps keep them
related. Whatever is put together from the steps then keeps them related too. A node that is opened
at a checkpoint takes over what came after it, so that parsers are always compared together with
those that they went on from (`Linked`).

Inside a tag less is needed: what belongs to the construct around an expression is not told apart
there and never taken, so that parsers may also disagree on it (`InnerCoupling`).
-/

namespace Stencil
namespace Parser

/-- A relation between parsers that see the same and take the same elementary steps. -/
structure Coupling (twin : Parser → Parser → Prop) : Prop where
  current? {p q : Parser} (both : twin p q) : q.current? = p.current?
  next? {p q : Parser} (both : twin p q) : q.nth? 1 = p.nth? 1
  nextMode? {p q : Parser} (both : twin p q) : q.nextMode? = p.nextMode?
  levels {p q : Parser} (both : twin p q) : q.levels = p.levels
  awaited {p q : Parser} (both : twin p q) : q.awaited = p.awaited
  /-- A node is open. -/
  within {p q : Parser} (both : twin p q) : p.builder.opened ≠ []
  skipSpace {p q : Parser} (both : twin p q) : twin p.skipSpace q.skipSpace
  bump {p q : Parser} (both : twin p q) : twin p.bump q.bump
  start {p q : Parser} (both : twin p q) (kind : NodeKind) : twin (p.start kind) (q.start kind)
  startAt {o o' p q : Parser} (origin : twin o o') (both : twin p q)
    (here : o.stream.visible o.position = o.position)
    (also : o'.stream.visible o'.position = o'.position) (left : o.Grows p) (right : o'.Grows q)
    (kind : NodeKind) :
    twin (p.startAt o.builder.checkpoint kind) (q.startAt o'.builder.checkpoint kind)
  finish {p q : Parser} (both : twin p q) (inner : 2 ≤ p.builder.opened.length) :
    twin p.finish q.finish
  /-- Only the limit on nesting is not reported in this way. -/
  errorAt {o o' p q : Parser} (origin : twin o o') (both : twin p q) (fault : SyntaxFault)
    (own : fault ≠ .maxRecursionDepth) (message : String) :
    twin (p.errorAt o.offset fault message) (q.errorAt o'.offset fault message)
  refuse {p q : Parser} (both : twin p q) : twin p.refuse q.refuse
  descend {p q : Parser} (both : twin p q) : twin p.descend q.descend
  ascend {p q : Parser} (both : twin p q) : twin p.ascend q.ascend
  openBody {p q : Parser} (both : twin p q) (closer : TokenKind) :
    twin (p.openBody closer) (q.openBody closer)
  closeBody {p q : Parser} (both : twin p q) : twin p.closeBody q.closeBody

/-- A relation between parsers that build, report and nest in the same way. -/
structure BuildingCoupling (twin : Parser → Parser → Prop) : Prop where
  levels {p q : Parser} (both : twin p q) : q.levels = p.levels
  /-- A node is open. -/
  within {p q : Parser} (both : twin p q) : p.builder.opened ≠ []
  skipSpace {p q : Parser} (both : twin p q) : twin p.skipSpace q.skipSpace
  start {p q : Parser} (both : twin p q) (kind : NodeKind) : twin (p.start kind) (q.start kind)
  startAt {o o' p q : Parser} (origin : twin o o') (both : twin p q)
    (here : o.stream.visible o.position = o.position)
    (also : o'.stream.visible o'.position = o'.position) (left : o.Grows p) (right : o'.Grows q)
    (kind : NodeKind) :
    twin (p.startAt o.builder.checkpoint kind) (q.startAt o'.builder.checkpoint kind)
  finish {p q : Parser} (both : twin p q) (inner : 2 ≤ p.builder.opened.length) :
    twin p.finish q.finish
  /-- Only the limit on nesting is not reported in this way. -/
  errorAt {o o' p q : Parser} (origin : twin o o') (both : twin p q) (fault : SyntaxFault)
    (own : fault ≠ .maxRecursionDepth) (message : String) :
    twin (p.errorAt o.offset fault message) (q.errorAt o'.offset fault message)
  refuse {p q : Parser} (both : twin p q) : twin p.refuse q.refuse
  descend {p q : Parser} (both : twin p q) : twin p.descend q.descend
  ascend {p q : Parser} (both : twin p q) : twin p.ascend q.ascend

/-- A token that does not belong to the construct around an expression. -/
def unlessStructural (seen : Option TokenKind) : Option TokenKind :=
  seen.filter fun kind => !kind.isStructural

/-- A relation between parsers that see the same inside a tag and go on in the same way there. -/
structure InnerCoupling (twin : Parser → Parser → Prop) : Prop
    extends BuildingCoupling twin where
  current? {p q : Parser} (both : twin p q) :
    unlessStructural q.current? = unlessStructural p.current?
  next? {p q : Parser} (both : twin p q) (loose : p.atStructural = false) :
    unlessStructural (q.nth? 1) = unlessStructural (p.nth? 1)
  bump {p q : Parser} (both : twin p q) (loose : p.atStructural = false) : twin p.bump q.bump

/-- Parsers that take the same steps build in the same way. -/
theorem Coupling.building {twin : Parser → Parser → Prop} (c : Coupling twin) :
    BuildingCoupling twin :=
  { c with }

/-- Parsers that see the same do so inside tags. -/
theorem Coupling.inner {twin : Parser → Parser → Prop} (c : Coupling twin) : InnerCoupling twin :=
  { c with
    current? := fun both => congrArg unlessStructural (c.current? both)
    next? := fun both _ => congrArg unlessStructural (c.next? both)
    bump := fun both _ => c.bump both }

/-- Two parsers have gone on from related ones and are related. -/
structure Linked (twin : Parser → Parser → Prop) (o o' p q : Parser) : Prop where
  origin : twin o o'
  now : twin p q
  left : o.Grows p
  right : o'.Grows q

/-- A step that keeps parsers linked. -/
def Keeps (twin : Parser → Parser → Prop) (step : Step) : Prop :=
  ∀ ⦃o o' p q : Parser⦄, Linked twin o o' p q → Linked twin o o' (step p) (step q)

section

variable {twin : Parser → Parser → Prop} {o o' p q r s x y : Parser}

/-- Related parsers have gone on from themselves. -/
theorem linked (both : twin p q) : Linked twin p q p q := ⟨both, both, p.grows_refl, q.grows_refl⟩

/-- Linked parsers are linked from where they are now. -/
theorem Linked.here (both : Linked twin o o' p q) : Linked twin p q p q := linked both.now

/-- Links follow one another. -/
theorem Linked.trans (first : Linked twin o o' p q) (second : Linked twin p q r s) :
    Linked twin o o' r s :=
  ⟨first.origin, second.now, first.left.trans second.left, first.right.trans second.right⟩

/-- As many nodes are open after reading on as before. -/
theorem Grows.length_opened (growth : p.Grows q) (some : p.builder.opened ≠ []) :
    q.builder.opened.length = p.builder.opened.length := by
  obtain ⟨shapes, reads⟩ := growth
  obtain ⟨innermost, outer, opened⟩ := List.exists_cons_of_ne_nil some
  obtain ⟨_, _, -, -, still, -⟩ := reads.builder _ _ opened
  rw [still, opened]
  rfl

/-- Reading on leaves a node open. -/
theorem Grows.opened_ne_nil (growth : p.Grows q) (within : p.builder.opened ≠ []) :
    q.builder.opened ≠ [] := by
  rw [← List.length_pos_iff, growth.length_opened within, List.length_pos_iff]
  exact within

/-- One more node is open. -/
theorem length_opened_startAt (p : Parser) (checkpoint : Checkpoint) (kind : NodeKind) :
    (p.startAt checkpoint kind).builder.opened.length = p.builder.opened.length + 1 := by
  obtain ⟨_, _, _, ⟨_, _, opened, _⟩, _⟩ := p
  cases opened with
  | nil => rfl
  | cons innermost outer =>
    simp only [startAt, TreeBuilder.startAt]
    split <;> rfl

/-- Of two open nodes one stays open when the other is closed. -/
theorem opened_finish_ne_nil (inner : 2 ≤ p.builder.opened.length) :
    p.finish.builder.opened ≠ [] := by
  obtain ⟨_, _, _, ⟨_, _, opened, _⟩, _⟩ := p
  cases opened with
  | nil => contradiction
  | cons innermost outer =>
    cases outer with
    | nil => exact absurd inner (Nat.not_succ_le_self 1)
    | cons => exact List.cons_ne_nil _ _

/-- A repetition that keeps parsers linked with equal bounds does so with bounds that make no
difference. -/
theorem linked_of_unhindered {slack : Nat} {one two : Nat → Step} (free : Unhindered slack one)
    (free' : Unhindered slack two) (same : ∀ times, Linked twin o o' (one times p) (two times q)) :
    Linked twin o o' (one (p.remaining + slack) p) (two (q.remaining + slack) q) := by
  obtain ⟨times, left, right⟩ :=
    Correspondence.exists_bound free free' (Nat.le_refl _) (Nat.le_refl _)
  rw [left, right]
  exact same times

/-- A loop keeps parsers linked if each round does. -/
theorem linked_loop {test test' : Parser → Bool} {one two : Step} (first : Linked twin o o' p q)
    (seen : ∀ r : Parser, test r = true → r.current?.isSome)
    (seen' : ∀ r : Parser, test' r = true → r.current?.isSome)
    (tests : ∀ ⦃r s : Parser⦄, twin r s → test' s = test r)
    (taken : ∀ r : Parser, test r = true → r.Past (one r))
    (taken' : ∀ r : Parser, test' r = true → r.Past (two r))
    (round : ∀ ⦃r s : Parser⦄, Linked twin o o' r s → test r = true →
      Linked twin o o' (one r) (two s)) :
    Linked twin o o' (p.loop test one) (q.loop test' two) := by
  refine linked_of_unhindered (unhindered_repeatWhile seen taken)
    (unhindered_repeatWhile seen' taken') fun times => ?_
  induction times generalizing p q with
  | zero => exact first
  | succ times ih =>
    rw [repeatWhile, repeatWhile]
    exact both_ite (by rw [tests first.now]) (fun holds => ih (round first holds)) fun _ => first

end

/-! ### Building -/

namespace BuildingCoupling

variable {twin : Parser → Parser → Prop} (c : BuildingCoupling twin) {o o' p q r s x y : Parser}

include c

/-- White space keeps two parsers linked. -/
theorem keeps_skipSpace : Keeps twin Parser.skipSpace := fun _ _ _ _ both =>
  ⟨both.origin, c.skipSpace both.now, both.left.step growing_skipSpace,
    both.right.step growing_skipSpace⟩

/-- A report at a place where both parsers were. -/
theorem linked_errorAt (origin : twin x y) (both : Linked twin o o' p q) (fault : SyntaxFault)
    (own : fault ≠ .maxRecursionDepth) (message : String) :
    Linked twin o o' (p.errorAt x.offset fault message) (q.errorAt y.offset fault message) :=
  ⟨both.origin, c.errorAt origin both.now fault own message,
    both.left.trans (growing_errorAt _ _ _ p), both.right.trans (growing_errorAt _ _ _ q)⟩

/-- A report keeps two parsers linked. -/
theorem keeps_error (fault : SyntaxFault) (own : fault ≠ .maxRecursionDepth) (message : String) :
    Keeps twin (fun p => p.error fault message) := fun _ _ _ _ both =>
  c.linked_errorAt both.now both fault own message

/-- A refused level keeps two parsers linked. -/
theorem keeps_refuse : Keeps twin Parser.refuse := fun _ _ _ _ both =>
  ⟨both.origin, c.refuse both.now, both.left.step growing_refuse, both.right.step growing_refuse⟩

/-- A node around what the parsers do from its opening on. -/
theorem node (kind : NodeKind) (both : Linked twin o o' p q)
    (inside : Linked twin (p.start kind) (q.start kind) (p.start kind) (q.start kind) →
      Linked twin (p.start kind) (q.start kind) r s) : Linked twin o o' r.finish s.finish := by
  have within := inside (linked (c.start both.now kind))
  have spaced := c.within (c.skipSpace both.now)
  have inner : 2 ≤ (p.start kind).builder.opened.length :=
    Nat.succ_le_succ (List.length_pos_iff.2 spaced)
  have some : (p.start kind).builder.opened ≠ [] := List.cons_ne_nil _ _
  rw [← within.left.length_opened some] at inner
  exact ⟨both.origin, c.finish within.now inner, both.left.trans (grows_node within.left),
    both.right.trans (grows_node within.right)⟩

/-- A node around what the parsers have done since a checkpoint, and what they do further. -/
theorem around (kind : NodeKind) (before : Linked twin x.skipSpace y.skipSpace p q)
    (inside : Linked twin (p.startAt x.skipSpace.builder.checkpoint kind)
        (q.startAt y.skipSpace.builder.checkpoint kind)
        (p.startAt x.skipSpace.builder.checkpoint kind)
        (q.startAt y.skipSpace.builder.checkpoint kind) →
      Linked twin (p.startAt x.skipSpace.builder.checkpoint kind)
        (q.startAt y.skipSpace.builder.checkpoint kind) r s) :
    Linked twin x.skipSpace y.skipSpace r.finish s.finish := by
  have opened := c.startAt before.origin before.now x.visible_skipSpace y.visible_skipSpace
    before.left before.right kind
  have within := inside (linked opened)
  have length := p.length_opened_startAt x.skipSpace.builder.checkpoint kind
  have outer := List.length_pos_iff.2 (c.within before.now)
  have some : (p.startAt x.skipSpace.builder.checkpoint kind).builder.opened ≠ [] :=
    c.within opened
  have inner : 2 ≤ r.builder.opened.length := by
    rw [within.left.length_opened some, length]
    exact Nat.succ_le_succ outer
  exact ⟨before.origin, c.finish within.now inner, grows_startAt kind before.left within.left,
    grows_startAt kind before.right within.right⟩

/-- What begins with a checkpoint begins after white space. -/
theorem spaced (both : Linked twin o o' p q)
    (further : Linked twin p.skipSpace q.skipSpace p.skipSpace q.skipSpace →
      Linked twin p.skipSpace q.skipSpace r s) : Linked twin o o' r s := by
  have first := c.keeps_skipSpace both
  exact first.trans (further first.here)

/-- What happens one level deeper. -/
theorem deeper (both : Linked twin o o' p q)
    (inside : Linked twin p.descend q.descend p.descend q.descend →
      Linked twin p.descend q.descend r s) : Linked twin o o' r.ascend s.ascend := by
  have within := inside (linked (c.descend both.now))
  exact ⟨both.origin, c.ascend within.now, both.left.trans (grows_ascend within.left),
    both.right.trans (grows_ascend within.right)⟩

/-- Both sides have the same levels left. -/
theorem keeps_within_levels {step : Nat → Step} (each : ∀ levels, Keeps twin (step levels)) :
    Keeps twin (fun p => step p.levels p) := by
  intro o o' p q both
  dsimp only
  rw [c.levels both.now]
  exact each p.levels both

end BuildingCoupling

/-! ### Inside a tag -/

/-- What stays of a kind that is not structural is all of it. -/
theorem unlessStructural_eq_some {kind : TokenKind} (loose : kind.isStructural = false)
    (seen : Option TokenKind) : unlessStructural seen = some kind ↔ seen = some kind := by
  rw [unlessStructural, Option.filter_eq_some_iff, and_iff_left]
  rw [loose]
  rfl

/-- Structural tokens and the end are those of which nothing stays. -/
theorem unlessStructural_eq_none (p : Parser) :
    unlessStructural p.current? = none ↔ p.atStructural = true := by
  rw [unlessStructural, Parser.atStructural]
  cases p.current? with
  | none => exact iff_of_true rfl rfl
  | some kind => cases structural : kind.isStructural <;> simp [Option.filter, structural]

namespace InnerCoupling

variable {twin : Parser → Parser → Prop} (c : InnerCoupling twin) {o o' p q r s x y : Parser}

include c

/-! #### What both see -/

/-- Twin parsers stand at structural tokens together. -/
theorem atStructural (both : twin p q) : q.atStructural = p.atStructural := by
  rw [Bool.eq_iff_iff, ← unlessStructural_eq_none, ← unlessStructural_eq_none, c.current? both]

/-- Twin parsers agree on a token that is not structural. -/
theorem isAt (both : twin p q) {kind : TokenKind} (loose : kind.isStructural = false) :
    q.isAt kind = p.isAt kind := by
  rw [Bool.eq_iff_iff, isAt_iff, isAt_iff, ← unlessStructural_eq_some loose q.current?,
    c.current? both, unlessStructural_eq_some loose]

/-- A token that is not structural is seen on both sides. -/
theorem current?_of_loose (both : twin p q) (loose : p.atStructural = false) :
    q.current? = p.current? := by
  obtain ⟨kind, seen, free⟩ := Parser.current?_of_loose loose
  rw [seen, ← unlessStructural_eq_some free, c.current? both, seen, unlessStructural_eq_some free]

/-- A test that only kinds pass that are not structural. -/
theorem any (both : twin p q) {kinds : TokenKind → Bool}
    (loose : ∀ kind, kinds kind = true → kind.isStructural = false) :
    q.current?.any kinds = p.current?.any kinds := by
  have passes (r : Parser) :
      r.current?.any kinds = true ↔ ∃ kind, unlessStructural r.current? = some kind ∧
        kinds kind = true := by
    rw [Option.any_eq_true]
    constructor
    · rintro ⟨kind, seen, passes⟩
      exact ⟨kind, (unlessStructural_eq_some (loose kind passes) _).2 seen, passes⟩
    · rintro ⟨kind, seen, passes⟩
      exact ⟨kind, (unlessStructural_eq_some (loose kind passes) _).1 seen, passes⟩
  rw [Bool.eq_iff_iff, passes, passes, c.current? both]

/-- Twin parsers agree on a choice of tokens none of which is structural. -/
theorem atAny (both : twin p q) {kinds : List TokenKind}
    (loose : ∀ kind ∈ kinds, kind.isStructural = false) : q.atAny kinds = p.atAny kinds :=
  c.any both fun kind listed => loose kind (by simpa using listed)

/-- A choice on the kind of the current token. -/
theorem ifAt (both : Linked twin o o' p q) (kind : TokenKind) (loose : kind.isStructural = false)
    {a b a' b' : Parser} (yes : p.isAt kind = true → Linked twin o o' a a')
    (no : Linked twin o o' b b') :
    Linked twin o o' (if p.isAt kind then a else b) (if q.isAt kind then a' else b') :=
  both_ite (by rw [c.isAt both.now loose]) yes fun _ => no

/-- Two tokens that are looked for together are found on both sides. -/
theorem followedBy (both : twin p q) {kind next : TokenKind} (loose : kind.isStructural = false)
    (free : next.isStructural = false) :
    (q.isAt kind && decide (q.nth? 1 = some next)) =
      (p.isAt kind && decide (p.nth? 1 = some next)) := by
  rw [c.isAt both loose]
  cases here : p.isAt kind with
  | false => rfl
  | true =>
    have further := c.next? both ((atStructural_of_isAt here).trans loose)
    rw [Bool.true_and, Bool.true_and, decide_eq_decide, ← unlessStructural_eq_some free, further,
      unlessStructural_eq_some free]

/-! #### Taking tokens -/

/-- A token that is not structural keeps two parsers linked. -/
theorem linked_bump (both : Linked twin o o' p q) (loose : p.atStructural = false) :
    Linked twin o o' p.bump q.bump :=
  ⟨both.origin, c.bump both.now loose, both.left.step growing_bump, both.right.step growing_bump⟩

/-- A token of a kind that is not structural is taken. -/
theorem take (both : Linked twin o o' p q) {kind : TokenKind} (here : p.isAt kind = true)
    (loose : kind.isStructural = false) : Linked twin o o' p.bump q.bump :=
  c.linked_bump both ((atStructural_of_isAt here).trans loose)

/-- Tokens are taken one by one as long as a test holds. -/
theorem bumps {test test' : Parser → Bool} (first : Linked twin o o' p q)
    (loose : ∀ r : Parser, test r = true → r.atStructural = false)
    (loose' : ∀ r : Parser, test' r = true → r.atStructural = false)
    (tests : ∀ ⦃r s : Parser⦄, twin r s → test' s = test r) :
    Linked twin o o' (p.loop test Parser.bump) (q.loop test' Parser.bump) :=
  linked_loop first (fun r holds => isSome_of_loose (loose r holds))
    (fun r holds => isSome_of_loose (loose' r holds)) tests (fun r _ => past_bump r)
    (fun r _ => past_bump r) fun _ _ both holds => c.linked_bump both (loose _ holds)

/-! #### Small steps of the grammar -/

/-- An optional token keeps two parsers linked. -/
theorem keeps_skip {kind : TokenKind} (loose : kind.isStructural = false) :
    Keeps twin (fun p => p.skip kind) := by
  intro o o' p q both
  dsimp only
  rw [skip_eq, skip_eq]
  exact c.ifAt both kind loose (fun here => c.take both here loose) both

/-- A bracket that closes keeps two parsers linked. -/
theorem keeps_expectCloser {closer : TokenKind} (loose : closer.isStructural = false)
    (message : String) : Keeps twin (fun p => p.expectCloser closer message) :=
  fun _ _ _ _ both => c.ifAt both closer loose (fun here => c.take both here loose)
    (c.keeps_error _ (by decide) _ both)

/-- An expected token keeps two parsers linked. -/
theorem keeps_expect {kind : TokenKind} (loose : kind.isStructural = false) (message : String) :
    Keeps twin (fun p => p.expect kind message) := fun _ _ _ _ both =>
  c.ifAt both kind loose (fun here => c.take both here loose) (c.keeps_error _ (by decide) _ both)

/-- An expected name keeps two parsers linked. -/
theorem keeps_expectName (message : String) :
    Keeps twin (fun p => (p.expectName message).2) := by
  intro o o' p q both
  dsimp only
  rw [expectName_eq, expectName_eq]
  exact c.ifAt both .identifier rfl (fun here => c.take both here rfl)
    (c.keeps_error _ (by decide) _ both)

/-- Whether there is a name is the same on both sides. -/
theorem expectName_iff (both : twin p q) (message : String) :
    (q.expectName message).1 = true ↔ (p.expectName message).1 = true := by
  rw [expectName_eq, expectName_eq, c.isAt both rfl]

/-- A node of one token that is not structural. -/
theorem single (both : Linked twin o o' p q) (loose : p.atStructural = false) (kind : NodeKind) :
    Linked twin o o' (p.single kind) (q.single kind) :=
  c.node kind both fun opened =>
    c.linked_bump opened ((sees_start p kind).atStructural.trans loose)

/-- A placeholder for an expression keeps two parsers linked. -/
theorem keeps_placeholder : Keeps twin Parser.placeholder := by
  intro o o' p q both
  have told := c.keeps_error .expectedExpression (by decide) "Expected expression" both
  refine c.node .error told fun opened => ?_
  exact both_ite (by rw [c.atStructural opened.now]) (fun _ => opened)
    fun loose => c.linked_bump opened (by simpa using loose)

end InnerCoupling
end Parser
end Stencil
