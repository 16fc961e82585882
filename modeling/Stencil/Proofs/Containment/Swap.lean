import Stencil.Proofs.Containment.Window
/-!
# The inside of a tag

Two streams differ inside of one closed tag. Their parsers come to the tag abreast. In the tag they
part: each goes its own way to the closing token, and from there on they are abreast again. A tag
whose first token is no keyword is the delicate case, since this token stays and may be reported:
`Entering` says that a production takes it on both sides before the parsers part.
-/

namespace Stencil

open Stencil.Parser

/-- Two streams of which the second has other tokens inside of one closed tag. -/
structure Swap where
  left : TokenStream
  right : TokenStream
  opening : Nat
  first : Nat
  closing : Nat
  closing' : Nat
  delimited : left.Delimited
  tag : left.ClosedTag opening first closing
  splice : left.Spliced right first closing closing'
  tiled : left.Tiled
  tiled' : right.Tiled

namespace Swap

variable (swap : Swap)

/-- The offset at which the free tokens begin. -/
def start : Nat := swap.left.offsetAt swap.first

/-- The diagnostics on the left that are compared. -/
def keep (diagnostic : Diagnostic) : Bool :=
  decide (diagnostic.fault ≠ .maxRecursionDepth) &&
    diagnostic.outside swap.start (swap.left.offsetAt swap.closing)

/-- The diagnostics on the right that are compared. -/
def keep' (diagnostic : Diagnostic) : Bool :=
  decide (diagnostic.fault ≠ .maxRecursionDepth) &&
    diagnostic.outside swap.start (swap.right.offsetAt swap.closing')

/-- Where a diagnostic that is compared stands on the right. -/
def move : Diagnostic → Diagnostic :=
  Diagnostic.moved swap.start (swap.left.offsetAt swap.closing) (swap.right.offsetAt swap.closing')

/-- What was reported is the same outside of the tag. -/
def Record : Findings → Findings → Prop := Findings.Related swap.keep swap.keep' swap.move

/-- The comparison of the streams outside of the tag. -/
def outside : Correspondence where
  left := swap.left
  right := swap.right
  place := TokenStream.Beside swap.opening swap.closing swap.closing'
  hole := Shape.Across swap.opening swap.closing swap.closing'
  record := swap.Record

/-! ### Offsets and reports -/

/-- The free tokens begin at the same offset. -/
theorem start_eq : swap.right.offsetAt swap.first = swap.start :=
  swap.splice.offsetAt_before swap.tag swap.tiled swap.tiled' (Nat.le_refl _)

/-- Offsets in front of the closing token increase. -/
theorem offsetAt_lt {i j : Nat} (order : i < j) (inside : i ≤ swap.closing) :
    swap.left.offsetAt i < swap.left.offsetAt j := by
  have token := (swap.left.lt_size_iff i).1 (Nat.lt_of_le_of_lt inside swap.tag.inside)
  obtain ⟨token, listed⟩ := Option.isSome_iff_exists.1 token
  exact Nat.lt_of_lt_of_le (swap.tiled.stop listed).2 (swap.tiled.offsetAt_mono order)

/-- Reports at the same token in front of the free ones keep the record. -/
theorem record_before {one other : Findings} {index : Nat} {fault : SyntaxFault}
    (related : swap.Record one other) (early : index < swap.first) (limit : Nat)
    (message : String) :
    swap.Record (one.add limit ⟨swap.left.offsetAt index, fault, message⟩)
      (other.add limit ⟨swap.right.offsetAt index, fault, message⟩) := by
  have same := swap.splice.offsetAt_before swap.tag swap.tiled swap.tiled' (Nat.le_of_lt early)
  have before : swap.left.offsetAt index < swap.start :=
    swap.offsetAt_lt early (Nat.le_trans (Nat.le_of_lt early) swap.tag.ordered)
  rw [same]
  refine related.both ?_ (fun _ => ?_) limit
  · simp only [keep, keep', Diagnostic.outside, before, decide_true, Bool.true_or]
  · rw [move, Diagnostic.moved, if_pos before]

/-- Reports at the same token behind the tag keep the record. -/
theorem record_after {one other : Findings} {count : Nat} {fault : SyntaxFault}
    (related : swap.Record one other) (behind : 0 < count) (limit : Nat) (message : String) :
    swap.Record (one.add limit ⟨swap.left.offsetAt (swap.closing + count), fault, message⟩)
      (other.add limit ⟨swap.right.offsetAt (swap.closing' + count), fault, message⟩) := by
  have after : swap.left.offsetAt swap.closing < swap.left.offsetAt (swap.closing + count) :=
    swap.offsetAt_lt (Nat.lt_add_of_pos_right behind) (Nat.le_refl _)
  have order : swap.start ≤ swap.left.offsetAt swap.closing :=
    swap.tiled.offsetAt_mono swap.tag.ordered
  have shifted := swap.splice.offsetAt_after swap.tiled swap.tiled' count
  have after' : swap.right.offsetAt swap.closing' <
      swap.right.offsetAt (swap.closing' + count) := by omega
  refine related.both ?_ (fun _ => ?_) limit
  · simp only [keep, keep', Diagnostic.outside, after, after', decide_true, Bool.or_true]
  · rw [move, Diagnostic.moved, if_neg (by dsimp only; omega), shifted]

/-- Reports at the free tokens and at the closing one are not compared on the left. -/
theorem indifferent_left (other : Findings) :
    Indifferent swap.left swap.first swap.closing (swap.Record · other) := by
  intro found limit diagnostic related dropped
  refine related.left ?_ limit
  rw [keep]
  rcases dropped with deep | ⟨index, after, before, place⟩
  · simp [deep]
  · have low : swap.start ≤ diagnostic.offset := place ▸ swap.tiled.offsetAt_mono after
    have high : diagnostic.offset ≤ swap.left.offsetAt swap.closing :=
      place ▸ swap.tiled.offsetAt_mono before
    simp [Diagnostic.outside, Nat.not_lt.2 low, Nat.not_lt.2 high]

/-- Nor on the right. -/
theorem indifferent_right (one : Findings) :
    Indifferent swap.right swap.first swap.closing' (swap.Record one ·) := by
  intro found limit diagnostic related dropped
  refine related.right ?_ limit
  rw [keep']
  rcases dropped with deep | ⟨index, after, before, place⟩
  · simp [deep]
  · have low : swap.start ≤ diagnostic.offset :=
      swap.start_eq ▸ place ▸ swap.tiled'.offsetAt_mono after
    have high : diagnostic.offset ≤ swap.right.offsetAt swap.closing' :=
      place ▸ swap.tiled'.offsetAt_mono before
    simp [Diagnostic.outside, Nat.not_lt.2 low, Nat.not_lt.2 high]

/-! ### Outside of the tag -/

/-- The free tokens are a window on either side. -/
theorem windows {closer : TokenKind} (closes : swap.left.closerAt? swap.opening = some closer) :
    swap.left.Window swap.first swap.closing closer ∧
      swap.right.Window swap.first swap.closing' closer := by
  obtain ⟨_, found, closed⟩ := swap.tag.closes
  obtain rfl := Option.some.inj (closes.symm.trans found)
  have structural := TokenStream.isStructural_of_closerAt? closes
  have closed' : swap.right.kindAt? swap.closing' = some closer :=
    (swap.splice.kindAt?_after 0).trans closed
  refine ⟨⟨fun index after before => ?_, .inl closed, structural⟩,
    ⟨swap.splice.loose, .inl closed', structural⟩⟩
  exact swap.tag.loose index (Nat.le_trans swap.tag.opening_lt after) before

/-- On either side the other tokens lie in a window of the same closer. -/
theorem exists_windows : ∃ closer, swap.left.Window swap.first swap.closing closer ∧
    swap.right.Window swap.first swap.closing' closer := by
  obtain ⟨closer, closes, -⟩ := swap.tag.closes
  exact ⟨closer, swap.windows closes⟩

/-- Corresponding places are in front of the tag, where they are equal, or behind it. -/
theorem beside_cases {i j : Nat} (same : swap.outside.place i j) :
    (i = j ∧ i ≤ swap.opening) ∨
      ∃ count, 0 < count ∧ i = swap.closing + count ∧ j = swap.closing' + count := by
  rcases same with front | ⟨behind, level⟩
  · exact .inl front
  · exact .inr ⟨i - swap.closing, by omega, by omega, by omega⟩

/-- After any token but the opening one of the tag the places correspond. -/
theorem beside_next {i j : Nat} (same : swap.outside.place i j) (other : i ≠ swap.opening) :
    swap.outside.place (i + 1) (j + 1) := by
  rcases same with ⟨rfl, front⟩ | ⟨behind, level⟩
  · exact .inl ⟨rfl, Nat.lt_of_le_of_ne front other⟩
  · exact .inr ⟨Nat.lt_succ_of_lt behind, by omega⟩

/-- The opening token is a start delimiter. -/
theorem kindAt?_opening : swap.left.kindAt? swap.opening = some (.delimiter .variableStart) ∨
    swap.left.kindAt? swap.opening = some (.delimiter .blockStart) :=
  swap.tag.begins.imp And.left And.left

/-- A token of any other kind is not the opening one. -/
theorem ne_opening {i : Nat} {kind : TokenKind} (here : swap.left.kindAt? i = some kind)
    (other : kind ≠ .delimiter .variableStart) (other' : kind ≠ .delimiter .blockStart) :
    i ≠ swap.opening := by
  rintro rfl
  rcases swap.kindAt?_opening with opens | opens
  · exact other (Option.some.inj (here.symm.trans opens))
  · exact other' (Option.some.inj (here.symm.trans opens))

/-- Outside of the tag the parsers do the same. -/
theorem lawful : swap.outside.Lawful where
  kind {i j} same := by
    rcases swap.beside_cases same with ⟨rfl, front⟩ | ⟨count, -, rfl, rfl⟩
    · exact swap.splice.kindAt?_before (Nat.lt_of_le_of_lt front swap.tag.opening_lt)
    · exact swap.splice.kindAt?_after count
  next {i j kind} same here loose := by
    apply swap.beside_next same (swap.ne_opening here ?_ ?_)
    · rintro rfl
      contradiction
    · rintro rfl
      contradiction
  told {i j} _ _ limit _ message same related _ := by
    rcases swap.beside_cases same with ⟨rfl, front⟩ | ⟨count, behind, rfl, rfl⟩
    · exact swap.record_before related (Nat.lt_of_le_of_lt front swap.tag.opening_lt) limit message
    · exact swap.record_after related behind limit message
  deepLeft limit offset message related :=
    Findings.Related.left related (by simp [keep]) limit
  deepRight limit offset message related :=
    Findings.Related.right related (by simp [keep']) limit

/-! ### Parted -/

/-- Both parsers are in the tag, each at a place of its own. -/
structure Apart (o o' p q : Parser) : Prop where
  left : Confined swap.left swap.first swap.closing (swap.Record · q.findings) o p
  right : Confined swap.right swap.first swap.closing' (swap.Record p.findings ·) o' q

variable {swap} {o o' p q later other : Parser}

/-- Each parser goes on by itself. -/
theorem Apart.both (apart : swap.Apart o o' p q)
    (one : ∀ {holds}, Indifferent swap.left swap.first swap.closing holds →
      Confined swap.left swap.first swap.closing holds o p →
      Confined swap.left swap.first swap.closing holds o later)
    (two : ∀ {holds}, Indifferent swap.right swap.first swap.closing' holds →
      Confined swap.right swap.first swap.closing' holds o' q →
      Confined swap.right swap.first swap.closing' holds o' other) :
    swap.Apart o o' later other := by
  have left := one (swap.indifferent_left q.findings) apart.left
  have waiting : Confined swap.right swap.first swap.closing' (swap.Record later.findings ·) o' q :=
    { apart.right with holds := left.holds }
  have right := two (swap.indifferent_right later.findings) waiting
  exact ⟨{ left with holds := right.holds }, right⟩

/-- What was read before belongs to it. -/
theorem Apart.since (apart : swap.Apart p q later other) (left : o.Grows p) (right : o'.Grows q) :
    swap.Apart o o' later other := ⟨apart.left.since left, apart.right.since right⟩

/-- A step in step is taken by each parser. -/
theorem Apart.step {step : Step} (apart : swap.Apart o o' p q) (next : InStep step) :
    swap.Apart o o' (step p) (step q) := by
  obtain ⟨closer, window, window'⟩ := swap.exists_windows
  exact apart.both (fun indifferent confined => confined.step window indifferent next)
    fun indifferent confined => confined.step window' indifferent next

/-- What goes on around an operand does so for each parser. -/
theorem Apart.trail {tail : Checkpoint → Step} (apart : swap.Apart o o' p q)
    (trailing : Trailing tail) :
    swap.Apart o o' (tail o.builder.checkpoint p) (tail o'.builder.checkpoint q) := by
  obtain ⟨closer, window, window'⟩ := swap.exists_windows
  exact apart.both (fun indifferent confined => confined.trail window indifferent trailing)
    fun indifferent confined => confined.trail window' indifferent trailing

/-- Each parser skips to the closing token. -/
theorem Apart.approach {closer : TokenKind} {fault : SyntaxFault} (apart : swap.Apart o o' p q)
    (closes : swap.left.closerAt? swap.opening = some closer)
    (shallow : fault ≠ .maxRecursionDepth) (message : String) :
    swap.Apart o o' (p.approach closer fault message) (q.approach closer fault message) := by
  obtain ⟨window, window'⟩ := swap.windows closes
  exact apart.both
    (fun indifferent confined => confined.approach window indifferent shallow message)
    fun indifferent confined => confined.approach window' indifferent shallow message

/-- A node around what each parser read. -/
theorem Apart.node {kind : NodeKind}
    (apart : swap.Apart (p.start kind) (q.start kind) later other) :
    swap.Apart p q later.finish other.finish := by
  obtain ⟨⟨source, after, before, holds, grows⟩, source', after', before', holds', grows'⟩ := apart
  exact ⟨⟨source, after, before, holds, grows_node grows⟩,
    ⟨source', after', before', holds', grows_node grows'⟩⟩

/-- One level up. -/
theorem Apart.ascend (apart : swap.Apart p.descend q.descend later other) :
    swap.Apart p q later.ascend other.ascend := by
  obtain ⟨⟨source, after, before, holds, grows⟩, source', after', before', holds', grows'⟩ := apart
  exact ⟨⟨source, after, before, holds, grows_ascend grows⟩,
    ⟨source', after', before', holds', grows_ascend grows'⟩⟩

/-! ### Parting -/

variable (swap) in
/-- Both parsers see the last token that is kept in front of the free ones. -/
structure Before (p q : Parser) : Prop where
  left : p.stream = swap.left
  right : q.stream = swap.right
  limits : q.limits = p.limits
  depth : q.depth = p.depth
  record : swap.Record p.findings q.findings
  here : swap.left.visible p.position + 1 = swap.first
  also : swap.right.visible q.position + 1 = swap.first

/-- Both parsers have as many levels left. -/
theorem Before.levels (before : swap.Before p q) : q.levels = p.levels := by
  rw [Parser.levels, Parser.levels, before.limits, before.depth]

/-- The parsers see the same kind of token. -/
theorem Before.current? (before : swap.Before p q) : q.current? = p.current? := by
  have here := before.here
  have same : swap.right.visible q.position = swap.left.visible p.position :=
    Nat.succ.inj (before.also.trans here.symm)
  rw [current?_eq, current?_eq, before.left, before.right, same]
  exact swap.splice.kindAt?_before (by omega)

/-- Before the last kept token both parsers stand at a structural token or neither does. -/
theorem Before.atStructural (before : swap.Before p q) : q.atStructural = p.atStructural := by
  rw [Parser.atStructural, Parser.atStructural, before.current?]

/-- The parsers see a token. -/
theorem Before.isSome (before : swap.Before p q) : p.current?.isSome := by
  have here := before.here
  have ordered := swap.tag.ordered
  have inside := swap.tag.inside
  rw [current?_isSome_iff, before.left]
  omega

/-- Skipping white space, opening nodes and going deeper leave the token in sight. -/
theorem Before.skipSpace (before : swap.Before p q) : swap.Before p.skipSpace q.skipSpace := by
  have left := p.reads_skipSpace
  have right := q.reads_skipSpace
  refine ⟨left.stream.trans before.left, right.stream.trans before.right, ?_, ?_, ?_, ?_, ?_⟩
  · rw [left.limits, right.limits, before.limits]
  · rw [left.depth, right.depth, before.depth]
  · rw [findings_skipSpace, findings_skipSpace]
    exact before.record
  · rw [p.skipSpace_position, before.left, TokenStream.visible_visible]
    exact before.here
  · rw [q.skipSpace_position, before.right, TokenStream.visible_visible]
    exact before.also

/-- A node is opened before the last kept token on both sides. -/
theorem Before.start (before : swap.Before p q) (kind : NodeKind) :
    swap.Before (p.start kind) (q.start kind) := by
  have spaced := before.skipSpace
  exact ⟨spaced.left, spaced.right, spaced.limits, spaced.depth, spaced.record, spaced.here,
    spaced.also⟩

/-- A level is entered before the last kept token on both sides. -/
theorem Before.descend (before : swap.Before p q) : swap.Before p.descend q.descend :=
  ⟨before.left, before.right, before.limits, congrArg (· + 1) before.depth, before.record,
    before.here, before.also⟩

/-- Taking the token is where the parsers part. -/
theorem Before.bump (before : swap.Before p q) :
    swap.Apart p.bump q.bump p.bump q.bump := by
  have left : p.bump.position = swap.first := by
    have inside := p.current?_isSome_iff.1 before.isSome
    rw [bump_position, if_pos inside, before.left]
    exact before.here
  have right : q.bump.position = swap.first := by
    have inside := q.current?_isSome_iff.1 (before.current? ▸ before.isSome)
    rw [bump_position, if_pos inside, before.right]
    exact before.also
  have record : swap.Record p.bump.findings q.bump.findings := by
    rw [findings_bump, findings_bump]
    exact before.record
  have source := (growing_bump p).ahead.stream.trans before.left
  have source' := (growing_bump q).ahead.stream.trans before.right
  exact ⟨⟨source, Nat.le_of_eq left.symm, left ▸ swap.tag.ordered, record, grows_refl _⟩,
    ⟨source', Nat.le_of_eq right.symm, right ▸ swap.splice.ordered, record, grows_refl _⟩⟩

/-- The token is taken after what came before. -/
theorem Before.taken (before : swap.Before p q) : swap.Apart p q p.bump q.bump :=
  before.bump.since (growing_bump p) (growing_bump q)

/-- Reports at the token leave it in sight. -/
theorem Before.error (before : swap.Before p q) (fault : SyntaxFault) (message : String) :
    swap.Before (p.error fault message) (q.error fault message) := by
  have here := before.here
  have same : swap.right.visible q.position = swap.left.visible p.position :=
    Nat.succ.inj (before.also.trans here.symm)
  obtain ⟨reads, still⟩ := reads_errorAt p p.offset fault message
  obtain ⟨also, unmoved⟩ := reads_errorAt q q.offset fault message
  refine ⟨reads.stream.trans before.left, also.stream.trans before.right, ?_, ?_, ?_, ?_, ?_⟩
  · rw [Parser.error, Parser.error, reads.limits, also.limits, before.limits]
  · rw [Parser.error, Parser.error, reads.depth, also.depth, before.depth]
  · rw [Parser.error, Parser.error, findings_errorAt, findings_errorAt, before.limits, offset_eq,
      offset_eq, before.left, before.right, same]
    exact swap.record_before before.record (by omega) _ message
  · rw [Parser.error, still]
    exact here
  · rw [Parser.error, unmoved]
    exact before.also

/-- The limit on nesting is reported on either side without consequence. -/
theorem Before.refuse (before : swap.Before p q) : swap.Before p.refuse q.refuse := by
  obtain ⟨reads, still, -⟩ := reads_refuse p
  obtain ⟨also, unmoved, -⟩ := reads_refuse q
  refine ⟨reads.stream.trans before.left, also.stream.trans before.right, ?_, ?_,
    swap.lawful.refused before.record, ?_, ?_⟩
  · rw [reads.limits, also.limits, before.limits]
  · rw [reads.depth, also.depth, before.depth]
  · rw [still]
    exact before.here
  · rw [unmoved]
    exact before.also

end Swap
end Stencil
