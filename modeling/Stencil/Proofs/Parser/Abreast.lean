import Stencil.Proofs.Parser.Arrival
import Stencil.Proofs.Tree.Likeness
/-!
# Two parses side by side

Where two streams have the same kinds of tokens a parser does the same on both, whatever it has read
and reported before. A `Correspondence` says which places of the streams are compared and how what
was reported on both is related. Two parsers are `Abreast` when they stand at corresponding places,
and `Follows` says that they still are after a step and that what the step read is alike. The
lemmas here carry this over to the ways in which the parser puts steps together.
-/

namespace Stencil

/-- The offset of a token, or of the end of the source. -/
def TokenStream.offsetAt (stream : TokenStream) (index : Nat) : Nat :=
  (stream.tokens[index]?.map (·.start)).getD stream.source.utf8ByteSize

namespace Parser

/-- The parser is at the offset of the token it sees. -/
theorem offset_eq (p : Parser) : p.offset = p.stream.offsetAt (p.stream.visible p.position) := by
  rw [offset, significant?, significantFrom_zero _ p.remaining_le, TokenStream.offsetAt]
  by_cases inside : p.stream.visible p.position < p.stream.size
  · rw [if_pos inside, Option.bind_some]
  · have beyond : p.stream.tokens[p.stream.visible p.position]? = none :=
      Array.getElem?_eq_none (Nat.le_of_not_lt inside)
    rw [if_neg inside, Option.bind_none, beyond]

/-- A token of a kind is structural if the kind is. -/
theorem atStructural_of_current? {p : Parser} {kind : TokenKind} (here : p.current? = some kind) :
    p.atStructural = kind.isStructural := by
  rw [Parser.atStructural, here]

/-- At a token of a kind a parser is at a structural token exactly if the kind is structural. -/
theorem atStructural_of_isAt {p : Parser} {kind : TokenKind} (here : p.isAt kind = true) :
    p.atStructural = kind.isStructural := atStructural_of_current? ((Parser.isAt_iff p kind).1 here)

/-- Tokens of some kinds are not structural if the kinds are not. -/
theorem atStructural_of_atAny {p : Parser} {kinds : List TokenKind} (here : p.atAny kinds = true)
    (loose : ∀ kind ∈ kinds, kind.isStructural = false) : p.atStructural = false := by
  rw [Parser.atAny, Option.any_eq_true] at here
  obtain ⟨kind, current, listed⟩ := here
  exact (atStructural_of_current? current).trans (loose kind (List.contains_iff_mem.1 listed))

/-- A token that is not structural is one. -/
theorem current?_of_loose {p : Parser} (loose : p.atStructural = false) :
    ∃ kind, p.current? = some kind ∧ kind.isStructural = false := by
  cases here : p.current? with
  | none =>
    rw [Parser.atStructural, here] at loose
    contradiction
  | some kind => exact ⟨kind, rfl, (atStructural_of_current? here).symm.trans loose⟩

/-- A choice that comes out the same for two parsers relates them as both alternatives do. -/
theorem both_ite {related : Parser → Parser → Prop} {left right left' right' : Parser}
    {one two : Prop} [Decidable one] [Decidable two] (same : two ↔ one)
    (yes : one → related left left') (no : ¬one → related right right') :
    related (if one then left else right) (if two then left' else right') := by
  by_cases holds : one
  · rw [if_pos holds, if_pos (same.2 holds)]
    exact yes holds
  · rw [if_neg holds, if_neg fun both => holds (same.1 both)]
    exact no holds

/-! ### What was reported -/

/-- The diagnostics recorded, and the number of those beyond the limit. -/
structure Findings where
  recorded : Array Diagnostic
  beyond : Nat

/-- One diagnostic more, recorded if the limit allows it. -/
def Findings.add (found : Findings) (limit : Nat) (diagnostic : Diagnostic) : Findings :=
  if limit ≤ found.recorded.size then { found with beyond := found.beyond + 1 }
  else { found with recorded := found.recorded.push diagnostic }

/-- What a parser has reported. -/
def findings (p : Parser) : Findings := ⟨p.diagnostics, p.suppressed⟩

/-- A report adds a diagnostic. -/
theorem findings_errorAt (p : Parser) (offset : Nat) (fault : SyntaxFault) (message : String) :
    (p.errorAt offset fault message).findings =
      p.findings.add p.limits.diagnostics ⟨offset, fault, message⟩ := by
  rw [errorAt, Findings.add]
  exact apply_ite findings _ _ _

/-- A report changes nothing else. -/
theorem reads_errorAt (p : Parser) (offset : Nat) (fault : SyntaxFault) (message : String) :
    p.Reads (p.errorAt offset fault message) [] ∧
      (p.errorAt offset fault message).position = p.position := by
  rw [errorAt]
  split
  · exact ⟨reads_of_same rfl rfl rfl rfl rfl rfl, rfl⟩
  · exact ⟨reads_of_same rfl rfl rfl rfl rfl rfl, rfl⟩

/-- Reporting the limit on nesting changes nothing else. -/
theorem reads_refuse (p : Parser) : p.Reads p.refuse [] ∧ p.refuse.position = p.position ∧
    (p.refuse.findings = p.findings ∨ ∃ offset message, p.refuse.findings =
      p.findings.add p.limits.diagnostics ⟨offset, .maxRecursionDepth, message⟩) := by
  rw [refuse]
  by_cases reported : p.depthReported = true
  · rw [if_pos reported]
    exact ⟨p.reads_refl, rfl, .inl rfl⟩
  · rw [if_neg reported]
    have marked : p.Reads { p with depthReported := true } [] :=
      reads_of_same rfl rfl rfl rfl rfl rfl
    obtain ⟨reads, still⟩ := reads_errorAt { p with depthReported := true }
      (Parser.offset { p with depthReported := true }) .maxRecursionDepth
      ("Nesting deeper than " ++ toString p.limits.depth ++ " levels")
    exact ⟨marked.trans reads, still, .inr ⟨_, _, findings_errorAt _ _ _ _⟩⟩

/-- White space is taken without a report. -/
theorem findings_takeSpace (p : Parser) (among : Nat) :
    (p.takeSpace among).findings = p.findings := by
  obtain ⟨diagnostics, suppressed, -⟩ := p.takeSpace_quiet among
  rw [findings, findings, diagnostics, suppressed]

/-- White space reports nothing. -/
theorem findings_skipSpace (p : Parser) : p.skipSpace.findings = p.findings :=
  p.findings_takeSpace _

/-- A token that is taken reports nothing. -/
theorem findings_bump (p : Parser) : p.bump.findings = p.findings := by
  rw [bump]
  split
  · exact p.findings_skipSpace
  · exact p.findings_skipSpace

/-- Where the parser stands at a token, it takes that token. -/
theorem bump_of_visible {p : Parser} (here : p.stream.visible p.position = p.position)
    (some : p.current?.isSome) : p.Reads p.bump [.token p.position] ∧
      p.bump.position = p.position + 1 ∧ p.bump.findings = p.findings := by
  have inside := p.current?_isSome_iff.1 some
  rw [here] at inside
  rw [bump, skipSpace_of_visible here, if_pos inside]
  exact ⟨reads_take inside, rfl, rfl⟩

/-! ### Correspondences -/

/-- How two parses are compared: the streams, the places in them that correspond, the rows of trees
that are not compared any further, and how what was reported is related. -/
structure Correspondence where
  left : TokenStream
  right : TokenStream
  place : Nat → Nat → Prop
  hole : List Shape → List Shape → Prop
  record : Findings → Findings → Prop

namespace Correspondence

/-- What makes two parsers at corresponding places do the same. The same kinds stand there, and
after a token that is not structural the next places correspond. Reports at corresponding places
keep what was reported related, and the limit on nesting may be reported on one side alone. -/
structure Lawful (c : Correspondence) : Prop where
  kind {i j : Nat} (same : c.place i j) : c.right.kindAt? j = c.left.kindAt? i
  next {i j : Nat} {kind : TokenKind} (same : c.place i j) (here : c.left.kindAt? i = some kind)
    (loose : kind.isStructural = false) : c.place (i + 1) (j + 1)
  told {i j : Nat} {one other : Findings} (limit : Nat) {fault : SyntaxFault} (message : String)
    (same : c.place i j) (related : c.record one other) (shallow : fault ≠ .maxRecursionDepth) :
    c.record (one.add limit ⟨c.left.offsetAt i, fault, message⟩)
      (other.add limit ⟨c.right.offsetAt j, fault, message⟩)
  deepLeft {one other : Findings} (limit offset : Nat) (message : String)
    (related : c.record one other) :
    c.record (one.add limit ⟨offset, .maxRecursionDepth, message⟩) other
  deepRight {one other : Findings} (limit offset : Nat) (message : String)
    (related : c.record one other) :
    c.record one (other.add limit ⟨offset, .maxRecursionDepth, message⟩)

variable (c : Correspondence)

/-- Both parsers stand at corresponding places, equally deep. -/
structure Abreast (p q : Parser) : Prop where
  left : p.stream = c.left
  right : q.stream = c.right
  place : c.place p.position q.position
  limits : q.limits = p.limits
  depth : q.depth = p.depth
  awaited : q.awaited = p.awaited
  record : c.record p.findings q.findings

/-- From one pair of moments to another both parsers have read trees that are alike, and they are
abreast at the end. -/
structure Follows (p q later other : Parser) : Prop where
  abreast : c.Abreast later other
  reads : ∃ left right, p.Reads later left ∧ q.Reads other right ∧ Alike c.place c.hole left right

variable {c} {o o' p q later other further beyond : Parser}

/-! ### Composing steps -/

/-- Without a step nothing changes. -/
theorem Abreast.refl (abreast : c.Abreast p q) : c.Follows p q p q :=
  ⟨abreast, [], [], p.reads_refl, q.reads_refl, .nil⟩

/-- Steps follow one another. -/
theorem Follows.trans (first : c.Follows p q later other)
    (second : c.Follows later other further beyond) : c.Follows p q further beyond := by
  obtain ⟨_, left, right, reads, also, alike⟩ := first
  obtain ⟨abreast, left', right', reads', also', alike'⟩ := second
  exact ⟨abreast, left ++ left', right ++ right', reads.trans reads', also.trans also',
    alike.append alike'⟩

/-- What is read one level deeper is read. -/
theorem Follows.ascend (inside : c.Follows p.descend q.descend later other) :
    c.Follows p q later.ascend other.ascend := by
  obtain ⟨abreast, left, right, reads, also, alike⟩ := inside
  refine ⟨⟨abreast.left, abreast.right, abreast.place, abreast.limits, ?_, abreast.awaited,
    abreast.record⟩, left, right, reads_ascend reads, reads_ascend also, alike⟩
  change other.depth - 1 = later.depth - 1
  rw [abreast.depth]

/-- What is read while one more end tag is awaited is read. -/
theorem Follows.closeBody {closer : TokenKind}
    (inside : c.Follows (p.openBody closer) (q.openBody closer) later other) :
    c.Follows p q later.closeBody other.closeBody := by
  obtain ⟨abreast, left, right, reads, also, alike⟩ := inside
  refine ⟨⟨abreast.left, abreast.right, abreast.place, abreast.limits, abreast.depth, ?_,
    abreast.record⟩, left, right, reads_closeBody reads, reads_closeBody also, alike⟩
  change other.awaited.tail = later.awaited.tail
  rw [abreast.awaited]

/-- One level deeper the parsers are abreast. -/
theorem Abreast.descend (abreast : c.Abreast p q) : c.Abreast p.descend q.descend :=
  ⟨abreast.left, abreast.right, abreast.place, abreast.limits,
    congrArg (· + 1) abreast.depth, abreast.awaited, abreast.record⟩

/-- With one more end tag awaited the parsers are abreast. -/
theorem Abreast.openBody (abreast : c.Abreast p q) (closer : TokenKind) :
    c.Abreast (p.openBody closer) (q.openBody closer) :=
  ⟨abreast.left, abreast.right, abreast.place, abreast.limits, abreast.depth,
    congrArg (closer :: ·) abreast.awaited, abreast.record⟩

/-- Opening nodes around what came before leaves the parsers abreast. -/
theorem Abreast.startAt (abreast : c.Abreast p q) (first second : Checkpoint) (kind : NodeKind) :
    c.Abreast (p.startAt first kind) (q.startAt second kind) :=
  ⟨abreast.left, abreast.right, abreast.place, abreast.limits, abreast.depth, abreast.awaited,
    abreast.record⟩

/-- A node around what was read since a checkpoint, and what is read in it, follows. -/
theorem Follows.around {kind : NodeKind} (first : c.Follows p q later other)
    (inside : c.Follows (later.startAt p.builder.checkpoint kind)
      (other.startAt q.builder.checkpoint kind) further beyond) :
    c.Follows p q further.finish beyond.finish := by
  obtain ⟨_, left, right, reads, also, alike⟩ := first
  obtain ⟨abreast, left', right', reads', also', alike'⟩ := inside
  exact ⟨⟨abreast.left, abreast.right, abreast.place, abreast.limits, abreast.depth,
    abreast.awaited, abreast.record⟩, _, _, reads_startAt reads reads', reads_startAt also also',
    (alike.append alike').beneath kind⟩

/-- As many levels are left. -/
theorem Abreast.levels (abreast : c.Abreast p q) : q.levels = p.levels := by
  rw [Parser.levels, Parser.levels, abreast.limits, abreast.depth]

/-! ### What the parsers see -/

section

variable (lawful : c.Lawful)

include lawful

/-- Where the parsers look the places correspond, and so do those of the white space before. -/
theorem Lawful.visible {i j : Nat} (same : c.place i j) : ∃ count,
    c.left.visible i = i + count ∧ c.right.visible j = j + count ∧ c.place (i + count) (j + count) ∧
      ∀ index < count, c.place (i + index) (j + index) := by
  have spaces (count : Nat) (i j : Nat) (same : c.place i j)
      (ends : c.left.visible i = i + count) : c.right.visible j = j + count ∧
        c.place (i + count) (j + count) ∧ ∀ index < count, c.place (i + index) (j + index) := by
    induction count generalizing i j with
    | zero =>
      have solid : c.left.kindAt? i ≠ some .whitespace := by
        have seen := c.left.kindAt?_visible i
        rwa [ends, Nat.add_zero] at seen
      have also : c.right.kindAt? j ≠ some .whitespace := by
        rw [lawful.kind same]
        exact solid
      have stops := c.right.visible_of_not_space also
      exact ⟨stops, same, fun _ below => absurd below (Nat.not_lt_zero _)⟩
    | succ count ih =>
      have blank : c.left.kindAt? i = some .whitespace := by
        apply Classical.byContradiction
        intro solid
        rw [c.left.visible_of_not_space solid] at ends
        omega
      have next := lawful.next same blank rfl
      rw [c.left.visible_of_space blank] at ends
      obtain ⟨stops, last, between⟩ := ih (i + 1) (j + 1) next (by omega)
      have also : c.right.kindAt? j = some .whitespace := (lawful.kind same).trans blank
      rw [c.right.visible_of_space also]
      refine ⟨by omega, ?_, fun index below => ?_⟩
      · rw [Nat.add_right_comm i, Nat.add_right_comm j] at last
        exact last
      · cases index with
        | zero => exact same
        | succ index =>
          have there := between index (by omega)
          rw [Nat.add_right_comm i, Nat.add_right_comm j] at there
          exact there
  have ahead := c.left.le_visible i
  obtain ⟨count, ends⟩ := Nat.exists_eq_add_of_le ahead
  exact ⟨count, ends, spaces count i j same ends⟩

/-- The tokens that the parsers see correspond. -/
theorem Abreast.visible (abreast : c.Abreast p q) :
    c.place (p.stream.visible p.position) (q.stream.visible q.position) := by
  obtain ⟨count, first, second, place, -⟩ := lawful.visible abreast.place
  rw [abreast.left, abreast.right, first, second]
  exact place

/-- The parsers see the same kind of token. -/
theorem Abreast.current? (abreast : c.Abreast p q) : q.current? = p.current? := by
  have same := lawful.kind (abreast.visible lawful)
  rw [current?_eq, current?_eq, abreast.left, abreast.right]
  rw [abreast.left, abreast.right] at same
  exact same

/-- Parsers that are abreast agree on the kind of token they see. -/
theorem Abreast.isAt (abreast : c.Abreast p q) (kind : TokenKind) : q.isAt kind = p.isAt kind := by
  rw [Parser.isAt, Parser.isAt, abreast.current? lawful]

/-- The same as a choice between steps needs it. -/
theorem Abreast.isAt_iff (abreast : c.Abreast p q) (kind : TokenKind) :
    q.isAt kind = true ↔ p.isAt kind = true := by
  rw [abreast.isAt lawful]

/-- Parsers that are abreast agree on a choice of kinds. -/
theorem Abreast.atAny (abreast : c.Abreast p q) (kinds : List TokenKind) :
    q.atAny kinds = p.atAny kinds := by
  rw [Parser.atAny, Parser.atAny, abreast.current? lawful]

/-- Parsers that are abreast are both at structural tokens or neither is. -/
theorem Abreast.atStructural (abreast : c.Abreast p q) : q.atStructural = p.atStructural := by
  rw [Parser.atStructural, Parser.atStructural, abreast.current? lawful]

/-- After a token that is not structural the places correspond. -/
theorem Abreast.next (abreast : c.Abreast p q) (loose : p.atStructural = false) :
    c.place (p.stream.visible p.position + 1) (q.stream.visible q.position + 1) := by
  obtain ⟨kind, here, free⟩ := current?_of_loose loose
  rw [current?_eq, abreast.left] at here
  have same := abreast.visible lawful
  rw [abreast.left] at same ⊢
  exact lawful.next same here free

/-- If the places after the tokens that are seen correspond, the same kind of token comes next. -/
theorem Abreast.next?_of_place (abreast : c.Abreast p q)
    (next : c.place (p.stream.visible p.position + 1) (q.stream.visible q.position + 1)) :
    q.nth? 1 = p.nth? 1 := by
  obtain ⟨count, first, second, place, -⟩ := lawful.visible next
  have same := lawful.kind place
  rw [abreast.left] at first same
  rw [abreast.right] at second same
  rw [nth?_one_eq, nth?_one_eq, abreast.left, abreast.right, first, second]
  exact same

/-- After a token that is not structural the same kind of token comes next. -/
theorem Abreast.next? (abreast : c.Abreast p q) (loose : p.atStructural = false) :
    q.nth? 1 = p.nth? 1 := abreast.next?_of_place lawful (abreast.next lawful loose)

/-! ### Small steps -/

/-- White space is skipped on both sides. -/
theorem Abreast.skipSpace (abreast : c.Abreast p q) :
    c.Follows p q p.skipSpace q.skipSpace := by
  obtain ⟨count, first, second, place, between⟩ := lawful.visible abreast.place
  have reads := p.reads_skipSpace
  have also := q.reads_skipSpace
  rw [abreast.left, first, Nat.add_sub_cancel_left] at reads
  rw [abreast.right, second, Nat.add_sub_cancel_left] at also
  refine ⟨⟨reads.stream.trans abreast.left, also.stream.trans abreast.right, ?_, ?_, ?_, ?_, ?_⟩,
    _, _, reads, also, alike_tokens count between⟩
  · rw [p.skipSpace_position, q.skipSpace_position, abreast.left, abreast.right, first, second]
    exact place
  · rw [reads.limits, also.limits, abreast.limits]
  · rw [reads.depth, also.depth, abreast.depth]
  · rw [reads.awaited, also.awaited, abreast.awaited]
  · rw [findings_skipSpace, findings_skipSpace]
    exact abreast.record

/-- A token is taken on both sides if the places after it correspond. -/
theorem Abreast.bump_of_next (abreast : c.Abreast p q) (some : p.current?.isSome)
    (next : c.place (p.stream.visible p.position + 1) (q.stream.visible q.position + 1)) :
    c.Follows p q p.bump q.bump := by
  have spaced := abreast.skipSpace lawful
  have also : q.current?.isSome := by
    rw [abreast.current? lawful]
    exact some
  have taken {r : Parser} (some : r.current?.isSome) :
      r.skipSpace.position < r.skipSpace.stream.size := by
    rw [r.reads_skipSpace.stream, r.skipSpace_position]
    exact r.current?_isSome_iff.1 some
  have inside := taken some
  have inside' := taken also
  have here := spaced.abreast
  rw [Parser.bump, Parser.bump, if_pos inside, if_pos inside']
  refine spaced.trans ⟨⟨here.left, here.right, ?_, here.limits, here.depth, here.awaited,
    here.record⟩, _, _, reads_take inside, reads_take inside', .token here.place .nil⟩
  change c.place (p.skipSpace.position + 1) (q.skipSpace.position + 1)
  rw [p.skipSpace_position, q.skipSpace_position]
  exact next

/-- A token that is not structural is taken on both sides. -/
theorem Abreast.bump (abreast : c.Abreast p q) (loose : p.atStructural = false) :
    c.Follows p q p.bump q.bump :=
  abreast.bump_of_next lawful (isSome_of_loose loose) (abreast.next lawful loose)

/-- A token is taken after what was read. -/
theorem Follows.bump (first : c.Follows p q later other) (loose : later.atStructural = false) :
    c.Follows p q later.bump other.bump := first.trans (first.abreast.bump lawful loose)

/-- A token of a kind that is not structural is taken after what was read. -/
theorem Follows.take {kind : TokenKind} (first : c.Follows p q later other)
    (here : later.isAt kind = true) (loose : kind.isStructural = false) :
    c.Follows p q later.bump other.bump :=
  first.bump lawful ((atStructural_of_isAt here).trans loose)

/-- Opening a node leaves the parsers abreast. -/
theorem Abreast.start (abreast : c.Abreast p q) (kind : NodeKind) :
    c.Abreast (p.start kind) (q.start kind) := by
  have spaced := (abreast.skipSpace lawful).abreast
  exact ⟨spaced.left, spaced.right, spaced.place, spaced.limits, spaced.depth, spaced.awaited,
    spaced.record⟩

/-- A node and what is read in it follow. -/
theorem Abreast.node {kind : NodeKind} (abreast : c.Abreast p q)
    (inside : c.Follows (p.start kind) (q.start kind) later other) :
    c.Follows p q later.finish other.finish := by
  obtain ⟨there, left, right, reads, also, alike⟩ := inside
  exact (abreast.skipSpace lawful).trans ⟨⟨there.left, there.right, there.place, there.limits,
    there.depth, there.awaited, there.record⟩, _, _, reads_node reads, reads_node also,
    alike.beneath kind⟩

omit lawful in
/-- A change of nothing but reports that keeps them related follows. -/
theorem Abreast.reported (abreast : c.Abreast p q) (reads : p.Reads later [])
    (also : q.Reads other []) (still : later.position = p.position)
    (unmoved : other.position = q.position) (related : c.record later.findings other.findings) :
    c.Follows p q later other := by
  refine ⟨⟨reads.stream.trans abreast.left, also.stream.trans abreast.right, ?_, ?_, ?_, ?_,
    related⟩, [], [], reads, also, .nil⟩
  · rw [still, unmoved]
    exact abreast.place
  · rw [reads.limits, also.limits, abreast.limits]
  · rw [reads.depth, also.depth, abreast.depth]
  · rw [reads.awaited, also.awaited, abreast.awaited]

/-- Reports at corresponding places follow. -/
theorem Abreast.errorAt {i j : Nat} (abreast : c.Abreast p q) (same : c.place i j)
    {fault : SyntaxFault} (shallow : fault ≠ .maxRecursionDepth) (message : String) :
    c.Follows p q (p.errorAt (c.left.offsetAt i) fault message)
      (q.errorAt (c.right.offsetAt j) fault message) := by
  obtain ⟨reads, still⟩ := reads_errorAt p (c.left.offsetAt i) fault message
  obtain ⟨also, unmoved⟩ := reads_errorAt q (c.right.offsetAt j) fault message
  refine abreast.reported reads also still unmoved ?_
  rw [findings_errorAt, findings_errorAt, abreast.limits]
  exact lawful.told _ message same abreast.record shallow

/-- Reports at the tokens seen follow. -/
theorem Abreast.error (abreast : c.Abreast p q) {fault : SyntaxFault}
    (shallow : fault ≠ .maxRecursionDepth) (message : String) :
    c.Follows p q (p.error fault message) (q.error fault message) := by
  have same := abreast.visible lawful
  rw [Parser.error, Parser.error, offset_eq, offset_eq]
  rw [abreast.left, abreast.right] at same ⊢
  exact abreast.errorAt lawful same shallow message

/-- Reports after what was read follow. -/
theorem Follows.error (first : c.Follows p q later other) {fault : SyntaxFault}
    (shallow : fault ≠ .maxRecursionDepth) (message : String) :
    c.Follows p q (later.error fault message) (other.error fault message) :=
  first.trans (first.abreast.error lawful shallow message)

/-- The limit on nesting may be reported on one side alone. -/
theorem Lawful.refused (related : c.record p.findings q.findings) :
    c.record p.refuse.findings q.refuse.findings := by
  obtain ⟨-, -, left⟩ := reads_refuse p
  obtain ⟨-, -, right⟩ := reads_refuse q
  have once : c.record p.refuse.findings q.findings := by
    rcases left with same | ⟨offset, message, added⟩
    · rw [same]
      exact related
    · rw [added]
      exact lawful.deepLeft _ offset message related
  rcases right with same | ⟨offset, message, added⟩
  · rw [same]
    exact once
  · rw [added]
    exact lawful.deepRight _ offset message once

/-- A refused level leaves parsers abreast. -/
theorem Abreast.refuse (abreast : c.Abreast p q) : c.Follows p q p.refuse q.refuse := by
  obtain ⟨reads, still, -⟩ := reads_refuse p
  obtain ⟨also, unmoved, -⟩ := reads_refuse q
  exact abreast.reported reads also still unmoved (lawful.refused abreast.record)

/-! ### Repetitions -/

omit lawful in
/-- Two repetitions whose bounds make no difference have a bound in common. -/
theorem exists_bound {α : Type} {slack first second : Nat} {one two : Nat → Parser → α}
    (free : Unhindered slack one) (free' : Unhindered slack two)
    (enough : p.remaining + slack ≤ first) (enough' : q.remaining + slack ≤ second) :
    ∃ times, one first p = one times p ∧ two second q = two times q :=
  ⟨first + second, free p first _ enough (by omega), free' q second _ enough' (by omega)⟩

omit lawful in
/-- A repetition that comes out alike with equal bounds does so with bounds that make no
difference. -/
theorem follows_of_unhindered {slack first second : Nat} {one two : Nat → Step}
    (free : Unhindered slack one) (free' : Unhindered slack two)
    (enough : p.remaining + slack ≤ first) (enough' : q.remaining + slack ≤ second)
    (same : ∀ times, c.Follows o o' (one times p) (two times q)) :
    c.Follows o o' (one first p) (two second q) := by
  obtain ⟨times, left, right⟩ := exists_bound free free' enough enough'
  rw [left, right]
  exact same times

/-- A loop follows if each round does, counted from where the loop began. -/
theorem Follows.loop {test : Parser → Bool} {one two : Step} (first : c.Follows o o' p q)
    (seen : ∀ r : Parser, test r = true → r.current?.isSome)
    (tests : ∀ r s : Parser, s.current? = r.current? → test s = test r)
    (taken : ∀ r : Parser, test r = true → r.Past (one r))
    (taken' : ∀ r : Parser, test r = true → r.Past (two r))
    (round : ∀ r s : Parser, c.Follows o o' r s → test r = true → c.Follows o o' (one r) (two s)) :
    c.Follows o o' (p.loop test one) (q.loop test two) := by
  refine follows_of_unhindered (unhindered_repeatWhile seen taken)
    (unhindered_repeatWhile seen taken') (Nat.le_refl _) (Nat.le_refl _) fun times => ?_
  induction times generalizing p q with
  | zero => exact first
  | succ times ih =>
    rw [repeatWhile, repeatWhile]
    refine both_ite ?_ (fun holds => ih (round p q first holds)) fun _ => first
    rw [tests p q (first.abreast.current? lawful)]

/-- A loop over tokens of some kinds follows if each round does. -/
theorem Follows.loopAny {kinds : List TokenKind} {one two : Step} (first : c.Follows o o' p q)
    (taken : ∀ r : Parser, r.Past (one r)) (taken' : ∀ r : Parser, r.Past (two r))
    (round : ∀ r s : Parser, c.Follows o o' r s → r.atAny kinds = true →
      c.Follows o o' (one r) (two s)) :
    c.Follows o o' (p.loop (fun r => r.atAny kinds) one) (q.loop (fun r => r.atAny kinds) two) := by
  refine first.loop lawful (fun r => isSome_of_atAny) (fun r s same => ?_) (fun r _ => taken r)
    (fun r _ => taken' r) round
  rw [Parser.atAny, Parser.atAny, same]

/-- A loop over tokens of one kind follows if each round does. -/
theorem Follows.loopAt {kind : TokenKind} {one two : Step} (first : c.Follows o o' p q)
    (taken : ∀ r : Parser, r.Past (one r)) (taken' : ∀ r : Parser, r.Past (two r))
    (round : ∀ r s : Parser, c.Follows o o' r s → r.isAt kind = true →
      c.Follows o o' (one r) (two s)) :
    c.Follows o o' (p.loop (fun r => r.isAt kind) one) (q.loop (fun r => r.isAt kind) two) := by
  refine first.loop lawful (fun r => isSome_of_isAt) (fun r s same => ?_) (fun r _ => taken r)
    (fun r _ => taken' r) round
  rw [Parser.isAt, Parser.isAt, same]

end

/-! ### Before a token -/

variable (c) in
/-- Both parsers stand right before a token of the same kind, and taking it leads to corresponding
places. The tokens themselves may stand outside of these. -/
structure Poised (p q : Parser) : Prop where
  left : p.stream = c.left
  right : q.stream = c.right
  limits : q.limits = p.limits
  depth : q.depth = p.depth
  awaited : q.awaited = p.awaited
  record : c.record p.findings q.findings
  here : p.stream.visible p.position = p.position
  also : q.stream.visible q.position = q.position
  same : q.current? = p.current?
  seen : p.current?.isSome
  next : c.place (p.position + 1) (q.position + 1)
  alike : Alike c.place c.hole [.token p.position] [.token q.position]

/-- Before a token that is not structural parsers that are abreast are poised. -/
theorem Abreast.poised (lawful : c.Lawful) (abreast : c.Abreast p q)
    (loose : p.atStructural = false) : c.Poised p.skipSpace q.skipSpace := by
  have spaced := (abreast.skipSpace lawful).abreast
  have free := (sees_skipSpace p).atStructural.trans loose
  refine ⟨spaced.left, spaced.right, spaced.limits, spaced.depth, spaced.awaited, spaced.record,
    p.visible_skipSpace, q.visible_skipSpace, spaced.current? lawful, isSome_of_loose free, ?_,
    .token spaced.place .nil⟩
  have next := spaced.next lawful free
  rwa [p.visible_skipSpace, q.visible_skipSpace] at next

/-- Opening a node leaves the parsers poised. -/
theorem Poised.start (poised : c.Poised p q) (kind : NodeKind) :
    c.Poised (p.start kind) (q.start kind) := by
  rw [Parser.start, Parser.start, skipSpace_of_visible poised.here,
    skipSpace_of_visible poised.also]
  exact ⟨poised.left, poised.right, poised.limits, poised.depth, poised.awaited, poised.record,
    poised.here, poised.also, poised.same, poised.seen, poised.next, poised.alike⟩

/-- The token is taken on both sides. -/
theorem Poised.bump (poised : c.Poised p q) : c.Follows p q p.bump q.bump := by
  obtain ⟨left, next, record⟩ := bump_of_visible poised.here poised.seen
  obtain ⟨right, next', record'⟩ := bump_of_visible poised.also (poised.same ▸ poised.seen)
  refine ⟨⟨left.stream.trans poised.left, right.stream.trans poised.right, ?_, ?_, ?_, ?_, ?_⟩,
    _, _, left, right, poised.alike⟩
  · rw [next, next']
    exact poised.next
  · rw [left.limits, right.limits, poised.limits]
  · rw [left.depth, right.depth, poised.depth]
  · rw [left.awaited, right.awaited, poised.awaited]
  · rw [record, record']
    exact poised.record

/-- A node that begins before the token follows. -/
theorem Poised.node {kind : NodeKind} (poised : c.Poised p q)
    (inside : c.Follows (p.start kind) (q.start kind) later other) :
    c.Follows p q later.finish other.finish := by
  obtain ⟨there, left, right, reads, also, alike⟩ := inside
  have whole := reads_node reads
  have whole' := reads_node also
  rw [skipSpace_of_visible poised.here] at whole
  rw [skipSpace_of_visible poised.also] at whole'
  exact ⟨⟨there.left, there.right, there.place, there.limits, there.depth, there.awaited,
    there.record⟩, _, _, whole, whole', alike.beneath kind⟩

end Correspondence

/-! ### Steps -/

/-- A step takes parsers that are abreast to parsers that are, whatever they are compared by. -/
def InStep (step : Step) : Prop :=
  ∀ ⦃c : Correspondence⦄, c.Lawful → ∀ ⦃p q : Parser⦄, c.Abreast p q →
    c.Follows p q (step p) (step q)

/-- What goes on around what was read since a checkpoint does so on both sides. -/
def Trailing (tail : Checkpoint → Step) : Prop :=
  ∀ ⦃c : Correspondence⦄, c.Lawful → ∀ ⦃o o' p q : Parser⦄, c.Follows o o' p q →
    c.Follows o o' (tail o.builder.checkpoint p) (tail o'.builder.checkpoint q)

/-- A step after what was read follows. -/
theorem Correspondence.Follows.step {c : Correspondence} {o o' p q : Parser} {step : Step}
    (first : c.Follows o o' p q) (lawful : c.Lawful) (next : InStep step) :
    c.Follows o o' (step p) (step q) := first.trans (next lawful first.abreast)

/-- An operand and what goes on around it are in step. -/
theorem InStep.trailed {operand step : Step} {tail : Checkpoint → Step} (each : InStep operand)
    (trailing : Trailing tail)
    (whole : ∀ p, step p = tail p.skipSpace.builder.checkpoint (operand p.skipSpace)) :
    InStep step := by
  intro c lawful p q abreast
  have spaced := abreast.skipSpace lawful
  rw [whole, whole]
  exact spaced.trans (trailing lawful (each lawful spaced.abreast))

end Parser
end Stencil
