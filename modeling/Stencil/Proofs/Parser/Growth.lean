import Stencil.Proofs.Parser.Space
import Stencil.Proofs.Tree.Growth
import Stencil.Parser.Statement
/-!
# Every part of the grammar reads forward

`Reads` says what lies between two moments of a parse: the tokens in between, each once and in
order, have become new children of the innermost open node, and nesting and awaited end tags are as
before. Every step of the parser keeps to it whatever the tokens are: `growing_item` for one item
of a template, and a lemma of the same form for each production on the way there.
-/

namespace Stencil
namespace Parser

/-- The later parser has read the tokens between the two positions into shapes, which are new
children of the innermost open node. -/
structure Reads (earlier later : Parser) (shapes : List Shape) : Prop where
  stream : later.stream = earlier.stream
  limits : later.limits = earlier.limits
  depth : later.depth = earlier.depth
  awaited : later.awaited = earlier.awaited
  forward : earlier.position ≤ later.position
  within : earlier.position ≤ earlier.stream.size → later.position ≤ earlier.stream.size
  leaves : Shape.leavesAll shapes =
    List.range' earlier.position (later.position - earlier.position)
  builder : earlier.builder.Gains later.builder shapes

/-- Without a step nothing is read. -/
theorem reads_refl (p : Parser) : p.Reads p [] where
  stream := rfl
  limits := rfl
  depth := rfl
  awaited := rfl
  forward := Nat.le_refl _
  within := id
  leaves := by rw [Nat.sub_self]; rfl
  builder := p.builder.gains_refl

/-- What is read after one another is read together. -/
theorem Reads.trans {first second third : Parser} {left right : List Shape}
    (before : first.Reads second left) (after : second.Reads third right) :
    first.Reads third (left ++ right) where
  stream := after.stream.trans before.stream
  limits := after.limits.trans before.limits
  depth := after.depth.trans before.depth
  awaited := after.awaited.trans before.awaited
  forward := Nat.le_trans before.forward after.forward
  within inside := by
    have meeting := before.within inside
    rw [← before.stream] at meeting ⊢
    exact after.within meeting
  leaves := by
    have early := before.forward
    have late := after.forward
    have meeting : first.position + (second.position - first.position) = second.position := by
      omega
    have joined := List.range'_append_1 (s := first.position)
      (m := second.position - first.position) (n := third.position - second.position)
    rw [meeting] at joined
    rw [Shape.leavesAll_append, before.leaves, after.leaves, joined]
    congr 1
    omega
  builder := before.builder.trans after.builder

/-- A change that leaves position, tree, nesting and awaited end tags alone reads nothing. -/
theorem reads_of_same {earlier later : Parser} (stream : later.stream = earlier.stream)
    (limits : later.limits = earlier.limits) (depth : later.depth = earlier.depth)
    (awaited : later.awaited = earlier.awaited) (position : later.position = earlier.position)
    (builder : later.builder = earlier.builder) : earlier.Reads later [] where
  stream := stream
  limits := limits
  depth := depth
  awaited := awaited
  forward := Nat.le_of_eq position.symm
  within inside := position ▸ inside
  leaves := by rw [position, Nat.sub_self]; rfl
  builder := by rw [builder]; exact earlier.builder.gains_refl

/-- Taking a token reads it. -/
theorem reads_take {p : Parser} (inside : p.position < p.stream.size) :
    p.Reads p.take [.token p.position] where
  stream := rfl
  limits := rfl
  depth := rfl
  awaited := rfl
  forward := Nat.le_succ _
  within _ := inside
  leaves := by
    rw [take, Nat.add_sub_cancel_left]
    rfl
  builder := p.builder.gains_token p.position

/-- Taking white space reads the tokens it takes. -/
theorem reads_takeSpace (p : Parser) (among : Nat) :
    p.Reads (p.takeSpace among)
      (Shape.tokens p.position ((p.takeSpace among).position - p.position)) := by
  induction among generalizing p with
  | zero =>
    rw [takeSpace, Nat.sub_self]
    exact p.reads_refl
  | succ among ih =>
    rw [takeSpace]
    by_cases blank : p.stream.kindAt? p.position = some .whitespace
    · rw [if_pos blank]
      have later := ih p.take
      have inside : p.position < p.stream.size := by
        rw [← TokenStream.kindAt?_isSome, blank]
        rfl
      have reading := (reads_take inside).trans later
      have past := later.forward
      simp only [take] at past
      have row := Shape.tokens_append p.position 1
        ((p.take.takeSpace among).position - (p.position + 1))
      rw [show 1 + ((p.take.takeSpace among).position - (p.position + 1)) =
        (p.take.takeSpace among).position - p.position by simp only [take]; omega] at row
      rw [← row]
      exact reading
    · rw [if_neg blank, Nat.sub_self]
      exact p.reads_refl

/-- Skipping white space reads it. -/
theorem reads_skipSpace (p : Parser) :
    p.Reads p.skipSpace (Shape.tokens p.position (p.stream.visible p.position - p.position)) := by
  have reading := p.reads_takeSpace p.remaining
  rw [p.takeSpace_position p.remaining_le] at reading
  exact reading

/-- The limit on nesting is not reported on the way past white space. -/
theorem depthReported_skipSpace (p : Parser) : p.skipSpace.depthReported = p.depthReported := by
  have deep (among : Nat) (q : Parser) : (q.takeSpace among).depthReported = q.depthReported := by
    induction among generalizing q with
    | zero => rfl
    | succ among ih =>
      rw [takeSpace]
      split
      · exact ih q.take
      · rfl
  exact deep _ _

/-- A token that is taken does not report the limit on nesting. -/
theorem depthReported_bump (p : Parser) : p.bump.depthReported = p.depthReported := by
  rw [bump]
  split
  · exact p.depthReported_skipSpace
  · exact p.depthReported_skipSpace

/-- A node opened and closed is read as one shape. -/
theorem reads_node {earlier later : Parser} {kind : NodeKind} {shapes : List Shape}
    (inside : (earlier.start kind).Reads later shapes) :
    earlier.skipSpace.Reads later.finish [.node kind shapes] where
  stream := inside.stream
  limits := inside.limits
  depth := inside.depth
  awaited := inside.awaited
  forward := inside.forward
  within := inside.within
  leaves := by
    rw [Shape.leavesAll, Shape.leavesAll, List.append_nil, Shape.leaves]
    exact inside.leaves
  builder := TreeBuilder.gains_finishNode inside.builder

/-- A node opened around what has been read since a checkpoint is read as one shape. -/
theorem reads_startAt {origin middle later : Parser} {kind : NodeKind} {left right : List Shape}
    (before : origin.Reads middle left)
    (after : (middle.startAt origin.builder.checkpoint kind).Reads later right) :
    origin.Reads later.finish [.node kind (left ++ right)] where
  stream := after.stream.trans before.stream
  limits := after.limits.trans before.limits
  depth := after.depth.trans before.depth
  awaited := after.awaited.trans before.awaited
  forward := Nat.le_trans before.forward after.forward
  within inside := by
    have meeting := before.within inside
    rw [← before.stream] at meeting ⊢
    exact after.within meeting
  leaves := by
    have early := before.forward
    have late : middle.position ≤ later.position := after.forward
    have rest : Shape.leavesAll right =
        List.range' middle.position (later.position - middle.position) := after.leaves
    have meeting : origin.position + (middle.position - origin.position) = middle.position := by
      omega
    have joined := List.range'_append_1 (s := origin.position)
      (m := middle.position - origin.position) (n := later.position - middle.position)
    rw [meeting] at joined
    rw [Shape.leavesAll_node, Shape.leavesAll_append, before.leaves, rest, joined]
    change List.range' _ _ = List.range' _ (later.position - origin.position)
    congr 1
    omega
  builder := TreeBuilder.gains_startAt before.builder after.builder

/-- What is read one level deeper is read. -/
theorem reads_ascend {earlier later : Parser} {shapes : List Shape}
    (inside : earlier.descend.Reads later shapes) : earlier.Reads later.ascend shapes where
  stream := inside.stream
  limits := inside.limits
  depth := by
    simp only [ascend, inside.depth, descend]
    rfl
  awaited := inside.awaited
  forward := inside.forward
  within := inside.within
  leaves := inside.leaves
  builder := inside.builder

/-- What is read while one more end tag is awaited is read. -/
theorem reads_closeBody {earlier later : Parser} {closer : TokenKind} {shapes : List Shape}
    (inside : (earlier.openBody closer).Reads later shapes) :
    earlier.Reads later.closeBody shapes where
  stream := inside.stream
  limits := inside.limits
  depth := inside.depth
  awaited := by rw [closeBody, inside.awaited, openBody]; rfl
  forward := inside.forward
  within := inside.within
  leaves := inside.leaves
  builder := inside.builder

/-! ### Growing -/

/-- The later parser has read on, into whatever shapes. -/
def Grows (earlier later : Parser) : Prop := ∃ shapes, earlier.Reads later shapes

/-- A step reads on from everywhere. -/
def Growing (step : Step) : Prop := ∀ p : Parser, p.Grows (step p)

/-- What has read shapes has read on. -/
theorem Reads.grows {earlier later : Parser} {shapes : List Shape}
    (reading : earlier.Reads later shapes) : earlier.Grows later := ⟨shapes, reading⟩

/-- Without a step a parser has read on. -/
theorem grows_refl (p : Parser) : p.Grows p := p.reads_refl.grows

/-- What is read on after one another is read on together. -/
theorem Grows.trans {first second third : Parser} (before : first.Grows second)
    (after : second.Grows third) : first.Grows third := by
  obtain ⟨left, reading⟩ := before
  obtain ⟨right, further⟩ := after
  exact (reading.trans further).grows

/-- Reading on does not go back. -/
theorem Grows.forward {earlier later : Parser} (growth : earlier.Grows later) :
    earlier.position ≤ later.position := by
  obtain ⟨shapes, reading⟩ := growth
  exact reading.forward

/-- A step after another reads on. -/
theorem Grows.step {earlier later : Parser} {step : Step} (growth : earlier.Grows later)
    (next : Growing step) : earlier.Grows (step later) := growth.trans (next later)

/-- White space reads on. -/
theorem growing_skipSpace : Growing skipSpace := fun p => p.reads_skipSpace.grows

/-- A token reads on. -/
theorem growing_bump : Growing bump := by
  intro p
  have spaced := p.reads_skipSpace
  simp only [bump]
  split
  next inside => exact (spaced.trans (reads_take inside)).grows
  · exact spaced.grows

/-- A report anywhere reads on over nothing. -/
theorem growing_errorAt (offset : Nat) (fault : SyntaxFault) (message : String) :
    Growing (fun p => p.errorAt offset fault message) := by
  intro p
  simp only [errorAt]
  split <;> exact ⟨[], reads_of_same rfl rfl rfl rfl rfl rfl⟩

/-- A report reads on over nothing. -/
theorem growing_error (fault : SyntaxFault) (message : String) :
    Growing (fun p => p.error fault message) := fun p => growing_errorAt p.offset fault message p

/-- A refused level reads on over nothing. -/
theorem growing_refuse : Growing refuse := by
  intro p
  simp only [refuse]
  split
  · exact p.grows_refl
  · have marked : p.Grows { p with depthReported := true } :=
      ⟨[], reads_of_same rfl rfl rfl rfl rfl rfl⟩
    exact marked.step (growing_error _ _)

/-- A node around a step reads on. -/
theorem grows_node {earlier later : Parser} {kind : NodeKind}
    (inside : (earlier.start kind).Grows later) : earlier.Grows later.finish := by
  obtain ⟨shapes, reading⟩ := inside
  exact (growing_skipSpace earlier).trans (reads_node reading).grows

/-- A node around what was read since a checkpoint, and a step, reads on. -/
theorem grows_startAt {origin middle later : Parser} (kind : NodeKind)
    (before : origin.Grows middle)
    (after : (middle.startAt origin.builder.checkpoint kind).Grows later) :
    origin.Grows later.finish := by
  obtain ⟨left, reading⟩ := before
  obtain ⟨right, further⟩ := after
  exact (reads_startAt reading further).grows

/-- What is read on a level deeper is read on from the level above. -/
theorem grows_ascend {earlier later : Parser} (inside : earlier.descend.Grows later) :
    earlier.Grows later.ascend := by
  obtain ⟨shapes, reading⟩ := inside
  exact (reads_ascend reading).grows

/-- What is read on in a body is read on from the level around it. -/
theorem grows_closeBody {earlier later : Parser} {closer : TokenKind}
    (inside : (earlier.openBody closer).Grows later) : earlier.Grows later.closeBody := by
  obtain ⟨shapes, reading⟩ := inside
  exact (reads_closeBody reading).grows

/-- A loop reads on if each round does, counted from where the loop began. -/
theorem grows_loop {origin p : Parser} {test : Parser → Bool} {body : Step}
    (start : origin.Grows p) (round : ∀ q, origin.Grows q → origin.Grows (body q)) :
    origin.Grows (p.loop test body) := by
  rw [loop]
  generalize p.remaining = times
  induction times generalizing p with
  | zero => exact start
  | succ times ih =>
    rw [repeatWhile]
    split
    · exact ih (round p start)
    · exact start

/-- A loop of steps that read on reads on. -/
theorem growing_loop {test : Parser → Bool} {body : Step} (round : Growing body) :
    Growing (loop test body) := fun p => grows_loop p.grows_refl fun _ growth => growth.step round

/-- A choice between two steps that read on reads on. -/
theorem grows_ite {origin left right : Parser} {test : Prop} [Decidable test]
    (yes : origin.Grows left) (no : origin.Grows right) :
    origin.Grows (if test then left else right) := by
  split
  · exact yes
  · exact no

end Parser
end Stencil
