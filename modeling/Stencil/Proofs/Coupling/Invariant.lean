import Stencil.Proofs.Coupling.Template
import Stencil.Proofs.Parser.Coverage
/-!
# What every parse keeps

A property of parsers that depends on tokens, position and tree alone, and is kept when a token is
taken and when a node is opened or closed, holds at the end of every parse (`TreeInvariant.parse`):
together with it a parser goes on in the same way as itself.
-/

namespace Stencil
namespace Parser

/-- What holds of a parser holds however it reads and builds. -/
structure TreeInvariant (holds : Parser → Prop) : Prop where
  within {p : Parser} (before : holds p) : p.builder.opened ≠ []
  still {p q : Parser} (before : holds p) (stream : q.stream = p.stream)
    (position : q.position = p.position) (builder : q.builder = p.builder) : holds q
  take {p : Parser} (before : holds p) (inside : p.position < p.stream.size) : holds p.take
  /-- A node is opened past white space. -/
  start {p : Parser} (before : holds p) (here : p.stream.visible p.position = p.position)
    (kind : NodeKind) : holds { p with builder := p.builder.start kind p.offset }
  startAt {o p : Parser} (origin : holds o) (before : holds p)
    (here : o.stream.visible o.position = o.position) (growth : o.Grows p) (kind : NodeKind) :
    holds (p.startAt o.builder.checkpoint kind)
  finish {p : Parser} (before : holds p) (inner : 2 ≤ p.builder.opened.length) : holds p.finish

namespace TreeInvariant

variable {holds : Parser → Prop} (invariant : TreeInvariant holds) {p : Parser}

include invariant

/-- White space keeps what steps keep. -/
theorem skipSpace (before : holds p) : holds p.skipSpace := by
  have spaced (among : Nat) (q : Parser) (before : holds q) : holds (q.takeSpace among) := by
    induction among generalizing q with
    | zero => exact before
    | succ among ih =>
      rw [takeSpace]
      split
      next blank =>
        have inside : q.position < q.stream.size := by
          rw [← TokenStream.kindAt?_isSome, blank]
          rfl
        exact ih q.take (invariant.take before inside)
      · exact before
  exact spaced _ p before

/-- A token that is taken keeps what steps keep. -/
theorem bump (before : holds p) : holds p.bump := by
  have spaced := invariant.skipSpace before
  rw [Parser.bump]
  split
  next inside => exact invariant.take spaced inside
  · exact spaced

/-- A report keeps what steps keep. -/
theorem errorAt (before : holds p) (offset : Nat) (fault : SyntaxFault) (message : String) :
    holds (p.errorAt offset fault message) := by
  rw [Parser.errorAt]
  split
  · exact invariant.still before rfl rfl rfl
  · exact invariant.still before rfl rfl rfl

/-- A refused level keeps what steps keep. -/
theorem refuse (before : holds p) : holds p.refuse := by
  rw [Parser.refuse]
  split
  · exact before
  · have marked : holds { p with depthReported := true } := invariant.still before rfl rfl rfl
    exact invariant.errorAt marked _ _ _

/-- A parser of which it holds goes on in the same way as itself. -/
theorem coupling : Coupling (fun p q => q = p ∧ holds p) where
  current? both := by rw [both.1]
  next? both := by rw [both.1]
  nextMode? both := by rw [both.1]
  levels both := by rw [both.1]
  awaited both := by rw [both.1]
  within both := invariant.within both.2
  skipSpace both := ⟨by rw [both.1], invariant.skipSpace both.2⟩
  bump both := ⟨by rw [both.1], invariant.bump both.2⟩
  start {p _} both kind :=
    ⟨by rw [both.1], invariant.start (invariant.skipSpace both.2) p.visible_skipSpace kind⟩
  startAt origin both here _ left _ kind :=
    ⟨by rw [origin.1, both.1], invariant.startAt origin.2 both.2 here left kind⟩
  finish both inner := ⟨by rw [both.1], invariant.finish both.2 inner⟩
  errorAt origin both _ _ _ := ⟨by rw [origin.1, both.1], invariant.errorAt both.2 _ _ _⟩
  refuse both := ⟨by rw [both.1], invariant.refuse both.2⟩
  descend both := ⟨by rw [both.1], invariant.still both.2 rfl rfl rfl⟩
  ascend both := ⟨by rw [both.1], invariant.still both.2 rfl rfl rfl⟩
  openBody both _ := ⟨by rw [both.1], invariant.still both.2 rfl rfl rfl⟩
  closeBody both := ⟨by rw [both.1], invariant.still both.2 rfl rfl rfl⟩

/-- What holds when the template is opened holds when all tokens have been read, just before it is
closed. -/
theorem parse {stream : TokenStream} {limits : ParseLimits}
    (begun : holds ((ofStream stream limits).start .template)) :
    ∃ q : Parser, holds q ∧ q.stream = stream ∧ stream.size ≤ q.position ∧
      q.builder.opened.length = 1 ∧ (stream.parse limits).tree = q.builder.finishNode.finish := by
  let p := ofStream stream limits
  have untouched : p.skipSpace.builder = p.builder := takeSpace_builder rfl _
  have read := invariant.coupling.outer.keeps_items_of_template (linked ⟨rfl, begun⟩)
  have ended := p.remaining_template
  have single := read.left.length_opened (invariant.within begun)
  obtain ⟨shapes, reads⟩ := read.left
  have source := reads.stream.trans p.reads_skipSpace.stream
  refine ⟨_, read.now.2, source, ?_, single.trans ?_,
    congrArg ParsedTemplate.tree (close_of_ended ended)⟩
  · have within : stream.size = _ := congrArg TokenStream.size source.symm
    rw [within]
    exact Nat.sub_eq_zero_iff_le.1 ended
  · rw [Parser.start, untouched]
    rfl

end TreeInvariant
end Parser
end Stencil
