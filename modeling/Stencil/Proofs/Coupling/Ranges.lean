import Stencil.Proofs.Coupling.Invariant
import Stencil.Proofs.Lexer.Delimited
import Stencil.Proofs.Tree.Ranges
/-!
# Nodes lie where they were read

Over a stream that tiles its source a parser keeps all nodes where their children lie, up to the
offset that it is at (`Laid`). Nodes without children are the ones to look at: a node is opened past
white space, and a node opened at a checkpoint has children unless nothing was read since.
-/

namespace Stencil
namespace TokenStream

/-- A token starts at its offset and ends at that of the next. -/
theorem Tiled.offsetAt {stream : TokenStream} (tiled : stream.Tiled) {index : Nat} {token : Token}
    (found : stream.tokens[index]? = some token) :
    stream.offsetAt index = token.start ∧ stream.offsetAt (index + 1) = token.stop := by
  have listed := found
  rw [← Array.getElem?_toList] at listed
  have next := (Tiles.next tiled listed).2
  rw [Array.getElem?_toList] at next
  exact ⟨by rw [TokenStream.offsetAt, found]; rfl, next⟩

/-- The first token starts with the source. -/
theorem Tiled.offsetAt_zero {stream : TokenStream} (tiled : stream.Tiled) :
    stream.offsetAt 0 = 0 := by
  have first := Tiles.head tiled
  rwa [Array.getElem?_toList] at first

end TokenStream

namespace Parser

/-- All nodes lie where their children do, up to where the parser is. -/
structure Laid (p : Parser) : Prop where
  tiled : p.stream.Tiled
  tokens : p.builder.tokens = p.stream.tokens
  within : p.builder.opened ≠ []
  settled : p.builder.Settled (p.stream.offsetAt p.position)

variable {o p q : Parser}

/-- What leaves tokens, position and tree alone moves nothing. -/
theorem Laid.still (laid : p.Laid) (stream : q.stream = p.stream)
    (position : q.position = p.position) (builder : q.builder = p.builder) : q.Laid where
  tiled := stream ▸ laid.tiled
  tokens := by rw [builder, stream, laid.tokens]
  within := builder ▸ laid.within
  settled := by rw [builder, stream, position]; exact laid.settled

/-- The token at the position becomes a leaf where it lies. -/
theorem Laid.take (laid : p.Laid) (inside : p.position < p.stream.size) : p.take.Laid := by
  obtain ⟨token, found⟩ : ∃ token, p.stream.tokens[p.position]? = some token :=
    ⟨_, Array.getElem?_eq_getElem inside⟩
  obtain ⟨start, stop⟩ := laid.tiled.offsetAt found
  have known := found
  rw [← laid.tokens] at known
  have settled := laid.settled.token laid.within known start.symm
  rw [← stop] at settled
  obtain ⟨innermost, outer, opened⟩ := List.exists_cons_of_ne_nil laid.within
  obtain ⟨_, _, tokens, -, still, -⟩ := p.builder.gains_token p.position _ _ opened
  exact ⟨laid.tiled, tokens.trans laid.tokens, still ▸ List.cons_ne_nil _ _, settled⟩

/-- A parser that sees the token at its position is at the offset of that token. -/
theorem offset_of_visible (here : p.stream.visible p.position = p.position) :
    p.offset = p.stream.offsetAt p.position := by
  rw [offset_eq, here]

/-- A node opened at a token is laid out like those before it. -/
theorem Laid.start (laid : p.Laid) (here : p.stream.visible p.position = p.position)
    (kind : NodeKind) : Laid { p with builder := p.builder.start kind p.offset } := by
  have begun := laid.settled.start kind
  rw [← offset_of_visible here] at begun
  refine ⟨laid.tiled, laid.tokens, List.cons_ne_nil _ _, ?_⟩
  change (p.builder.start kind p.offset).Settled (p.stream.offsetAt p.position)
  rw [← offset_of_visible here]
  exact begun

/-- A node opened at a checkpoint past white space lies where what it takes over does. Where it
takes over nothing no token has been read since, so that it begins at the parser's offset. -/
theorem Laid.startAt (origin : o.Laid) (laid : p.Laid)
    (here : o.stream.visible o.position = o.position) (growth : o.Grows p) (kind : NodeKind) :
    (p.startAt o.builder.checkpoint kind).Laid := by
  obtain ⟨shapes, reads⟩ := growth
  have still (none : shapes = []) : p.offset = p.stream.offsetAt p.position := by
    have leaves := reads.leaves
    rw [none, Shape.leavesAll, eq_comm, List.range'_eq_nil_iff] at leaves
    have unmoved : p.position = o.position := by
      have forward := reads.forward
      omega
    apply offset_of_visible
    rw [reads.stream, unmoved, here]
  have settled := origin.settled.startAt origin.within reads.builder laid.settled kind still
  have length := p.length_opened_startAt o.builder.checkpoint kind
  refine ⟨laid.tiled, ?_, ?_, settled⟩
  · obtain ⟨_, _, _, ⟨_, _, opened, _⟩, _⟩ := p
    have tokens := laid.tokens
    cases opened with
    | nil => exact tokens
    | cons innermost outer =>
      simp only [Parser.startAt, TreeBuilder.startAt]
      split <;> exact tokens
  · exact List.ne_nil_of_length_pos (by omega)

/-- A node closed inside another is laid out like those before it. -/
theorem Laid.finish (laid : p.Laid) (inner : 2 ≤ p.builder.opened.length) : p.finish.Laid := by
  refine ⟨laid.tiled, ?_, opened_finish_ne_nil inner, laid.settled.finishNode inner⟩
  obtain ⟨innermost, outer, opened⟩ := List.exists_cons_of_ne_nil laid.within
  have tokens := laid.tokens
  obtain ⟨_, _, _, ⟨_, _, _, _⟩, _⟩ := p
  obtain rfl := opened
  cases outer with
  | nil => exact tokens
  | cons => exact tokens

/-- Being laid out is kept by all that builds a tree. -/
theorem treeInvariant_laid : TreeInvariant Laid where
  within laid := laid.within
  still laid := laid.still
  take laid := laid.take
  start laid := laid.start
  startAt origin laid := origin.startAt laid
  finish laid := laid.finish

end Parser

namespace TokenStream

/-- In the tree of a stream that tiles its source the children of every node lie one after another
over its range, the root covers the source, and every other node has a parent. -/
theorem placed_parse (stream : TokenStream) (limits : ParseLimits) (tiled : stream.Tiled)
    (solid : stream.kindAt? 0 ≠ some .whitespace) :
    let tree := (stream.parse limits).tree
    Placed stream.tokens tree.nodes ∧
      (∃ root, tree.nodes[tree.root]? = some root ∧ root.start = 0 ∧
        root.stop = stream.source.utf8ByteSize) ∧
      ∀ id < tree.nodes.size, id = tree.root ∨ ∃ parent > id, .node id ∈ tree.children parent := by
  intro tree
  let p := Parser.ofStream stream limits
  have unmoved : p.skipSpace = p := Parser.skipSpace_of_solid solid
  have begun : (p.start .template).Laid := by
    have at_ : p.offset = 0 := by
      rw [Parser.offset_of_visible (stream.visible_of_not_space solid)]
      exact tiled.offsetAt_zero
    rw [Parser.start, unmoved, at_]
    refine ⟨tiled, rfl, List.cons_ne_nil _ _, fun id node found => ?_, ?_,
      fun id inside => absurd inside (Nat.not_lt_zero id)⟩
    · exact absurd found (by simp [Parser.ofStream, TreeBuilder.start, TreeBuilder.empty, p])
    change Spine _ _ _ (stream.offsetAt 0)
    rw [tiled.offsetAt_zero]
    exact .cons (.nil 0) (fun _ => rfl) .nil
  obtain ⟨q, laid, source, ended, single, closed⟩ := Parser.treeInvariant_laid.parse begun
  have stop : q.stream.offsetAt q.position = stream.source.utf8ByteSize := by
    rw [source, TokenStream.offsetAt, Array.getElem?_eq_none ended]
    rfl
  have settled := laid.settled
  rw [stop] at settled
  have finished := settled.finish single
  rw [laid.tokens, source, ← closed] at finished
  exact finished

end TokenStream
end Stencil
