import Stencil.Parser.Parse
import Stencil.Proofs.Lexer.Reading
import Stencil.Proofs.Parser.Repetition
/-!
# Every token is a leaf

A template is read to the end of the stream: each item takes a token, and the node that holds them
all is closed only when none is left. So the leaves of the tree are the tokens of the stream, each
once and in order, whatever the tokens are (`parse_covers`). Only white space at the very start,
which no source begins with, would be lost, since it stands before any node.
-/

namespace Stencil
namespace Parser

/-- A loop ends where its test fails. -/
theorem loop_exits {test : Parser → Bool} {body : Step}
    (seen : ∀ q : Parser, test q = true → q.current?.isSome)
    (taken : ∀ q : Parser, test q = true → q.Past (body q)) (p : Parser) :
    test (p.loop test body) = false := by
  have exits (times : Nat) (p : Parser) (enough : p.remaining ≤ times) :
      test (repeatWhile test body times p) = false := by
    induction times generalizing p with
    | zero =>
      rw [repeatWhile, Bool.eq_false_iff]
      intro holds
      have token := seen p holds
      rw [current?_of_remaining_zero (by omega)] at token
      contradiction
    | succ times ih =>
      rw [repeatWhile]
      by_cases holds : test p = true
      · have fewer := (taken p holds).remaining_lt (seen p holds)
        rw [if_pos holds]
        exact ih (body p) (by omega)
      · rw [if_neg holds]
        simpa using holds
  exact exits p.remaining p (Nat.le_refl _)

/-- After the items of a template, and the white space after them, nothing is left. -/
theorem remaining_skipSpace_of_current?_none {p : Parser} (nothing : p.current? = none) :
    p.skipSpace.remaining = 0 := by
  rw [current?_eq, TokenStream.kindAt?_eq_none] at nothing
  rw [remaining, skipSpace_position, p.reads_skipSpace.stream]
  omega

/-- A template is read to the end. -/
theorem remaining_template (p : Parser) : p.template.remaining = 0 := by
  apply remaining_skipSpace_of_current?_none
  simpa using loop_exits (fun _ seen => seen) (fun _ seen => past_item seen) (p.start .template)

/-- With nothing left the parse is closed as it stands. -/
theorem close_of_ended {p : Parser} (ended : p.remaining = 0) :
    p.close = ⟨p.builder.finish, p.diagnostics,
      ⟨p.builder.finish.size, p.maxDepth, p.diagnostics.size, p.suppressed⟩⟩ := by
  rw [close, ended]
  rfl

/-- White space before the first node is in no node. -/
theorem takeSpace_builder {p : Parser} (closed : p.builder.opened = []) (among : Nat) :
    (p.takeSpace among).builder = p.builder := by
  induction among generalizing p with
  | zero => rfl
  | succ among ih =>
    have lost : p.take.builder = p.builder := by
      rw [take]
      generalize p.builder = builder at closed
      obtain ⟨tokens, nodes, opened, lastClosed⟩ := builder
      obtain rfl : opened = [] := closed
      rfl
    rw [takeSpace]
    split
    · rw [ih (by rw [lost]; exact closed), lost]
    · rfl

/-- What is read between the opening of a first node and the end of the stream becomes the tree. -/
theorem draws_close {p q : Parser} {kind : NodeKind} {shapes : List Shape}
    (bare : p.skipSpace.builder.nodes = #[]) (closed : p.skipSpace.builder.opened = [])
    (reading : (p.start kind).Reads q shapes) (ended : q.remaining = 0) :
    Draws q.finish.close.tree.nodes (.node q.finish.close.tree.root) (.node kind shapes) ∧
      q.finish.close.tree.childCount = (Shape.node kind shapes).places := by
  rw [close_of_ended (show q.finish.remaining = 0 from ended)]
  exact TreeBuilder.draws_finish bare closed reading.builder

variable {stream : TokenStream} {limits : ParseLimits} {q : Parser} {shapes : List Shape}

/-- What is read from the start of a stream to its end becomes the tree of a template. -/
theorem draws_of_reads (reads : ((ofStream stream limits).start .template).Reads q shapes)
    (ended : q.remaining = 0) :
    Draws q.finish.close.tree.nodes (.node q.finish.close.tree.root) (.node .template shapes) ∧
      q.finish.close.tree.childCount = (Shape.node .template shapes).places := by
  have untouched : (ofStream stream limits).skipSpace.builder = (ofStream stream limits).builder :=
    takeSpace_builder rfl _
  exact draws_close (by rw [untouched]; rfl) (by rw [untouched]; rfl) reads ended

/-- The reading of a stream from its start to its end stops behind its last token. -/
theorem position_of_reads (reads : ((ofStream stream limits).start .template).Reads q shapes)
    (ended : q.remaining = 0) : q.position = stream.size := by
  have skipped := (ofStream stream limits).reads_skipSpace
  have source : ((ofStream stream limits).start .template).stream = stream := skipped.stream
  have below := reads.within
  rw [source] at below
  have within := below (skipped.within (Nat.zero_le _))
  rw [remaining, reads.stream, source] at ended
  omega

/-- All tokens past the white space at the start are read. -/
theorem leaves_of_reads (reads : ((ofStream stream limits).start .template).Reads q shapes)
    (ended : q.remaining = 0) :
    Shape.leavesAll shapes = List.range' (stream.visible 0) (stream.size - stream.visible 0) := by
  have begins : ((ofStream stream limits).start .template).position = stream.visible 0 :=
    (ofStream stream limits).skipSpace_position
  rw [reads.leaves, begins, position_of_reads reads ended]

end Parser

namespace TokenStream

/-- A stream is parsed into a template with its tokens as the leaves, but for white space at the
start, which is lost. -/
theorem exists_draws_parse (stream : TokenStream) (limits : ParseLimits) :
    ∃ shapes : List Shape,
      Shape.leavesAll shapes = List.range' (stream.visible 0) (stream.size - stream.visible 0) ∧
      Draws (stream.parse limits).tree.nodes (.node (stream.parse limits).tree.root)
        (.node .template shapes) ∧
      (stream.parse limits).tree.childCount = (Shape.node .template shapes).places := by
  let p := Parser.ofStream stream limits
  obtain ⟨shapes, reads⟩ : (p.start .template).Grows
      ((p.start .template).loop (fun p => p.current?.isSome) Parser.item).skipSpace :=
    (Parser.growing_loop Parser.growing_item _).step Parser.growing_skipSpace
  have ended := p.remaining_template
  exact ⟨shapes, Parser.leaves_of_reads reads ended, Parser.draws_of_reads reads ended⟩

/-- A stream is parsed into a template with the tokens of the stream as its leaves. -/
theorem draws_parse (stream : TokenStream) (limits : ParseLimits)
    (solid : stream.kindAt? 0 ≠ some .whitespace) :
    ∃ shapes : List Shape, Shape.leavesAll shapes = List.range stream.size ∧
      Draws (stream.parse limits).tree.nodes (.node (stream.parse limits).tree.root)
        (.node .template shapes) ∧
      (stream.parse limits).tree.childCount = (Shape.node .template shapes).places := by
  obtain ⟨shapes, leaves, drawn⟩ := stream.exists_draws_parse limits
  rw [stream.visible_of_not_space solid, Nat.sub_zero, ← List.range_eq_range'] at leaves
  exact ⟨shapes, leaves, drawn⟩

/-- Every repetition of the parser ends by itself. A stream that does not begin with white space,
and no stream that was read from a source does, is parsed into a template whose leaves are the
tokens of the stream in order. -/
theorem parse_covers :
    Parser.Terminating ∧
    (∀ (stream : TokenStream) (limits : ParseLimits), stream.kindAt? 0 ≠ some .whitespace →
      let tree := (stream.parse limits).tree
      tree.kind? tree.root = some .template ∧ tree.tokensOf tree.root = List.range stream.size ∧
        tree.coverage stream = .ok ()) ∧
    (∀ (source : String) (d : Delimiters) (limit : Nat) (stream : TokenStream),
      ofSource source d limit = .ok stream → stream.kindAt? 0 ≠ some .whitespace) := by
  refine ⟨Parser.every_repetition_ends, fun stream limits solid => ?_,
    fun _ _ _ _ => ofSource_kindAt?_zero⟩
  obtain ⟨shapes, leaves, drawn, places⟩ := stream.draws_parse limits solid
  have tokens := (stream.parse limits).tree.tokensOf_eq_leaves drawn (Nat.le_of_eq places.symm)
  rw [Shape.leaves, leaves] at tokens
  exact ⟨SyntaxTree.kind?_of_draws _ drawn, tokens, SyntaxTree.coverage_of_tokensOf _ stream tokens⟩

/-- Brackets that match nothing, read in modes that match nothing, are parsed like any tokens. -/
theorem parse_covers_brackets :
    let stream : TokenStream := ⟨"", #[⟨.punctuation .rightParen, 0, 1⟩, ⟨.whitespace, 7, 3⟩,
      ⟨.delimiter .blockEnd, 2, 2⟩], #[.raw], .comment⟩
    stream.kindAt? 0 ≠ some .whitespace ∧
      (stream.parse {}).tree.coverage stream = .ok () :=
  ⟨by decide, (parse_covers.2.1 _ {} (by decide)).2.2⟩

end TokenStream
end Stencil
