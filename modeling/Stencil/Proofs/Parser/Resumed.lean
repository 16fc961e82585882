import Stencil.Proofs.Lexer.Spelling
import Stencil.Proofs.Parser.Coverage
/-!
# Parsing from a restart point

A stream that is read from a restart point may begin within a tag, and then with white space. White
space at the start stands before any node, so that the tree does not have it. As the lexer reads all
space at once (`Lexer.Fills.not_space_succ`) this is one token, and it is all that can be lost
(`TokenStream.restartPoint_parse`).
-/

namespace Stencil
namespace Scan

variable {m : Marks} {mode : Mode} {lineStart rawPending : Bool} {rest : List UInt8}

/-- White space goes on as far as there is space. -/
theorem expression_space (some : rest ≠ [])
    (space : (expression mode rawPending rest).kind = .whitespace) :
    expression mode rawPending rest =
      ⟨.whitespace, spanOf (isTagSpace mode) rest, mode, rawPending⟩ := by
  obtain ⟨first, tail, rfl⟩ := List.exists_cons_of_ne_nil some
  have blank := expression_whitespace space
  unfold expression
  dsimp only
  rw [if_pos blank]

/-- Whatever the mode is, it stays after white space, which goes on as far as there is space. -/
theorem next_space (some : rest ≠ [])
    (space : (next m mode lineStart rawPending rest).kind = .whitespace) :
    (next m mode lineStart rawPending rest).mode = mode ∧
      (next m mode lineStart rawPending rest).width = spanOf (isTagSpace mode) rest := by
  have gives := (next_rule m mode lineStart rawPending rest).gives
  rw [space] at gives
  rcases gives.among (by decide) with rfl | rfl | rfl
  · simp only [next, blockTag] at space ⊢
    split at space
    · contradiction
    next within =>
      rw [if_neg within, expression_space some space]
      exact ⟨rfl, rfl⟩
  · simp only [next, variableTag] at space ⊢
    split at space
    · contradiction
    next within =>
      rw [if_neg within, expression_space some space]
      exact ⟨rfl, rfl⟩
  · simp only [next, lineStatement] at space ⊢
    split at space
    · contradiction
    next within =>
      rw [if_neg within, expression_space some space]
      exact ⟨rfl, rfl⟩

end Scan

namespace Lexer

variable {lexer : Lexer} {stream : TokenStream}

/-- No two tokens of white space stand side by side. -/
theorem Fills.not_space_succ (fills : lexer.Fills stream) {place : Nat}
    (space : stream.kindAt? place = some .whitespace) :
    stream.kindAt? (place + 1) ≠ some .whitespace := by
  intro also
  have within {place : Nat} (found : stream.kindAt? place = some .whitespace) :
      (lexer.ahead place).rest ≠ [] ∧ (lexer.ahead place).scan.kind = .whitespace := by
    have inside := (stream.kindAt?_isSome place).1 (by rw [found]; rfl)
    rw [fills.kindAt?_eq inside] at found
    exact ⟨(fills.lt_size_iff place).1 inside, Option.some.inj found⟩
  obtain ⟨here, first⟩ := within space
  obtain ⟨there, second⟩ := within also
  obtain ⟨mode, width⟩ := Scan.next_space here first
  have onward : (lexer.ahead (place + 1)).mode = (lexer.ahead place).mode := by
    rw [ahead, step_of_some here]
    exact mode
  have rest : (lexer.ahead (place + 1)).rest =
      (lexer.ahead place).rest.dropWhile (Scan.isTagSpace (lexer.ahead place).mode) := by
    rw [ahead, step_of_some here, Scan.dropWhile_eq_drop, ← width]
    rfl
  obtain ⟨next, tail, begins⟩ := List.exists_cons_of_ne_nil there
  rw [scan, begins, onward] at second
  have blank := Scan.next_whitespace second
  have stops := List.head?_dropWhile_not (Scan.isTagSpace (lexer.ahead place).mode)
    (lexer.ahead place).rest
  rw [← rest, begins] at stops
  have solid : Scan.isTagSpace (lexer.ahead place).mode next = false := by simpa using stops
  rw [blank] at solid
  contradiction

end Lexer

namespace TokenStream

/-- The number of tokens that a parse of the stream loses. -/
def lost (stream : TokenStream) : Nat := if stream.kindAt? 0 = some .whitespace then 1 else 0

variable {lexer : Lexer} {stream : TokenStream}

/-- The parser begins behind the first token if that is white space. -/
theorem visible_zero (fills : lexer.Fills stream) : stream.visible 0 = stream.lost := by
  rw [lost]
  split
  next space =>
    rw [stream.visible_of_space space,
      stream.visible_of_not_space (fills.not_space_succ space)]
  next solid => exact stream.visible_of_not_space solid

/-- What a lexer reads is parsed into a template whose leaves are the tokens in order, but for one
of white space at the start. -/
theorem tokensOf_parse (fills : lexer.Fills stream) (limits : ParseLimits) :
    let tree := (stream.parse limits).tree
    tree.kind? tree.root = some .template ∧
      tree.tokensOf tree.root = List.range' stream.lost (stream.size - stream.lost) := by
  obtain ⟨shapes, leaves, drawn, places⟩ := stream.exists_draws_parse limits
  have tokens := (stream.parse limits).tree.tokensOf_eq_leaves drawn (Nat.le_of_eq places.symm)
  rw [Shape.leaves, leaves, visible_zero fills] at tokens
  exact ⟨SyntaxTree.kind?_of_draws _ drawn, tokens⟩

/-- The leaves are all tokens unless the first one is white space. -/
theorem range'_lost_eq_iff (stream : TokenStream) :
    List.range' stream.lost (stream.size - stream.lost) = List.range stream.size ↔
      stream.kindAt? 0 ≠ some .whitespace := by
  rw [lost]
  split
  next space =>
    have inside := (stream.kindAt?_isSome 0).1 (by rw [space]; rfl)
    refine ⟨fun same => ?_, fun solid => absurd space solid⟩
    have length := congrArg List.length same
    rw [List.length_range', List.length_range] at length
    omega
  next solid =>
    rw [Nat.sub_zero, List.range_eq_range']
    exact ⟨fun _ => solid, fun _ => rfl⟩

variable {source : String} {d : Delimiters} {limit : Nat}

/-- Reading never restarts within a block tag. -/
theorem restartPoint_ne_blockTag (read : ofSource source d limit = .ok stream) {index offset : Nat}
    {mode : Mode} (point : stream.restartPoint index = .ok (offset, mode)) : mode ≠ .blockTag := by
  have inside : index < stream.size := by
    rw [restartPoint] at point
    split at point
    next inside => exact inside
    · contradiction
  obtain ⟨-, -, fills⟩ := ofSource_eq_ok_iff.1 read
  obtain ⟨place, -, restart, free⟩ := restartPoint_eq fills inside
  obtain ⟨-, rfl⟩ := Prod.mk.inj (Except.ok.inj (point.symm.trans restart))
  rcases free with rfl | outside
  · -- A source begins between tags.
    change Mode.template ≠ .blockTag
    decide
  · exact outside

/-- A variable tag with space around the name in it. -/
def spacedTag : TokenStream :=
  ⟨"\x7b\x7b a \x7d\x7d", #[⟨.delimiter .variableStart, 0, 2⟩, ⟨.whitespace, 2, 3⟩,
    ⟨.identifier, 3, 4⟩, ⟨.whitespace, 4, 5⟩, ⟨.delimiter .variableEnd, 5, 7⟩],
    #[.template, .variableTag, .variableTag, .variableTag, .variableTag], .template⟩

/-- What is read from a restart point of a stream is parsed into a template with its tokens as the
leaves in order, but for white space at the start. The leaves are all of its tokens, and the tree
covers it, exactly if it does not begin with white space; this can only be within a variable tag or
a line statement. -/
theorem restartPoint_parse (read : ofSource source d limit = .ok stream) {index offset : Nat}
    {mode : Mode} (point : stream.restartPoint index = .ok (offset, mode)) {more : Nat}
    {resumed : TokenStream}
    (again : ofRange source offset source.utf8ByteSize mode d more = .ok resumed)
    (limits : ParseLimits) :
    let tree := (resumed.parse limits).tree
    tree.kind? tree.root = some .template ∧
      tree.tokensOf tree.root = List.range' resumed.lost (resumed.size - resumed.lost) ∧
      (tree.tokensOf tree.root = List.range resumed.size ↔
        resumed.kindAt? 0 ≠ some .whitespace) ∧
      (tree.coverage resumed = .ok () ↔ resumed.kindAt? 0 ≠ some .whitespace) ∧
      (resumed.kindAt? 0 = some .whitespace → mode = .variableTag ∨ mode = .lineStatement) := by
  intro tree
  obtain ⟨forward, within⟩ := range_of_ofRange again
  obtain ⟨-, -, fills⟩ := (ofRange_eq_ok_iff forward within).1 again
  obtain ⟨root, tokens⟩ := tokensOf_parse fills limits
  have all : tree.tokensOf tree.root = List.range resumed.size ↔
      resumed.kindAt? 0 ≠ some .whitespace := by
    rw [tokens]
    exact resumed.range'_lost_eq_iff
  refine ⟨root, tokens, all, (tree.coverage_eq_ok_iff resumed).trans all, fun space => ?_⟩
  have some := (fills.lt_size_iff 0).1 ((resumed.kindAt?_isSome 0).1 (by rw [space]; rfl))
  rw [fills.kindAt?_eq ((fills.lt_size_iff 0).2 some)] at space
  have blank : (Lexer.ofRange source offset source.utf8ByteSize mode d).scan.kind = .whitespace :=
    Option.some.inj space
  have gives := (Lexer.ofRange source offset source.utf8ByteSize mode d).scan_rule.gives
  rw [blank] at gives
  rcases gives.among (by decide) with block | value | statement
  · exact absurd block (restartPoint_ne_blockTag read point)
  · exact .inl value
  · exact .inr statement

/-- From the name on. -/
theorem restartPoint_parse_name :
    let resumed := spacedTag.onward 2
    ofSource spacedTag.source {} = .ok spacedTag ∧
      spacedTag.restartPoint 2 = .ok (3, .variableTag) ∧
      ofRange spacedTag.source 3 spacedTag.source.utf8ByteSize .variableTag {} = .ok resumed ∧
      (resumed.parse {}).tree.tokensOf (resumed.parse {}).tree.root = List.range 3 := by
  intro resumed
  have read : ofSource spacedTag.source {} = .ok spacedTag := by decide +kernel
  have point : spacedTag.restartPoint 2 = .ok (3, .variableTag) := by decide
  have again : ofRange spacedTag.source 3 spacedTag.source.utf8ByteSize .variableTag {} =
      .ok resumed := by decide +kernel
  exact ⟨read, point, again, (restartPoint_parse read point again {}).2.2.1.2 (by decide)⟩

/-- From the space before it on. The tree does not have the space. -/
theorem restartPoint_parse_space :
    let resumed := spacedTag.onward 1
    ofSource spacedTag.source {} = .ok spacedTag ∧
      spacedTag.restartPoint 1 = .ok (2, .variableTag) ∧
      ofRange spacedTag.source 2 spacedTag.source.utf8ByteSize .variableTag {} = .ok resumed ∧
      (resumed.parse {}).tree.tokensOf (resumed.parse {}).tree.root = [1, 2, 3] ∧
      (resumed.parse {}).tree.tokensOf (resumed.parse {}).tree.root ≠ List.range resumed.size ∧
      (resumed.parse {}).tree.coverage resumed = .error (.wrongCount 3 4) := by
  intro resumed
  have again : ofRange spacedTag.source 2 spacedTag.source.utf8ByteSize .variableTag {} =
      .ok resumed := by decide +kernel
  obtain ⟨-, -, fills⟩ := (ofRange_eq_ok_iff (by decide) (Nat.le_refl _)).1 again
  have tokens : (resumed.parse {}).tree.tokensOf (resumed.parse {}).tree.root = [1, 2, 3] :=
    (tokensOf_parse fills {}).2.trans (by decide)
  refine ⟨by decide +kernel, by decide +kernel, again, tokens, ?_, ?_⟩
  · rw [tokens]
    decide
  · rw [SyntaxTree.coverage, tokens]
    rfl

end TokenStream
end Stencil
