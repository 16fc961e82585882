import Stencil.Proofs.Containment.Entering
/-!
# Tags and text side by side

Outside of the tag that differs, and across it, the parsers stay abreast: a tag is read up to the
token that closes it on both sides, since no token before that stops the parser. In the tag that
differs the parsers part and meet again behind the closing token.
-/

namespace Stencil

open Stencil.Parser Correspondence

namespace Parser

/-- From its start delimiter on a tag is read up to the token that closes it, with all tokens in
between. -/
theorem reads_across {stream : TokenStream} {low high : Nat} {closer : TokenKind} {p q : Parser}
    (window : stream.Window low high closer) (closed : stream.kindAt? high = some closer)
    (here : p.stream.visible p.position = p.position)
    (seen : p.current?.isSome) {holds : Findings → Prop}
    (confined : Confined stream low high holds p.bump q)
    (arrived : q.current? = some closer ∨ q.current? = none) :
    ∃ inside, p.Reads (q.skip closer) (.token p.position :: (inside ++ [.token high])) ∧
      Shape.leavesAll inside = List.range' (p.position + 1) (high - (p.position + 1)) ∧
      (q.skip closer).position = high + 1 ∧ (q.skip closer).findings = q.findings := by
  obtain ⟨shapes, inside⟩ := confined.grows
  obtain ⟨opened, begins, -⟩ := bump_of_visible here seen
  rw [current?_eq, confined.source] at arrived
  have stops := window.visible_eq confined.after confined.before arrived
  have at_ : q.isAt closer = true := by
    rw [isAt_iff, current?_eq, confined.source, stops]
    exact closed
  have spaced := q.reads_skipSpace
  have position : q.skipSpace.position = high := by
    rw [q.skipSpace_position, confined.source, stops]
  obtain ⟨taken, ends, told⟩ := bump_of_visible q.visible_skipSpace
    ((sees_skipSpace q).current? ▸ isSome_of_isAt at_)
  have same : q.skipSpace.bump = q.bump := by rw [bump, bump, skipSpace_skipSpace]
  rw [same, position] at taken ends
  rw [same, findings_skipSpace] at told
  have between := inside.trans spaced
  have leaves := between.leaves
  rw [begins, position] at leaves
  rw [skip_eq, if_pos at_]
  exact ⟨shapes ++ Shape.tokens q.position (q.stream.visible q.position - q.position),
    opened.trans (between.trans taken), leaves, ends, told⟩

end Parser

namespace Swap

variable {swap : Swap} {o o' p q later other : Parser}

/-! ### The tag that differs -/

/-- Parsers that stand at the opening token of the tag do so on both sides. -/
theorem position_eq (abreast : swap.outside.Abreast p q) (here : p.position = swap.opening) :
    q.position = swap.opening := by
  have place := abreast.place
  have order := swap.tag.opening_lt
  have ordered := swap.tag.ordered
  rw [here] at place
  rcases place with ⟨same, -⟩ | ⟨behind, -⟩
  · exact same.symm
  · omega

/-- The opening token is not white space. -/
theorem visible_opening : swap.left.visible swap.opening = swap.opening := by
  apply swap.left.visible_of_not_space
  rcases swap.kindAt?_opening with opens | opens
  · rw [opens]
    rintro ⟨⟩
  · rw [opens]
    rintro ⟨⟩

/-- Parsers that stand at the opening token see it. -/
theorem at_opening (abreast : swap.outside.Abreast p q) (here : p.position = swap.opening) :
    (p.stream.visible p.position = p.position ∧ p.current?.isSome) ∧
      q.stream.visible q.position = q.position ∧ q.current?.isSome := by
  have source : p.stream = swap.left := abreast.left
  have source' : q.stream = swap.right := abreast.right
  have solid := @visible_opening swap
  have seen : p.current?.isSome := by
    rw [current?_eq, source, here, solid, TokenStream.kindAt?_isSome]
    exact Nat.lt_of_lt_of_le swap.tag.opening_lt
      (Nat.le_trans swap.tag.ordered (Nat.le_of_lt swap.tag.inside))
  have solid' := swap.splice.visible_before (solid.symm ▸ swap.tag.opening_lt)
  refine ⟨⟨?_, seen⟩, ?_, ?_⟩
  · rw [source, here, solid]
  · rw [source', position_eq abreast here, solid', solid]
  · rw [abreast.current? swap.lawful]
    exact seen

/-- Behind the closing token the parsers are abreast again. -/
theorem Apart.arrive {closer : TokenKind} (apart : swap.Apart p.bump q.bump later other)
    (closes : swap.left.closerAt? swap.opening = some closer)
    (abreast : swap.outside.Abreast p q) (here : p.position = swap.opening)
    (arrived : later.current? = some closer ∨ later.current? = none)
    (arrived' : other.current? = some closer ∨ other.current? = none) :
    swap.outside.Follows p q (later.skip closer) (other.skip closer) := by
  obtain ⟨window, window'⟩ := swap.windows closes
  obtain ⟨_, found, closed⟩ := swap.tag.closes
  obtain rfl := Option.some.inj (closes.symm.trans found)
  have closed' := (swap.splice.kindAt?_after 0).trans closed
  have also := position_eq abreast here
  obtain ⟨⟨at_, seen⟩, at_', seen'⟩ := at_opening abreast here
  obtain ⟨inside, reads, leaves, position, told⟩ :=
    reads_across window closed at_ seen apart.left arrived
  obtain ⟨inside', reads', leaves', position', told'⟩ :=
    reads_across window' closed' at_' seen' apart.right arrived'
  rw [here] at reads leaves
  rw [also] at reads' leaves'
  refine ⟨⟨reads.stream.trans abreast.left, reads'.stream.trans abreast.right, ?_, ?_, ?_, ?_, ?_⟩,
    _, _, reads, reads', alike_hole ⟨inside, inside', rfl, leaves, rfl, leaves'⟩⟩
  · rw [position, position']
    exact .inr ⟨Nat.lt_succ_self _, by omega⟩
  · rw [reads.limits, reads'.limits, abreast.limits]
  · rw [reads.depth, reads'.depth, abreast.depth]
  · rw [reads.awaited, reads'.awaited, abreast.awaited]
  · rw [told, told']
    exact apart.right.holds

/-- A variable tag that differs is crossed. -/
theorem cross_variableTag (abreast : swap.outside.Abreast p q)
    (here : p.stream.visible p.position = swap.opening)
    (opens : swap.left.kindAt? swap.opening = some (.delimiter .variableStart)) :
    swap.outside.Follows p q p.variableTag q.variableTag := by
  rw [variableTag_eq, variableTag_eq]
  apply abreast.node swap.lawful
  have opened := abreast.start swap.lawful .variableTag
  have at_ : (p.start .variableTag).position = swap.opening :=
    p.skipSpace_position.trans here
  have first := (swap.tag.first_of_variable opens).symm
  obtain ⟨⟨solid, -⟩, solid', -⟩ := at_opening opened at_
  rw [opened.left, at_] at solid
  rw [opened.right, position_eq opened at_] at solid'
  have before : swap.Before (p.start .variableTag) (q.start .variableTag) := by
    refine ⟨opened.left, opened.right, opened.limits, opened.depth, opened.record, ?_, ?_⟩
    · rw [at_]
      exact (congrArg (· + 1) solid).trans first
    · rw [position_eq opened at_]
      exact (congrArg (· + 1) solid').trans first
  have closes : swap.left.closerAt? swap.opening = some (.delimiter .variableEnd) := by
    rw [TokenStream.closerAt?, opens]
  have shallow : SyntaxFault.missingVariableEnd ≠ .maxRecursionDepth := by decide
  have inside := (before.bump.step inStep_expression).approach closes shallow
    "Expected variable end delimiter"
  exact inside.arrive closes opened at_ (current?_approach _ _ _ _) (current?_approach _ _ _ _)

/-- What a tag that is no variable tag ends with. -/
def terminator (p : Parser) : TokenKind :=
  if p.nextMode? = some .lineStatement then .newline else .delimiter .blockEnd

/-- What is in a tag is its header and what is in the way of its end, up to that end. -/
theorem tagContents_eq (first : Option TokenKind) (p : Parser) : tagContents first p =
    ((header first p.bump).approach (terminator p) .missingBlockEnd
      "Expected block end delimiter").skip (terminator p) := terminate_eq _ _

/-- Any other tag that differs is crossed from its start delimiter on. -/
theorem cross_tagContents (abreast : swap.outside.Abreast p q)
    (here : p.position = swap.opening)
    (opens : swap.left.kindAt? swap.opening = some (.delimiter .blockStart)) :
    swap.outside.Follows p q (tagContents (p.nth? 1) p) (tagContents (p.nth? 1) q) := by
  have source : p.stream = swap.left := abreast.left
  have first := (swap.tag.first_of_block opens).symm
  have first' : swap.right.visible (swap.opening + 1) + 1 = swap.first := by
    rw [swap.splice.visible_before (first ▸ Nat.lt_succ_self _), first]
  have unmarked : swap.opening + 1 < swap.first := by
    have ahead := swap.left.le_visible (swap.opening + 1)
    omega
  obtain ⟨⟨solid, seen⟩, solid', seen'⟩ := at_opening abreast here
  obtain ⟨reads, position, told⟩ := bump_of_visible solid seen
  obtain ⟨reads', position', told'⟩ := bump_of_visible solid' seen'
  rw [here] at position
  rw [position_eq abreast here] at position'
  have before : swap.Before p.bump q.bump := by
    refine ⟨reads.stream.trans abreast.left, reads'.stream.trans abreast.right, ?_, ?_, ?_, ?_, ?_⟩
    · rw [reads.limits, reads'.limits, abreast.limits]
    · rw [reads.depth, reads'.depth, abreast.depth]
    · rw [told, told']
      exact abreast.record
    · rw [position, first]
    · rw [position', first']
  have closes : swap.left.closerAt? swap.opening = some (terminator p) := by
    rw [TokenStream.closerAt?, opens, terminator, nextMode?_eq, solid, source, here]
  have same : terminator q = terminator p := by
    rw [terminator, terminator, nextMode?_eq, nextMode?_eq, solid, solid', source, here,
      position_eq abreast here, abreast.right]
    exact congrArg (fun mode : Option Mode => if mode = some .lineStatement then TokenKind.newline
      else .delimiter .blockEnd) (swap.splice.modeAfter?_before unmarked)
  have entered := before.header unmarked
  rw [current?_bump seen] at entered
  have inside := entered.approach closes (by decide : SyntaxFault.missingBlockEnd ≠
    .maxRecursionDepth) "Expected block end delimiter"
  rw [tagContents_eq, tagContents_eq, same]
  exact inside.arrive closes abreast here (current?_approach _ _ _ _) (current?_approach _ _ _ _)

/-! ### Other tags -/

/-- A parser at a token is at a token of that kind in its stream. -/
theorem kindAt?_of_abreast (abreast : swap.outside.Abreast p q) {kind : TokenKind}
    (seen : p.current? = some kind) :
    swap.left.kindAt? (p.stream.visible p.position) = some kind := by
  rw [current?_eq, abreast.left] at seen
  rw [abreast.left]
  exact seen

/-- A token that is no start delimiter is taken. -/
theorem next_of_kind (abreast : swap.outside.Abreast p q) {kind : TokenKind}
    (here : p.current? = some kind) (other : kind ≠ .delimiter .variableStart)
    (other' : kind ≠ .delimiter .blockStart) : swap.outside.Follows p q p.bump q.bump := by
  apply abreast.bump_of_next swap.lawful (Option.isSome_of_eq_some here)
  apply swap.beside_next (abreast.visible swap.lawful)
  exact swap.ne_opening (kindAt?_of_abreast abreast here) other other'

/-- The token that closes a tag is taken if it is there. -/
theorem follows_skip {closer : TokenKind} (first : swap.outside.Follows o o' p q)
    (other : closer ≠ .delimiter .variableStart) (other' : closer ≠ .delimiter .blockStart) :
    swap.outside.Follows o o' (p.skip closer) (q.skip closer) := by
  rw [skip_eq, skip_eq]
  refine first.ifAt swap.lawful (fun here => first.trans ?_) first
  exact next_of_kind first.abreast ((isAt_iff p _).1 here) other other'

/-- The modes after corresponding tokens are the same, but for the opening one. -/
theorem modeAfter?_eq {i j : Nat} (same : swap.outside.place i j) (other : i ≠ swap.opening) :
    swap.right.modeAfter? j = swap.left.modeAfter? i := by
  rcases swap.beside_cases same with ⟨rfl, front⟩ | ⟨count, -, rfl, rfl⟩
  · have order := swap.tag.opening_lt
    exact swap.splice.modeAfter?_before (by omega)
  · exact swap.splice.modeAfter?_after count

/-- The parsers see the same mode after the token at which they are. -/
theorem nextMode?_of_abreast (abreast : swap.outside.Abreast p q)
    (other : p.stream.visible p.position ≠ swap.opening) : q.nextMode? = p.nextMode? := by
  have same := modeAfter?_eq (abreast.visible swap.lawful) other
  rw [nextMode?_eq, nextMode?_eq, abreast.left, abreast.right]
  rw [abreast.left, abreast.right] at same
  exact same

/-- From a start delimiter other than that of the tag that differs the parsers go on in a window up
to what closes it. -/
theorem enter_window {closer : TokenKind} (abreast : swap.outside.Abreast p q)
    (solid : p.stream.visible p.position = p.position) (other : p.position ≠ swap.opening)
    (closes : swap.left.closerAt? p.position = some closer) (seen : p.current?.isSome) :
    swap.outside.Follows p q p.bump q.bump ∧ ∃ high,
      swap.left.Window (p.position + 1) high closer ∧
      (swap.outside.within (p.position + 1) high).Abreast p.bump q.bump := by
  have first : swap.outside.Follows p q p.bump q.bump := by
    apply abreast.bump_of_next swap.lawful seen
    apply swap.beside_next (abreast.visible swap.lawful)
    rwa [solid]
  obtain ⟨high, order, loose, closed⟩ := swap.delimited closes
  obtain ⟨-, position, -⟩ := bump_of_visible solid seen
  exact ⟨first, high, ⟨loose, closed, TokenStream.isStructural_of_closerAt? closes⟩,
    first.abreast.within (Nat.le_of_eq position.symm) (position ▸ order)⟩

end Swap
end Stencil
