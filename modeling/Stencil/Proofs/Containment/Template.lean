import Stencil.Proofs.Containment.Tag
import Stencil.Proofs.Parser.Templates
/-!
# Templates side by side

By induction on the levels of nesting the parsers are abreast after every statement, and so after
every template: bodies stop at the same tags on both sides, since what the tag that differs begins
with is kept.
-/

namespace Stencil

open Stencil.Parser Correspondence

namespace Parser

/-! ### Where bodies stop -/

/-- A body that stops at its end tag is at that tag. -/
theorem of_bodyStop?_ended {opener closer : Keyword} {p : Parser}
    (stops : p.bodyStop? opener closer = some .ended) :
    p.current? = some (.delimiter .blockStart) ∧ p.nth? 1 = some (.keyword closer) := by
  rw [bodyStop?] at stops
  split at stops
  · cases stops
  next seen =>
    refine ⟨seen, ?_⟩
    split at stops
    next keyword next =>
      by_cases ends : keyword = closer
      · rw [next, ends]
      · rw [if_neg ends] at stops
        split at stops
        · cases stops
        · split at stops <;> cases stops
    · cases stops
  · cases stops

/-- A body that stops at a branch is at its tag. -/
theorem of_bodyStop?_branch {opener closer keyword : Keyword} {p : Parser}
    (stops : p.bodyStop? opener closer = some (.branch keyword)) :
    p.current? = some (.delimiter .blockStart) ∧ p.nth? 1 = some (.keyword keyword) := by
  rw [bodyStop?] at stops
  split at stops
  · cases stops
  next seen =>
    refine ⟨seen, ?_⟩
    split at stops
    next other next =>
      split at stops
      · cases stops
      · split at stops
        · rw [next]
          obtain rfl := BodyStop.branch.inj (Option.some.inj stops)
          rfl
        · split at stops <;> cases stops
    · cases stops
  · cases stops

/-- A body stops for the reason that it gives, unless there is nothing more. -/
theorem bodyStop?_body (statement : Step) (opener closer : Keyword) (times : Nat) (p : Parser) :
    (body statement opener closer times p).1 = .exhausted ∨
      (body statement opener closer times p).2.bodyStop? opener closer =
        some (body statement opener closer times p).1 := by
  induction times generalizing p with
  | zero => exact .inl rfl
  | succ times ih =>
    rw [body]
    cases stops : p.bodyStop? opener closer with
    | some stop => exact .inr stops
    | none => exact ih _

end Parser

namespace Swap

variable {swap : Swap} {o o' p q later other : Parser}

/-! ### Content -/

/-- Text is read alike outside of the tag. -/
theorem follows_text (abreast : swap.outside.Abreast p q) :
    swap.outside.Follows p q p.text q.text := by
  refine abreast.node swap.lawful ((abreast.start swap.lawful .text).refl.loop swap.lawful
    (fun _ => isSome_of_and) (fun r s same => ?_) (fun r _ => past_bump r) (fun r _ => past_bump r)
    fun r s both going => both.trans ?_)
  · rw [atTagStart, atTagStart, atAny, atAny, same]
  · rw [Bool.and_eq_true, Bool.not_eq_true'] at going
    obtain ⟨kind, seen⟩ := Option.isSome_iff_exists.1 going.1
    have plain := going.2
    rw [atTagStart, atAny, seen] at plain
    refine next_of_kind both.abreast seen ?_ ?_
    · rintro rfl
      contradiction
    · rintro rfl
      contradiction

/-- A variable tag is read alike outside of the tag, or is the tag. -/
theorem follows_variableTag (abreast : swap.outside.Abreast p q)
    (seen : p.current? = some (.delimiter .variableStart)) :
    swap.outside.Follows p q p.variableTag q.variableTag := by
  have opens := kindAt?_of_abreast abreast seen
  -- The tag that differs is crossed; in any other the parsers stay abreast in its window.
  by_cases here : p.stream.visible p.position = swap.opening
  · exact cross_variableTag abreast here (here ▸ opens)
  rw [variableTag_eq, variableTag_eq]
  apply abreast.node swap.lawful
  have at_ : (p.start .variableTag).position = p.stream.visible p.position := p.skipSpace_position
  have closes : swap.left.closerAt? (p.start .variableTag).position =
      some (.delimiter .variableEnd) := by
    rw [at_, TokenStream.closerAt?, opens]
  have token : (p.start .variableTag).current?.isSome := by
    rw [current?_start, seen]
    rfl
  obtain ⟨first, high, window, within⟩ := enter_window (abreast.start swap.lawful .variableTag)
    (p.visible_start _) (at_ ▸ here) closes token
  have lawful := swap.lawful.within window
  have shallow : SyntaxFault.missingVariableEnd ≠ .maxRecursionDepth := by decide
  have inside := (within.refl.step lawful inStep_expression).approach lawful
    (only_within window) shallow "Expected variable end delimiter"
  exact follows_skip (first.trans inside.leave) (by rintro ⟨⟩) (by rintro ⟨⟩)

/-- A comment is read alike outside of the tag. -/
theorem follows_comment (abreast : swap.outside.Abreast p q)
    (seen : p.current? = some (.delimiter .commentStart)) :
    swap.outside.Follows p q p.comment q.comment := by
  have opens := kindAt?_of_abreast abreast seen
  have here := swap.ne_opening opens (by rintro ⟨⟩) (by rintro ⟨⟩)
  have same := nextMode?_of_abreast abreast here
  have at_ : (p.start .comment).position = p.stream.visible p.position := p.skipSpace_position
  have closes : swap.left.closerAt? (p.start .comment).position =
      some (if p.nextMode? = some .lineComment then .newline else .delimiter .commentEnd) := by
    rw [at_, TokenStream.closerAt?, opens, nextMode?_eq, abreast.left]
    rfl
  have token : (p.start .comment).current?.isSome := by
    rw [current?_start, seen]
    rfl
  obtain ⟨first, high, window, within⟩ := enter_window (abreast.start swap.lawful .comment)
    (p.visible_start _) (at_ ▸ here) closes token
  have content := within.refl.upTo (swap.lawful.within window) (only_within window)
  have inside := first.trans content.leave
  rw [comment, comment, same]
  refine abreast.node swap.lawful (inside.ifAt swap.lawful (fun closed => inside.trans ?_)
    (both_ite Iff.rfl (fun _ => inside)
      fun _ => inside.error swap.lawful (by decide) "Expected comment end delimiter"))
  refine next_of_kind inside.abreast ((isAt_iff _ _).1 closed) ?_ ?_
  · split <;> rintro ⟨⟩
  · split <;> rintro ⟨⟩

/-! ### Tags -/

/-- The token after a start delimiter is of the same kind on both sides. -/
theorem next?_of_abreast (abreast : swap.outside.Abreast p q)
    (seen : p.current? = some (.delimiter .blockStart)) : q.nth? 1 = p.nth? 1 := by
  by_cases here : p.stream.visible p.position = swap.opening
  · have opens := here ▸ kindAt?_of_abreast abreast seen
    have before : swap.left.visible (swap.opening + 1) < swap.first :=
      Nat.lt_of_succ_le (Nat.le_of_eq (swap.tag.first_of_block opens).symm)
    have same : q.stream.visible q.position = swap.opening := by
      have spaced := (abreast.skipSpace swap.lawful).abreast
      have there := position_eq spaced (p.skipSpace_position.trans here)
      rwa [q.skipSpace_position] at there
    rw [nth?_one_eq, nth?_one_eq, here, same, abreast.left, abreast.right]
    change swap.right.kindAt? (swap.right.visible (swap.opening + 1)) = _
    rw [swap.splice.visible_before before]
    exact swap.splice.kindAt?_before before
  · exact abreast.next?_of_place swap.lawful
      (swap.beside_next (abreast.visible swap.lawful) here)

/-- A block tag is read alike outside of the tag, or is the tag. -/
theorem follows_tagContents (abreast : swap.outside.Abreast p q)
    (solid : p.stream.visible p.position = p.position)
    (seen : p.current? = some (.delimiter .blockStart)) :
    swap.outside.Follows p q (tagContents (p.nth? 1) p) (tagContents (p.nth? 1) q) := by
  have opens := kindAt?_of_abreast abreast seen
  rw [solid] at opens
  by_cases here : p.position = swap.opening
  · exact cross_tagContents abreast here (here ▸ opens)
  have token : p.current?.isSome := Option.isSome_of_eq_some seen
  have same : terminator q = terminator p := by
    rw [terminator, terminator, nextMode?_of_abreast abreast (solid.symm ▸ here)]
  have closes : swap.left.closerAt? p.position = some (terminator p) := by
    rw [TokenStream.closerAt?, opens, terminator, nextMode?_eq, solid, abreast.left]
    rfl
  obtain ⟨first, high, window, within⟩ := enter_window abreast solid here closes token
  have lawful := swap.lawful.within window
  have entered := within.header lawful
  rw [current?_bump token] at entered
  have shallow : SyntaxFault.missingBlockEnd ≠ .maxRecursionDepth := by decide
  have inside := entered.approach lawful (only_within window) shallow "Expected block end delimiter"
  rw [tagContents_eq, tagContents_eq, same]
  refine follows_skip (first.trans inside.leave) ?_ ?_
  · rw [terminator]
    split <;> rintro ⟨⟩
  · rw [terminator]
    split <;> rintro ⟨⟩

/-- A tag that is a node, whose first token is known. -/
theorem follows_tag (abreast : swap.outside.Abreast p q)
    (seen : p.current? = some (.delimiter .blockStart)) {first : Option TokenKind}
    (next : p.nth? 1 = first) (kind : NodeKind) :
    swap.outside.Follows p q (Parser.tag kind first p) (Parser.tag kind first q) := by
  have same := sees_start p kind
  have inside := follows_tagContents (abreast.start swap.lawful kind) (p.visible_start kind)
    (same.current?.trans seen)
  rw [same.next?.trans next] at inside
  exact abreast.node swap.lawful inside

/-! ### Bodies -/

/-- Bodies stop for the same reason on both sides. -/
theorem bodyStop?_of_abreast (abreast : swap.outside.Abreast p q) (opener closer : Keyword) :
    q.bodyStop? opener closer = p.bodyStop? opener closer := by
  rw [bodyStop?, bodyStop?, abreast.current? swap.lawful]
  split
  · rfl
  next seen =>
    rw [next?_of_abreast abreast seen]
    split
    next keyword _ => rw [awaits, awaits, abreast.awaited]
    · rfl
  · rfl

/-- A statement that leaves the parsers abreast wherever one begins. -/
def Crossing (swap : Swap) (statement : Step) : Prop :=
  ∀ ⦃p q : Parser⦄, swap.outside.Abreast p q → p.current? = some (.delimiter .blockStart) →
    swap.outside.Follows p q (statement p) (statement q)

section

variable {statement : Step} (crossing : swap.Crossing statement)

include crossing

/-- An item of content is read alike outside of the tag. -/
theorem follows_contentItem (abreast : swap.outside.Abreast p q) :
    swap.outside.Follows p q (contentItem statement p) (contentItem statement q) := by
  rw [contentItem, contentItem, abreast.current? swap.lawful]
  split
  next seen => exact crossing abreast seen
  next seen => exact follows_variableTag abreast seen
  next seen => exact follows_comment abreast seen
  · exact follows_text abreast
  · exact abreast.refl

variable (growing : Growing statement) (taking : ∀ p : Parser, p.Past (statement p))

include taking

/-- Bodies are read in step and stop for the same reason. -/
theorem follows_body (abreast : swap.outside.Abreast p q) (opener closer : Keyword) :
    (body statement opener closer (q.remaining + 1) q).1 =
        (body statement opener closer (p.remaining + 1) p).1 ∧
      swap.outside.Follows p q (body statement opener closer (p.remaining + 1) p).2
        (body statement opener closer (q.remaining + 1) q).2 := by
  have free := unhindered_body taking opener closer
  obtain ⟨times, left, right⟩ :=
    exists_bound (p := p) (q := q) free free (Nat.le_refl _) (Nat.le_refl _)
  rw [left, right]
  clear left right
  induction times generalizing p q with
  | zero => exact ⟨rfl, abreast.refl⟩
  | succ times ih =>
    rw [body, body, bodyStop?_of_abreast abreast]
    cases p.bodyStop? opener closer with
    | some stop => exact ⟨rfl, abreast.refl⟩
    | none =>
      have first := follows_contentItem crossing abreast
      obtain ⟨same, rest⟩ := ih first.abreast
      exact ⟨same, first.trans rest⟩

include growing

/-- Branches are read in step, end for the same reason, and end with that reason. -/
theorem follows_branches (abreast : swap.outside.Abreast p q) (opener closer : Keyword)
    {stop : BodyStop} (stops : stop = .exhausted ∨ p.bodyStop? opener closer = some stop) :
    let one := branches statement opener closer (p.remaining + 1) stop p
    let two := branches statement opener closer (q.remaining + 1) stop q
    two.1 = one.1 ∧ swap.outside.Follows p q one.2 two.2 ∧
      (one.1 = .exhausted ∨ one.2.bodyStop? opener closer = some one.1) := by
  have free := unhindered_branches growing opener closer stop
  obtain ⟨times, left, right⟩ :=
    exists_bound (p := p) (q := q) free free (Nat.le_refl _) (Nat.le_refl _)
  dsimp only at left right ⊢
  rw [left, right]
  clear left right free
  induction times generalizing p q stop with
  | zero => exact ⟨rfl, abreast.refl, stops⟩
  | succ times ih =>
    cases stop with
    | branch keyword =>
      obtain ⟨seen, next⟩ := of_bodyStop?_branch (stops.resolve_left (by rintro ⟨⟩))
      have same := sees_start p keyword.node
      have opened := follows_tagContents (abreast.start swap.lawful keyword.node)
        (p.visible_start keyword.node) (same.current?.trans seen)
      rw [same.next?.trans next] at opened
      obtain ⟨reason, items⟩ := follows_body crossing taking opened.abreast opener closer
      have whole := abreast.node swap.lawful (opened.trans items)
      have further := bodyStop?_body statement opener closer
        ((tagContents (some (.keyword keyword)) (p.start keyword.node)).remaining + 1)
        (tagContents (some (.keyword keyword)) (p.start keyword.node))
      obtain ⟨reason', rest, ends⟩ := ih whole.abreast further
      rw [branches, branches]
      dsimp only
      rw [reason]
      exact ⟨reason', whole.trans rest, ends⟩
    | ended => exact ⟨rfl, abreast.refl, stops⟩
    | outer => exact ⟨rfl, abreast.refl, stops⟩
    | exhausted => exact ⟨rfl, abreast.refl, stops⟩

omit crossing growing taking in
/-- The end tag, or the report that there is none, which stands where the body was opened. -/
theorem follows_endTag (abreast : swap.outside.Abreast p q) {i j : Nat}
    (place : swap.outside.place i j) {opener closer : Keyword} {stop : BodyStop}
    (ended : stop = .ended →
      p.current? = some (.delimiter .blockStart) ∧ p.nth? 1 = some (.keyword closer)) :
    swap.outside.Follows p q (endTag opener closer (swap.left.offsetAt i) stop p)
      (endTag opener closer (swap.right.offsetAt j) stop q) :=
  both_ite Iff.rfl
    (fun ends => follows_tag abreast (ended ends).1 (ended ends).2 .endTag)
    fun _ => abreast.errorAt swap.lawful place (by decide) _

/-- A statement with a body is read alike outside of the tag. -/
theorem follows_bodyStatement (abreast : swap.outside.Abreast p q)
    (seen : p.current? = some (.delimiter .blockStart)) {opener closer : Keyword}
    (next : p.nth? 1 = some (.keyword opener)) :
    swap.outside.Follows p q (bodyStatement statement opener closer p)
      (bodyStatement statement opener closer q) := by
  -- The report of a missing end tag stands where the statement began, so that place is kept.
  have place := abreast.visible swap.lawful
  have same := sees_start p opener.node
  have opened := follows_tagContents (abreast.start swap.lawful opener.node)
    (p.visible_start opener.node) (same.current?.trans seen)
  rw [same.next?.trans next] at opened
  rw [bodyStatement, bodyStatement, offset_eq, offset_eq]
  dsimp only
  generalize tagContents (some (.keyword opener)) (p.start opener.node) = one at opened ⊢
  generalize tagContents (some (.keyword opener)) (q.start opener.node) = two at opened ⊢
  obtain ⟨reason, items⟩ := follows_body crossing taking
    (opened.abreast.openBody (.keyword closer)) opener closer
  have stops := bodyStop?_body statement opener closer
    ((one.openBody (.keyword closer)).remaining + 1) (one.openBody (.keyword closer))
  generalize body statement opener closer ((one.openBody (.keyword closer)).remaining + 1)
    (one.openBody (.keyword closer)) = found at reason items stops ⊢
  generalize body statement opener closer ((two.openBody (.keyword closer)).remaining + 1)
    (two.openBody (.keyword closer)) = found' at reason items ⊢
  rw [reason]
  obtain ⟨reason', rest, ends⟩ := follows_branches crossing growing taking items.abreast opener
    closer stops
  generalize branches statement opener closer (found.2.remaining + 1) found.1 found.2 = last
    at reason' rest ends ⊢
  generalize branches statement opener closer (found'.2.remaining + 1) found.1 found'.2 = last'
    at reason' rest ⊢
  have whole := opened.trans (items.trans rest).closeBody
  have ended (ends' : last.1 = .ended) : last.2.closeBody.current? = some (.delimiter .blockStart) ∧
      last.2.closeBody.nth? 1 = some (.keyword closer) := by
    rw [ends'] at ends
    have stopped := of_bodyStop?_ended (ends.resolve_left (by rintro ⟨⟩))
    exact stopped
  have source : p.stream = swap.left := abreast.left
  have source' : q.stream = swap.right := abreast.right
  rw [reason', source, source']
  rw [source, source'] at place
  exact abreast.node swap.lawful (whole.trans (follows_endTag whole.abreast place ended))

end

/-! ### Statements -/

/-- A statement whose keyword opens no body is in step. -/
theorem crossing_plainStatement (abreast : swap.outside.Abreast p q)
    (seen : p.current? = some (.delimiter .blockStart)) :
    swap.outside.Follows p q (plainStatement (p.nth? 1) p) (plainStatement (p.nth? 1) q) := by
  have reported (message : String) (kind : NodeKind) :
      swap.outside.Follows p q (Parser.tag kind (p.nth? 1) (p.error .unexpectedToken message))
        (Parser.tag kind (p.nth? 1) (q.error .unexpectedToken message)) := by
    have same := sees_error p .unexpectedToken message
    have report := abreast.error swap.lawful (by decide : SyntaxFault.unexpectedToken ≠
      .maxRecursionDepth) message
    exact report.trans (follows_tag report.abreast (same.current?.trans seen) same.next? kind)
  cases next : p.nth? 1 with
  | none => exact follows_tag abreast seen next .genericBlock
  | some kind =>
    rw [next] at reported
    cases kind with
    | keyword keyword =>
      simp only [plainStatement]
      exact both_ite Iff.rfl (fun _ => reported _ _) fun _ =>
        both_ite Iff.rfl (fun _ => reported _ _) fun _ => follows_tag abreast seen next _
    | _ => exact follows_tag abreast seen next .genericBlock

/-- A tag that opens a body begins with a keyword. -/
theorem next?_of_opensBody? {opener closer : Keyword}
    (opens : p.opensBody? = some (opener, closer)) : p.nth? 1 = some (.keyword opener) := by
  rw [opensBody?] at opens
  split at opens
  next keyword next =>
    obtain ⟨_, -, same⟩ := Option.map_eq_some_iff.1 opens
    rw [next, (Prod.mk.inj same).1]
  · contradiction

/-- Statements are in step with any number of levels left. -/
theorem crossing_statementWithin (levels : Nat) : swap.Crossing (statementWithin levels) := by
  have sameOpens {p q : Parser} (next : q.nth? 1 = p.nth? 1) : q.opensBody? = p.opensBody? := by
    rw [opensBody?, opensBody?, next]
  induction levels with
  | zero =>
    intro p q abreast seen
    have next := next?_of_abreast abreast seen
    rw [statementWithin, statementWithin, sameOpens next, next]
    cases opens : p.opensBody? with
    | none => exact crossing_plainStatement abreast seen
    | some found =>
      have refused := abreast.refuse swap.lawful
      have same := sees_refuse p
      exact refused.trans (follows_tag refused.abreast (same.current?.trans seen)
        (same.next?.trans (next?_of_opensBody? opens)) _)
  | succ levels ih =>
    intro p q abreast seen
    have next := next?_of_abreast abreast seen
    rw [statementWithin, statementWithin, sameOpens next, next]
    cases opens : p.opensBody? with
    | none => exact crossing_plainStatement abreast seen
    | some found =>
      exact Follows.ascend (follows_bodyStatement ih (growing_statementWithin levels)
        (past_statementWithin levels) abreast.descend seen (next?_of_opensBody? opens))

/-- Statements are in step. -/
theorem crossing_statement : swap.Crossing statement := by
  intro p q abreast seen
  rw [statement, statement, abreast.levels]
  exact crossing_statementWithin p.levels abreast seen

end Swap
end Stencil
