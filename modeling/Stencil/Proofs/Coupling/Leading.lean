import Stencil.Proofs.Coupling.Space
import Stencil.Proofs.Coupling.Template
import Stencil.Proofs.Parser.Answers
/-!
# Streams that go on

One stream may end where another goes on. As long as the shorter one has tokens left the parsers of
both find the same items (`LeadingCoupling`). A body that the end of the shorter stream cuts off is
reported. So statements that are read without a report there are read in the same way on the other
side, and when the parser of the shorter stream comes to its end, the other one has come there too
in the middle of its own stream (`LeadingCoupling.exists_linked_items`).
-/

namespace Stencil
namespace Parser

/-! ### Reports -/

/-- Since an earlier moment no report was taken back, and reaching the limit on nesting was
reported. -/
structure Since (o p : Parser) : Prop where
  within : p.builder.opened ≠ []
  reports : o.reports ≤ p.reports
  deep : p.depthReported = true → o.depthReported = true ∨ o.reports < p.reports

section

variable {o p q : Parser}

/-- A parser with an open node has come no further than it is. -/
theorem since_refl (within : p.builder.opened ≠ []) : p.Since p := ⟨within, Nat.le_refl _, .inl⟩

/-- If nothing is reported now, nothing was reported before. -/
theorem Since.silent (since : o.Since p) (quiet : p.reports = 0) : o.reports = 0 :=
  Nat.le_zero.1 (quiet ▸ since.reports)

/-- With one more report nothing was taken back. -/
theorem Since.report (since : o.Since p) (within : q.builder.opened ≠ [])
    (reports : q.reports = p.reports + 1) : o.Since q := by
  have more : o.reports < q.reports := by
    rw [reports]
    exact Nat.lt_succ_of_le since.reports
  exact ⟨within, Nat.le_of_lt more, fun _ => .inr more⟩

/-- Without a further report nothing was taken back. -/
theorem Since.still (since : o.Since p) (within : q.builder.opened ≠ [])
    (reports : q.reports = p.reports) (deep : q.depthReported = p.depthReported) : o.Since q :=
  ⟨within, reports ▸ since.reports, by rw [reports, deep]; exact since.deep⟩

/-- White space loses none of the open nodes. -/
theorem Since.skipSpace (since : o.Since p) : o.Since p.skipSpace :=
  since.still ((growing_skipSpace p).opened_ne_nil since.within) p.reports_skipSpace
    p.depthReported_skipSpace

/-- A token that is taken closes none of the open nodes. -/
theorem Since.bump (since : o.Since p) : o.Since p.bump :=
  since.still ((growing_bump p).opened_ne_nil since.within) p.reports_bump p.depthReported_bump

/-- A report closes none of the open nodes. -/
theorem Since.errorAt (since : o.Since p) (offset : Nat) (fault : SyntaxFault) (message : String) :
    o.Since (p.errorAt offset fault message) := by
  refine since.report ?_ (p.reports_errorAt offset fault message)
  rw [Parser.errorAt]
  split
  · exact since.within
  · exact since.within

/-- A refused level closes none of the open nodes. -/
theorem Since.refuse (since : o.Since p) : o.Since p.refuse := by
  rw [Parser.refuse]
  split
  · exact since
  · have marked : o.reports ≤ ({ p with depthReported := true } : Parser).reports := since.reports
    have more := reports_error { p with depthReported := true } .maxRecursionDepth
      ("Nesting deeper than " ++ toString p.limits.depth ++ " levels")
    refine since.report ?_ more
    rw [Parser.error, Parser.errorAt]
    split
    · exact since.within
    · exact since.within

/-- A parser goes on in the same way as itself, and takes nothing back. -/
theorem coupling_since (o : Parser) : Coupling (fun p q => q = p ∧ o.Since p) where
  current? both := by rw [both.1]
  next? both := by rw [both.1]
  nextMode? both := by rw [both.1]
  levels both := by rw [both.1]
  awaited both := by rw [both.1]
  within both := both.2.within
  skipSpace both := ⟨by rw [both.1], both.2.skipSpace⟩
  bump both := ⟨by rw [both.1], both.2.bump⟩
  start both kind := ⟨by rw [both.1], both.2.skipSpace.still (List.cons_ne_nil _ _) rfl rfl⟩
  startAt {_ _ p _} origin both _ _ _ _ kind := by
    refine ⟨by rw [origin.1, both.1], both.2.still ?_ rfl rfl⟩
    exact List.ne_nil_of_length_pos (by rw [length_opened_startAt]; exact Nat.succ_pos _)
  finish both inner := ⟨by rw [both.1], both.2.still (opened_finish_ne_nil inner) rfl rfl⟩
  errorAt origin both _ _ _ := ⟨by rw [origin.1, both.1], both.2.errorAt _ _ _⟩
  refuse both := ⟨by rw [both.1], both.2.refuse⟩
  descend both := ⟨by rw [both.1], both.2.still both.2.within rfl rfl⟩
  ascend both := ⟨by rw [both.1], both.2.still both.2.within rfl rfl⟩
  openBody both _ := ⟨by rw [both.1], both.2.still both.2.within rfl rfl⟩
  closeBody both := ⟨by rw [both.1], both.2.still both.2.within rfl rfl⟩

variable (levels : Nat) (opener closer : Keyword)

/-- An item of content closes none of the nodes open before it. -/
theorem Since.contentItem (since : o.Since p) :
    o.Since (contentItem (statementWithin levels) p) :=
  have c := (coupling_since o).outer
  (c.keeps_contentItem (c.keeps_statementWithin levels) (linked ⟨rfl, since⟩)).now.2

/-- A body closes none of the nodes open before it. -/
theorem Since.body (since : o.Since p) (times : Nat) :
    o.Since (body (statementWithin levels) opener closer times p).2 :=
  have c := (coupling_since o).outer
  (c.linked_bodyUpTo (c.keeps_statementWithin levels) (linked ⟨rfl, since⟩) opener closer
    times).2.now.2

/-- Reading branches takes nothing back, and ends where a body would stop. -/
theorem Since.branches (since : o.Since p) (times : Nat) {stop : BodyStop}
    (stops : stop = .exhausted ∨ p.bodyStop? opener closer = some stop) :
    let found := branches (statementWithin levels) opener closer times stop p
    o.Since found.2 ∧ (found.1 = .exhausted ∨ found.2.bodyStop? opener closer = some found.1) :=
  have c := (coupling_since o).outer
  have both := c.linked_branchesUpTo (c.keeps_statementWithin levels)
    (past_statementWithin levels) (linked ⟨rfl, since⟩) opener closer stops times
  ⟨both.2.1.now.2, both.2.2⟩

/-- Reading the tag of a keyword takes nothing back. -/
theorem Since.keywordTag (since : o.Since p) (tag : p.current? = some (.delimiter .blockStart))
    {keyword : Keyword} (next : p.nth? 1 = some (.keyword keyword)) (kind : NodeKind) :
    o.Since (Parser.tag kind (some (.keyword keyword)) p) :=
  ((coupling_since o).outer.keeps_keywordTag (linked ⟨rfl, since⟩) tag next kind).now.2

/-- Reading the items of a template takes nothing back. -/
theorem Since.items (since : o.Since p) :
    o.Since (p.loop (fun p => p.current?.isSome) item) := by
  have c := (coupling_since o).outer
  exact (linked_loop (linked ⟨rfl, since⟩) (fun _ seen => seen) (fun _ seen => seen)
    (fun r s both => by rw [both.1]) (fun _ seen => past_item seen) (fun _ seen => past_item seen)
    fun _ _ both _ => c.keeps_item both).now.2

end

/-- An item is read with the levels that are left. -/
theorem item_eq (p : Parser) : p.item = contentItem (statementWithin p.levels) p := rfl

/-- After the branches of a body at the end of the input there is nothing left. -/
theorem branches_exhausted (statement : Step) (opener closer : Keyword) (times : Nat) (p : Parser) :
    branches statement opener closer times .exhausted p = (.exhausted, p) := by
  cases times <;> rfl

/-! ### As long as nothing is reported -/

/-- A relation between parsers of which one may come to its end earlier. Before that they find the
same items and read them in the same way. -/
structure LeadingCoupling (twin : Parser → Parser → Prop) : Prop extends TagCoupling twin where
  itemKind? {p q : Parser} (both : twin p q) (some : p.current?.isSome) : q.itemKind? = p.itemKind?
  text {o o' p q : Parser} (both : Linked twin o o' p q) (plain : p.itemKind? = some .text) :
    Linked twin o o' p.text q.text

namespace LeadingCoupling

variable {twin : Parser → Parser → Prop} (c : LeadingCoupling twin) {o o' p q r s : Parser}

/-- Statements that keep parsers coupled from their tag on if nothing is reported. -/
def Quiet (twin : Parser → Parser → Prop) (statement : Step) : Prop :=
  ∀ ⦃o o' p q : Parser⦄, Linked twin o o' p q → p.current? = some (.delimiter .blockStart) →
    (statement p).reports = 0 → Linked twin o o' (statement p) (statement q)

/-- What a body has come to when it was not cut off by the end and nothing is reported. -/
structure Whole (found : BodyStop × Parser) : Prop where
  stops : found.1 ≠ .exhausted
  quiet : found.2.reports = 0

/-- Bodies that stop for the same reason on both sides. -/
structure LinkedStops (twin : Parser → Parser → Prop) (o o' : Parser)
    (one two : BodyStop × Parser) : Prop where
  reason : two.1 = one.1
  now : Linked twin o o' one.2 two.2

section

include c

/-- Before the end bodies stop for the same reason on both sides. -/
theorem bodyStop? (both : twin p q) (more : p.current?.isSome) (opener closer : Keyword) :
    q.bodyStop? opener closer = p.bodyStop? opener closer :=
  c.bodyStop?_of_itemKind? both (c.itemKind? both more) opener closer

/-- Where text begins something else than a start delimiter is found. -/
theorem linked_contentItem {statement : Step} (each : Quiet twin statement)
    (both : Linked twin o o' p q) (more : p.current?.isSome)
    (quiet : (contentItem statement p).reports = 0) :
    Linked twin o o' (contentItem statement p) (contentItem statement q) := by
  have same := c.itemKind? both.now more
  obtain ⟨kind, current⟩ := Option.isSome_iff_exists.1 more
  have plain (free : Grammar.isPlain kind = true) : p.itemKind? = some .text := by
    rw [Parser.itemKind?, current, Option.map_some, if_pos free]
  rw [contentItem_eq] at quiet
  rw [contentItem_eq, contentItem_eq, same]
  refine both_ite Iff.rfl (fun tag => ?_) fun noTag =>
    both_ite Iff.rfl (fun tag => c.variableTag both ((itemKind?_eq_some rfl).1 tag))
      fun noValue => both_ite Iff.rfl
        (fun note => c.comment both ((itemKind?_eq_some rfl).1 note)) fun noNote =>
          both_ite Iff.rfl (fun _ => both) fun _ => c.text both (plain ?_)
  · rw [if_pos tag] at quiet
    exact each both ((itemKind?_eq_some rfl).1 tag) quiet
  · rw [itemKind?_eq_some rfl, current, Option.some_inj] at noTag noValue noNote
    simp [Grammar.isPlain, noTag, noValue, noNote]

section

variable {levels : Nat} (each : Quiet twin (statementWithin levels)) (opener closer : Keyword)

include each

/-- A body that is whole is read in the same way. -/
theorem linked_body (both : Linked twin o o' p q)
    (whole : Whole (body (statementWithin levels) opener closer (p.remaining + 1) p)) :
    LinkedStops twin o o' (body (statementWithin levels) opener closer (p.remaining + 1) p)
      (body (statementWithin levels) opener closer (q.remaining + 1) q) := by
  have free := unhindered_body (past_statementWithin levels) opener closer
  obtain ⟨times, left, right⟩ := Correspondence.exists_bound (p := p) (q := q) free free
    (Nat.le_refl _) (Nat.le_refl _)
  rw [left] at whole
  rw [left, right]
  clear left right
  induction times generalizing p q with
  | zero => exact absurd rfl whole.stops
  | succ times ih =>
    rw [body] at whole
    rw [body, body]
    by_cases more : p.current?.isSome
    swap
    · have ended : p.bodyStop? opener closer = some .exhausted := by
        rw [Parser.bodyStop?, Option.not_isSome_iff_eq_none.1 more]
      rw [ended] at whole
      exact absurd rfl whole.stops
    rw [c.bodyStop? both.now more]
    cases reason : p.bodyStop? opener closer with
    | some stop => exact ⟨rfl, both⟩
    | none =>
      rw [reason] at whole
      have first := (since_refl (c.within both.now)).contentItem levels
      have silent := ((since_refl first.within).body levels opener closer times).silent whole.quiet
      exact ih (c.linked_contentItem each both more silent) whole

/-- Branches after which the body is whole are read in the same way. -/
theorem linked_branches (both : Linked twin o o' p q) {stop : BodyStop}
    (begins : stop = .exhausted ∨ p.bodyStop? opener closer = some stop)
    (whole : Whole (branches (statementWithin levels) opener closer (p.remaining + 1) stop p)) :
    LinkedStops twin o o'
      (branches (statementWithin levels) opener closer (p.remaining + 1) stop p)
      (branches (statementWithin levels) opener closer (q.remaining + 1) stop q) := by
  have free := unhindered_branches (growing_statementWithin levels) opener closer stop
  obtain ⟨times, left, right⟩ := Correspondence.exists_bound (p := p) (q := q) free free
    (Nat.le_refl _) (Nat.le_refl _)
  rw [left] at whole
  rw [left, right]
  clear left right free
  induction times generalizing p q stop with
  | zero => exact ⟨rfl, both⟩
  | succ times ih =>
    cases stop with
    | branch keyword =>
      obtain ⟨seen, next⟩ := of_bodyStop?_branch (begins.resolve_left (by rintro ⟨⟩))
      have opened := c.linked_keywordContents both seen next keyword.node
      rw [branches] at whole
      rw [branches, branches]
      dsimp only at whole ⊢
      generalize tagContents (some (.keyword keyword)) (p.start keyword.node) = r
        at opened whole ⊢
      generalize tagContents (some (.keyword keyword)) (q.start keyword.node) = s at opened ⊢
      have further := bodyStop?_body (statementWithin levels) opener closer (r.remaining + 1) r
      have read := grows_node (opened.left.trans
        (growing_body (growing_statementWithin levels) opener closer (r.remaining + 1) r))
      have later := (since_refl (read.opened_ne_nil (c.within both.now))).branches levels opener
        closer times further
      have inside : Whole (body (statementWithin levels) opener closer (r.remaining + 1) r) := by
        refine ⟨fun ended => whole.stops ?_, later.1.silent whole.quiet⟩
        rw [ended, branches_exhausted]
      have items := c.linked_body each opener closer opened.here inside
      have closed := c.node keyword.node both fun _ => opened.trans items.now
      rw [items.reason]
      exact ih closed further whole
    | ended => exact ⟨rfl, both⟩
    | outer => exact ⟨rfl, both⟩
    | exhausted => exact ⟨rfl, both⟩

omit c each in
/-- If nothing is reported a body has an end tag. -/
theorem ended_of_quiet {opener closer : Keyword} {offset : Nat} {stop : BodyStop}
    (within : p.builder.opened ≠ [])
    (stops : stop = .exhausted ∨ p.bodyStop? opener closer = some stop)
    (quiet : (endTag opener closer offset stop p.closeBody).reports = 0) :
    stop = .ended ∧ p.reports = 0 ∧ p.current? = some (.delimiter .blockStart) ∧
      p.nth? 1 = some (.keyword closer) := by
  rw [endTag] at quiet
  by_cases ended : stop = .ended
  · rw [if_pos ended] at quiet
    rw [ended] at stops
    obtain ⟨tag, next⟩ := of_bodyStop?_ended (stops.resolve_left (by rintro ⟨⟩))
    have begun : p.closeBody.Since p.closeBody := since_refl within
    have read := begun.keywordTag (show p.closeBody.current? = _ from tag)
      (show p.closeBody.nth? 1 = _ from next) .endTag
    exact ⟨ended, read.silent quiet, tag, next⟩
  · rw [if_neg ended, reports_errorAt] at quiet
    contradiction

/-- A statement with a body is read in the same way if nothing is reported. -/
theorem quiet_bodyStatement (both : Linked twin o o' p q)
    (tag : p.current? = some (.delimiter .blockStart))
    (next : p.nth? 1 = some (.keyword opener))
    (quiet : (bodyStatement (statementWithin levels) opener closer p).reports = 0) :
    Linked twin o o' (bodyStatement (statementWithin levels) opener closer p)
      (bodyStatement (statementWithin levels) opener closer q) := by
  have opened := c.linked_keywordContents both tag next opener.node
  rw [bodyStatement] at quiet
  rw [bodyStatement, bodyStatement]
  dsimp only at quiet ⊢
  refine c.node opener.node both fun _ => ?_
  generalize tagContents (some (.keyword opener)) (p.start opener.node) = r at opened quiet ⊢
  generalize tagContents (some (.keyword opener)) (q.start opener.node) = s at opened ⊢
  have begun := linked (c.openBody opened.now (.keyword closer))
  have items := c.linked_body each opener closer begun
  have stops := bodyStop?_body (statementWithin levels) opener closer
    ((r.openBody (.keyword closer)).remaining + 1) (r.openBody (.keyword closer))
  have read := (since_refl (c.within begun.now)).body levels opener closer
    ((r.openBody (.keyword closer)).remaining + 1)
  generalize body (statementWithin levels) opener closer
    ((r.openBody (.keyword closer)).remaining + 1) (r.openBody (.keyword closer)) = found
    at items stops read quiet ⊢
  generalize body (statementWithin levels) opener closer
    ((s.openBody (.keyword closer)).remaining + 1) (s.openBody (.keyword closer)) = found'
    at items ⊢
  obtain ⟨later, ends⟩ := (since_refl read.within).branches levels opener closer
    (found.2.remaining + 1) stops
  have rest := fun whole => c.linked_branches each opener closer (items whole).now stops
  have cut (exhausted : found.1 = .exhausted) : (branches (statementWithin levels) opener closer
      (found.2.remaining + 1) found.1 found.2).1 = .exhausted := by
    rw [exhausted, branches_exhausted]
  generalize branches (statementWithin levels) opener closer (found.2.remaining + 1) found.1
    found.2 = last at later ends rest cut quiet ⊢
  obtain ⟨ended, silent, arrived⟩ := ended_of_quiet later.within ends quiet
  have whole : Whole found := by
    refine ⟨fun exhausted => ?_, later.silent silent⟩
    have cut := cut exhausted
    rw [ended] at cut
    contradiction
  obtain ⟨reason, closed⟩ := rest whole ⟨by rw [ended]; rintro ⟨⟩, silent⟩
  rw [(items whole).reason, reason]
  exact c.linked_endTag both.now (c.closing _ opened closed) fun _ => arrived

end

/-- Statements keep parsers coupled, with any number of levels left, if nothing is reported. -/
theorem quiet_statementWithin (levels : Nat) : Quiet twin (statementWithin levels) := by
  induction levels with
  | zero =>
    intro o o' p q both tag _
    rw [statementWithin, statementWithin, c.opensBody? both.now tag]
    cases opens : p.opensBody? with
    | none => exact c.keeps_plainStatement both tag
    | some found =>
      have seen := sees_refuse p
      exact c.keeps_keywordTag (c.keeps_refuse both) (seen.current?.trans tag)
        (seen.next?.trans (Swap.next?_of_opensBody? opens)) _
  | succ levels ih =>
    intro o o' p q both tag quiet
    rw [statementWithin] at quiet
    rw [statementWithin, statementWithin, c.opensBody? both.now tag]
    cases opens : p.opensBody? with
    | none => exact c.keeps_plainStatement both tag
    | some found =>
      rw [opens] at quiet
      exact c.deeper both fun inside =>
        c.quiet_bodyStatement ih found.1 found.2 inside tag (Swap.next?_of_opensBody? opens) quiet

/-- If nothing is reported, the parser of the stream that goes on has read the items of the other
one, and goes on from there. -/
theorem exists_linked_items (both : Linked twin o o' p q)
    (quiet : (p.loop (fun p => p.current?.isSome) item).reports = 0) :
    ∃ s, Linked twin o o' (p.loop (fun p => p.current?.isSome) item) s ∧
      q.loop (fun p => p.current?.isSome) item = s.loop (fun p => p.current?.isSome) item := by
  induction count : p.remaining using Nat.strongRecOn generalizing p q with
  | _ count ih =>
    by_cases more : p.current?.isSome
    · have other : q.current?.isSome = true := by
        rw [← itemKind?_isSome, c.itemKind? both.now more, itemKind?_isSome, more]
      have fewer := (past_item more).remaining_lt more
      have goes {r : Parser} (some : r.current?.isSome) :=
        loop_of_test (fun _ seen => seen) (fun _ seen => past_item seen) (q := r) some
      rw [goes more] at quiet ⊢
      rw [goes other]
      have first : p.Since p.item := (since_refl (c.within both.now)).contentItem p.levels
      have silent := (since_refl first.within).items.silent quiet
      have read : Linked twin o o' p.item q.item := by
        rw [item_eq, item_eq, c.levels both.now]
        exact c.linked_contentItem (c.quiet_statementWithin p.levels) both more silent
      exact ih _ (by omega) read quiet rfl
    · have ended : (fun p : Parser => p.current?.isSome) p = false := eq_false_of_ne_true more
      rw [loop_of_not ended]
      exact ⟨q, both, rfl⟩

end

end LeadingCoupling
end Parser
end Stencil
