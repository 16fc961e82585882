import Stencil.Proofs.Containment.Recovery
import Stencil.Proofs.Outline.Basic
/-!
# Every template has an outline

The items of a template, the items and branches of bodies and the statements themselves are read
into outlines. The bodies that a parser is in, and the levels it has left, are the same before and
after each of them (`Inside`), so that by induction on the levels every statement is outlined, and
with it every template (`TokenStream.parse_outlined`).
-/

namespace Stencil

/-- A keyword that a body awaits closes one. -/
theorem isCloser_of_awaited {stack : List Keyword} {keyword : Keyword}
    (awaited : AwaitedBy stack keyword) : keyword.isCloser = true := by
  obtain ⟨_, -, paired⟩ := awaited
  exact Parser.isCloser_of_closer? paired

/-- A block tag has one first keyword. -/
theorem TokenStream.BlockAt.same {stream : TokenStream} {opening : Nat}
    {first other : Option TokenKind} (one : stream.BlockAt opening first)
    (two : stream.BlockAt opening other) : first = other := one.first.symm.trans two.first

/-- The tag at a place is none that ends or splits one of the bodies with these openers. -/
def TokenStream.Free (stream : TokenStream) (stack : List Keyword) (opening : Nat) : Prop :=
  ∀ keyword, stream.BlockAt opening (some (.keyword keyword)) →
    ¬AwaitedBy stack keyword ∧ ¬Splits stack keyword

namespace Parser

/-- The bodies that a parser is in, by their openers, and the levels that it has left. -/
structure Inside (p : Parser) (levels : Nat) (stack : List Keyword) : Prop where
  awaited : p.awaited = stack.filterMap fun opener => opener.closer?.map TokenKind.keyword
  depth : p.depth = stack.length
  levels : p.levels = levels

/-- Between two moments an outline is read, if the parser is in these bodies. -/
def Outlined (levels : Nat) (part : TokenStream.Part) (stack : List Keyword) (p q : Parser) :
    Prop :=
  p.Inside levels stack → ∀ told, p.Told told → ∃ shapes raised, p.Reads q shapes ∧
    q.Told (told ++ raised) ∧ p.stream.Outline p.limits.depth part stack p.position q.position told
      shapes raised

variable {p q r : Parser} {levels : Nat} {part : TokenStream.Part} {stack : List Keyword}
  {shapes row : List Shape} {raised reports : List Diagnostic}

/-! ### Moments of a parse -/

/-- What is read leaves a parser inside the same bodies. -/
theorem Inside.of_reads (inside : p.Inside levels stack) (reads : p.Reads q shapes) :
    q.Inside levels stack where
  awaited := reads.awaited.trans inside.awaited
  depth := reads.depth.trans inside.depth
  levels := by
    rw [Parser.levels, reads.limits, reads.depth]
    exact inside.levels

/-- What the parser awaits is what the bodies await. -/
theorem Inside.awaits (inside : p.Inside levels stack) (keyword : Keyword) :
    p.awaits (.keyword keyword) = true ↔ AwaitedBy stack keyword := by
  rw [Parser.awaits, List.contains_iff_mem, inside.awaited, List.mem_filterMap, AwaitedBy]
  refine exists_congr fun opener => and_congr_right fun _ => ?_
  rw [Option.map_eq_some_iff]
  constructor
  · rintro ⟨closer, paired, same⟩
    rw [paired, TokenKind.keyword.inj same]
  · exact fun paired => ⟨keyword, paired, rfl⟩

/-- A parser that has read nothing is where it was. -/
theorem Reads.still (reads : p.Reads q []) : q.position = p.position := by
  have none := congrArg List.length reads.leaves
  have forward := reads.forward
  rw [Shape.leavesAll, List.length_nil, List.length_range'] at none
  omega

/-- The end of a node reports nothing more. -/
theorem Told.finish {told : List Diagnostic} (has : p.Told told) : p.finish.Told told :=
  ⟨has.kept, has.counted, has.deep⟩

/-- Without a step a parser is outlined. -/
theorem outlined_refl (p : Parser) : p.Outlined levels part stack p := fun _ told has =>
  ⟨[], [], p.reads_refl, (List.append_nil told).symm ▸ has, .nil⟩

/-- Outlined stretches follow one another. -/
theorem Outlined.trans (before : p.Outlined levels part stack q)
    (after : q.Outlined levels part stack r) : p.Outlined levels part stack r := by
  intro inside told has
  obtain ⟨left, one, reads, keeps, first⟩ := before inside told has
  obtain ⟨right, two, further, holds, second⟩ := after (inside.of_reads reads) _ keeps
  rw [reads.stream, reads.limits] at second
  rw [List.append_assoc] at holds
  exact ⟨left ++ right, one ++ two, reads.trans further, holds, first.append second⟩

/-- White space is outlined. -/
theorem outlined_skipSpace (p : Parser) : p.Outlined levels part stack p.skipSpace := by
  intro _ told has
  refine ⟨_, [], p.reads_skipSpace, p.raises_skipSpace told has, ?_⟩
  rw [skipSpace_position]
  exact .space

/-- What is read from the token that the parser sees is outlined with the white space before it. -/
theorem outlined_of_visible (each : p.Inside levels stack → ∀ told, p.Told told →
    ∃ shapes raised, p.skipSpace.Reads q shapes ∧ q.Told (told ++ raised) ∧
      p.stream.Outline p.limits.depth part stack (p.stream.visible p.position) q.position told
        shapes raised) : p.Outlined levels part stack q := by
  intro inside told has
  obtain ⟨shapes, raised, reads, holds, outline⟩ := each inside told has
  refine ⟨_, _, p.reads_skipSpace.trans reads, holds, ?_⟩
  exact TokenStream.Outline.append .space ((List.append_nil told).symm ▸ outline)

/-! ### Items without a body -/

/-- A variable tag or a comment is outlined. -/
theorem Makes.inline {kind : NodeKind} (makes : p.Makes q kind row raised)
    (opens : p.current?.bind TokenKind.inlineNode? = some kind) :
    p.Outlined levels .items stack q := by
  rw [current?_eq] at opens
  exact outlined_of_visible fun _ told has =>
    ⟨_, raised, makes.reads, makes.raises told has, .inline opens makes.tagged⟩

/-- A parser at the start of a block tag has one before it, named by the token after the start. -/
theorem blockAt (here : p.current? = some (.delimiter .blockStart)) :
    p.stream.BlockAt (p.stream.visible p.position) (p.nth? 1) :=
  ⟨p.current?_eq ▸ here, p.nth?_one_eq.symm⟩

/-- The parser is at the first token of a block tag. -/
theorem of_blockAt {first : Option TokenKind}
    (block : p.stream.BlockAt (p.stream.visible p.position) first) :
    p.current? = some (.delimiter .blockStart) ∧ p.nth? 1 = first :=
  ⟨p.current?_eq.trans block.opens, p.nth?_one_eq.trans block.first⟩

/-- A block tag without a body is outlined, with what is reported before it. -/
theorem Makes.plain {kind : NodeKind} (still : p.Reads q []) (reported : p.Raises q reports)
    (here : p.current? = some (.delimiter .blockStart)) (makes : q.Makes r kind row raised)
    (plain : p.Inside levels stack → ∀ told, p.Told told → TokenStream.Plain p.limits.depth stack
      p.offset told (p.nth? 1) kind reports) : p.Outlined levels .items stack r := by
  have reads := still.trans (q.reads_skipSpace.trans makes.reads)
  have tagged := makes.tagged
  have raises := reported.trans makes.raises
  rw [still.stream, still.still] at tagged reads
  intro inside told has
  refine ⟨_, _, reads, raises told has, ?_⟩
  have outline := TokenStream.Outline.plain (blockAt here)
    (p.offset_eq ▸ plain inside told has) tagged
  rw [List.nil_append, ← List.nil_append (reports ++ raised)]
  exact .append .space ((List.append_nil told).symm ▸ outline)

/-- A tag that is read as it stands is outlined. -/
theorem outlined_tag {kind : NodeKind} (here : p.current? = some (.delimiter .blockStart))
    (plain : ∀ told, TokenStream.Plain p.limits.depth stack p.offset told (p.nth? 1) kind []) :
    p.Outlined levels .items stack (tag kind (p.nth? 1) p) := by
  obtain ⟨_, _, makes⟩ := makes_tag kind here
  exact Makes.plain p.reads_refl p.raises_refl here makes fun _ told _ => plain told

/-- A tag that is read after a report is outlined. -/
theorem outlined_error {kind : NodeKind} {fault : SyntaxFault} {message : String}
    (here : p.current? = some (.delimiter .blockStart))
    (plain : ∀ told, TokenStream.Plain p.limits.depth stack p.offset told (p.nth? 1) kind
      [⟨p.offset, fault, message⟩]) :
    p.Outlined levels .items stack (tag kind (p.nth? 1) (p.error fault message)) := by
  have same := sees_error p fault message
  obtain ⟨_, _, makes⟩ := makes_tag kind (same.current?.trans here)
  rw [same.next?] at makes
  exact Makes.plain (reads_errorAt p _ _ _).1 (p.raises_error fault message) here makes
    fun _ told _ => plain told

/-- A statement whose keyword opens no body is outlined, where it ends and splits none. -/
theorem outlined_plainStatement (here : p.current? = some (.delimiter .blockStart))
    (free : p.stream.Free stack (p.stream.visible p.position)) (opens : p.opensBody? = none) :
    p.Outlined levels .items stack (plainStatement (p.nth? 1) p) := by
  have block := blockAt here
  have other (loose : ∀ keyword, p.nth? 1 ≠ some (.keyword keyword)) :
      p.Outlined levels .items stack (tag .genericBlock (p.nth? 1) p) :=
    outlined_tag here fun _ => .other loose
  cases next : p.nth? 1 with
  | none =>
    rw [next] at other
    exact other (by rintro _ ⟨⟩)
  | some kind =>
    cases kind with
    | keyword keyword =>
      rw [next] at block
      obtain ⟨unawaited, apart⟩ := free keyword block
      have bodiless : keyword.closer? = none := by
        rw [opensBody?, next] at opens
        exact Option.map_eq_none_iff.1 opens
      rw [plainStatement]
      by_cases closes : keyword.isCloser = true
      · rw [if_pos closes, ← next]
        exact outlined_error here fun _ => next ▸ .stray closes unawaited
      · rw [if_neg closes]
        by_cases branch : keyword.isBranch = true
        · rw [if_pos branch, ← next]
          exact outlined_error here fun _ => next ▸ .misplaced branch apart
        · rw [if_neg branch, ← next]
          exact outlined_tag here fun _ => next ▸ .statement bodiless (eq_false_of_ne_true closes)
            (eq_false_of_ne_true branch)
    | _ =>
      rw [next] at other
      exact other (by rintro _ ⟨⟩)

/-- A statement whose body there is no level left for is outlined. -/
theorem outlined_refuse {opener closer : Keyword} (paired : opener.closer? = some closer)
    (here : p.current? = some (.delimiter .blockStart))
    (next : p.nth? 1 = some (.keyword opener)) :
    p.Outlined 0 .items stack (tag opener.node (some (.keyword opener)) p.refuse) := by
  have same := sees_refuse p
  obtain ⟨_, _, makes⟩ := makes_tag opener.node (same.current?.trans here)
  obtain ⟨reports, raises, loud, deep⟩ := p.raises_refuse
  rw [same.next?, next] at makes
  refine Makes.plain p.reads_refuse.1 raises here makes fun inside told has => ?_
  have full : p.limits.depth ≤ stack.length := by
    have none := inside.levels
    rw [Parser.levels, inside.depth] at none
    omega
  rw [next]
  exact .refused paired full (loud told has) fun _ listed => isMismatch_of_deep (deep _ listed)

/-! ### Text -/

/-- Where no tag begins nothing closes one. -/
theorem closerAt?_of_plain (some : p.current?.isSome) (plain : p.atTagStart = false) :
    p.stream.closerAt? (p.stream.visible p.position) = none := by
  obtain ⟨kind, current⟩ := Option.isSome_iff_exists.1 some
  rw [atTagStart, atAny, current, Option.any_some] at plain
  rw [current?_eq] at current
  rw [TokenStream.closerAt?, current]
  cases kind with
  | delimiter which => cases which <;> first | rfl | contradiction
  | _ => rfl

/-- Text goes up to where a tag begins, and is outlined. -/
theorem outlined_text (p : Parser) : p.Outlined levels .items stack p.text := by
  obtain ⟨reads, raises⟩ := reads_bumps (fun p => p.current?.isSome && !p.atTagStart)
    (p.start .text)
  have opens : (p.start .text).position = p.stream.visible p.position := p.skipSpace_position
  have round (q : Parser) (before : q.stream = p.stream ∧ ∀ index, p.stream.visible p.position ≤
      index → index < q.position → p.stream.closerAt? index = none)
      (goes : (q.current?.isSome && !q.atTagStart) = true) : q.bump.stream = p.stream ∧
      ∀ index, p.stream.visible p.position ≤ index → index < q.bump.position →
        p.stream.closerAt? index = none := by
    obtain ⟨source, plain⟩ := before
    have some := isSome_of_and goes
    have last := closerAt?_of_plain some (by simpa using (Bool.and_eq_true_iff.1 goes).2)
    have taken : q.bump.stream = q.stream := (growing_bump q).ahead.stream
    refine ⟨taken.trans source, fun index after before => ?_⟩
    rw [bump_position, if_pos (q.current?_isSome_iff.1 some)] at before
    rw [source] at last before
    rcases Nat.lt_or_ge index q.position with early | late
    · exact plain index after early
    rcases Nat.lt_or_ge index (p.stream.visible q.position) with blank | solid
    · rw [TokenStream.closerAt?, TokenStream.kindAt?_before_visible late blank]
    · obtain rfl : index = p.stream.visible q.position := by omega
      exact last
  have plain := (loop_keeps round (p := p.start .text) ⟨(sees_start p .text).stream,
    fun index after before => absurd (opens ▸ before) (by omega)⟩).2
  have still : p.Raises p.text [] := ((p.raises_start .text).trans raises).still rfl rfl rfl
  have forward := reads.forward
  rw [opens] at forward reads
  exact outlined_of_visible fun _ told has =>
    ⟨_, [], reads_node reads, still told has, .text forward plain⟩

/-! ### Items and bodies -/

/-- Where nothing in the body ends or splits it, each statement is outlined. -/
def Outlining (levels : Nat) (stack : List Keyword) (statement : Step) : Prop :=
  ∀ p : Parser, p.current? = some (.delimiter .blockStart) →
    p.stream.Free stack (p.stream.visible p.position) → p.Outlined levels .items stack (statement p)

/-- An item is outlined. -/
theorem outlined_contentItem {statement : Step} (each : Outlining levels stack statement)
    (free : p.stream.Free stack (p.stream.visible p.position)) :
    p.Outlined levels .items stack (contentItem statement p) := by
  rw [contentItem]
  split
  next here => exact each p here free
  next here =>
    obtain ⟨_, _, makes⟩ := makes_variableTag here
    exact makes.inline (by rw [here]; rfl)
  next here =>
    obtain ⟨_, _, makes⟩ := makes_comment here
    exact makes.inline (by rw [here]; rfl)
  · exact outlined_text p
  · exact outlined_refl p

/-- A body that goes on is at no tag that ends it or splits it. -/
theorem Inside.free {opener closer : Keyword} (inside : p.Inside levels (opener :: stack))
    (goes : p.bodyStop? opener closer = none) :
    p.stream.Free (opener :: stack) (p.stream.visible p.position) := by
  intro keyword block
  obtain ⟨here, next⟩ := of_blockAt block
  simp only [bodyStop?, here, next] at goes
  split_ifs at goes with own apart beyond
  constructor
  · intro awaited
    exact beyond (Bool.and_eq_true_iff.2
      ⟨isCloser_of_awaited awaited, (inside.awaits keyword).2 awaited⟩)
  · rintro ⟨_, same, splits⟩
    obtain rfl := Option.some.inj same
    exact apart (List.contains_iff_mem.2 splits)

/-- Why a body has stopped where the parser is. -/
inductive Stopped (p : Parser) (opener closer : Keyword) : BodyStop → Prop where
  | ended (block : p.stream.BlockAt (p.stream.visible p.position) (some (.keyword closer))) :
    Stopped p opener closer .ended
  | branch {keyword : Keyword}
      (block : p.stream.BlockAt (p.stream.visible p.position) (some (.keyword keyword)))
      (allowed : keyword ∈ opener.branches) : Stopped p opener closer (.branch keyword)
  | outer {keyword : Keyword}
      (block : p.stream.BlockAt (p.stream.visible p.position) (some (.keyword keyword)))
      (other : keyword ≠ closer) (awaited : p.awaits (.keyword keyword) = true) :
    Stopped p opener closer .outer
  | exhausted (nothing : p.current? = none) : Stopped p opener closer .exhausted

/-- A body ends where its stop says. -/
theorem stopped {opener closer : Keyword} {stop : BodyStop}
    (stops : p.bodyStop? opener closer = some stop) : Stopped p opener closer stop := by
  rw [bodyStop?] at stops
  split at stops
  next nothing =>
    obtain rfl := Option.some.inj stops
    exact .exhausted nothing
  next here =>
    have block := blockAt here
    split at stops
    next keyword next =>
      rw [next] at block
      split_ifs at stops with own splits outer
      · obtain rfl := Option.some.inj stops
        exact .ended (own ▸ block)
      · obtain rfl := Option.some.inj stops
        exact .branch block (List.contains_iff_mem.1 splits)
      · obtain rfl := Option.some.inj stops
        exact .outer block own (Bool.and_eq_true_iff.1 outer).2
    · contradiction
  · contradiction

/-- A parser is in the same bodies once a node is opened. -/
theorem Inside.start (inside : p.Inside levels stack) (kind : NodeKind) :
    (p.start kind).Inside levels stack := by
  obtain ⟨awaited, depth, same⟩ := inside.of_reads p.reads_skipSpace
  exact ⟨awaited, depth, same⟩

section

variable {statement : Step} {opener closer : Keyword}
  (each : Outlining levels (opener :: stack) statement)
  (taking : ∀ p : Parser, p.Past (statement p))

include each taking

/-- The items of a body are outlined, up to where it stops. -/
theorem outlined_body (closer : Keyword) (p : Parser) (times : Nat)
    (enough : p.remaining + 1 ≤ times) :
    p.Outlined levels .items (opener :: stack) (body statement opener closer times p).2 ∧
      (body statement opener closer times p).2.bodyStop? opener closer =
        some (body statement opener closer times p).1 := by
  induction times generalizing p with
  | zero => omega
  | succ times ih =>
    rw [body]
    cases stops : p.bodyStop? opener closer with
    | some stop => exact ⟨outlined_refl p, stops⟩
    | none =>
      have seen : p.current?.isSome := by
        cases current : p.current? with
        | none =>
          rw [bodyStop?, current] at stops
          contradiction
        | some kind => rfl
      have fewer := (past_contentItem taking seen).remaining_lt seen
      obtain ⟨rest, ended⟩ := ih (contentItem statement p) (by omega)
      refine ⟨fun inside => ?_, ended⟩
      exact (outlined_contentItem each (inside.free stops)).trans rest inside

/-- A branch is outlined with its items. -/
theorem outlined_branch {keyword : Keyword}
    (stops : p.bodyStop? opener closer = some (.branch keyword)) :
    let opened := tagContents (some (.keyword keyword)) (p.start keyword.node)
    let found := body statement opener closer (opened.remaining + 1) opened
    p.Outlined levels .branches (opener :: stack) found.2.finish ∧
      found.2.finish.bodyStop? opener closer = some found.1 := by
  cases stopped stops with
  | branch block allowed =>
    obtain ⟨here, next⟩ := of_blockAt block
    obtain ⟨row, raised, reads, raises, tagged⟩ := reads_tagContents keyword.node here
    have opens : (p.start keyword.node).position = p.stream.visible p.position :=
      p.skipSpace_position
    rw [next, (sees_start p _).stream, opens] at tagged
    rw [next] at reads raises
    dsimp only
    generalize tagContents (some (.keyword keyword)) (p.start keyword.node) = opened
      at reads raises tagged ⊢
    obtain ⟨outlined, ended⟩ := outlined_body each taking closer opened _ (Nat.le_refl _)
    generalize body statement opener closer (opened.remaining + 1) opened = found
      at outlined ended ⊢
    refine ⟨outlined_of_visible fun inside told has => ?_, ended⟩
    obtain ⟨shapes, within, further, holds, items⟩ := outlined ((inside.start _).of_reads reads)
      _ (((p.raises_start _).trans raises) told has)
    rw [reads.stream, reads.limits, (sees_start p _).stream,
      show (p.start keyword.node).limits = p.limits from p.reads_skipSpace.limits] at items
    rw [List.append_assoc] at holds
    exact ⟨_, _, reads_node (reads.trans further), holds.finish, .branch allowed block tagged items⟩

/-- The branches of a body are outlined, up to where it stops for good. -/
theorem outlined_branches (grows : Growing statement) (times : Nat) (stop : BodyStop) (p : Parser)
    (enough : p.remaining + 1 ≤ times) (stops : p.bodyStop? opener closer = some stop) :
    let found := branches statement opener closer times stop p
    p.Outlined levels .branches (opener :: stack) found.2 ∧
      found.2.bodyStop? opener closer = some found.1 ∧ ∀ keyword, found.1 ≠ .branch keyword := by
  induction times generalizing p stop with
  | zero => omega
  | succ times ih =>
    cases stop with
    | branch keyword =>
      obtain ⟨here, -⟩ := of_bodyStop?_branch stops
      have seen : p.current?.isSome := here ▸ rfl
      have past := past_tagContents (some (.keyword keyword)) (p.start keyword.node)
      have fewer := (past.of_sees (sees_start p _)).remaining_lt seen
      obtain ⟨first, ended⟩ := outlined_branch each taking stops
      rw [branches]
      dsimp only at first ended ⊢
      generalize tagContents (some (.keyword keyword)) (p.start keyword.node) = opened
        at fewer first ended ⊢
      have items : opened.Grows (body statement opener closer (opened.remaining + 1) opened).2 :=
        growing_body grows opener closer _ opened
      have left := items.ahead.remaining_le
      have still : (body statement opener closer (opened.remaining + 1) opened).2.finish.remaining =
        (body statement opener closer (opened.remaining + 1) opened).2.remaining := rfl
      obtain ⟨rest, last⟩ := ih _ _ (by omega) ended
      exact ⟨first.trans rest, last⟩
    | ended | outer | exhausted => exact ⟨outlined_refl p, stops, by rintro _ ⟨⟩⟩

end

/-- The body that a parser is in is ended, once it is no longer open. -/
def Ends (p : Parser) (stack : List Keyword) (opener closer : Keyword) (opening : Nat)
    (stop : BodyStop) : Prop :=
  ∃ tail rest, p.closeBody.Reads
      (endTag opener closer (p.stream.offsetAt opening) stop p.closeBody) tail ∧
    p.closeBody.Raises (endTag opener closer (p.stream.offsetAt opening) stop p.closeBody) rest ∧
    p.stream.Ending stack opener closer opening p.position
      (endTag opener closer (p.stream.offsetAt opening) stop p.closeBody).position tail rest

/-- A body that stops, and at no branch, is ended. -/
theorem Stopped.ends {opener closer : Keyword} {stop : BodyStop} (opening : Nat)
    (stopped : p.Stopped opener closer stop) (inside : p.Inside levels (opener :: stack))
    (paired : opener.closer? = some closer) (final : ∀ keyword, stop ≠ .branch keyword) :
    p.Ends stack opener closer opening stop := by
  have missing {stop : BodyStop} (other : stop ≠ .ended) (halts : p.stream.Halts stack p.position)
      (own : ¬p.stream.BlockAt (p.stream.visible p.position) (some (.keyword closer))) :
      p.Ends stack opener closer opening stop := by
    obtain ⟨reads, still⟩ := reads_errorAt p.closeBody (p.stream.offsetAt opening) .unclosedBlock
      ("Unclosed '" ++ opener.spelling ++ "' block, expected '" ++ closer.spelling ++ "'")
    rw [Ends, endTag, if_neg other, still]
    exact ⟨[], _, reads, raises_errorAt _ _ _ _, .missing halts own⟩
  cases stopped with
  | ended block =>
    obtain ⟨here, next⟩ := of_blockAt block
    obtain ⟨row, raised, makes⟩ := makes_tag (p := p.closeBody) .endTag here
    rw [show p.closeBody.nth? 1 = some (.keyword closer) from next] at makes
    rw [Ends, endTag, if_pos rfl]
    exact ⟨_, _, p.closeBody.reads_skipSpace.trans makes.reads, makes.raises,
      .closed block makes.tagged⟩
  | branch => exact absurd rfl (final _)
  | @outer keyword block other awaited =>
    refine missing (by rintro ⟨⟩) (.inr ⟨keyword, block, ?_⟩) fun own => ?_
    · obtain ⟨which, listed, closes⟩ := (inside.awaits keyword).1 awaited
      rcases List.mem_cons.1 listed with rfl | further
      · exact absurd (Option.some.inj (closes.symm.trans paired)) other
      · exact ⟨which, further, closes⟩
    · exact other (TokenKind.keyword.inj (Option.some.inj (block.same own)))
  | exhausted nothing =>
    refine missing (by rintro ⟨⟩) (.inl (p.current?_eq ▸ nothing)) fun own => ?_
    rw [(of_blockAt own).1] at nothing
    contradiction

/-- In the body that a tag opens there is one level less. -/
theorem Inside.enter {opener closer : Keyword} {kind : NodeKind}
    (inside : p.Inside (levels + 1) stack) (paired : opener.closer? = some closer)
    (reads : (p.descend.start kind).Reads q row) :
    (q.openBody (.keyword closer)).Inside levels (opener :: stack) := by
  have opened := p.descend.reads_skipSpace
  have awaited : q.awaited = p.awaited := reads.awaited.trans opened.awaited
  have depth : q.depth = p.depth + 1 := reads.depth.trans opened.depth
  have limits : q.limits = p.limits := reads.limits.trans opened.limits
  have left := inside.levels
  refine ⟨?_, ?_, ?_⟩
  · rw [openBody, awaited, inside.awaited, List.filterMap_cons, paired]
    rfl
  · rw [List.length_cons, ← inside.depth]
    exact depth
  · rw [Parser.levels] at left ⊢
    change q.limits.depth - q.depth = levels
    rw [limits, depth]
    omega

/-- Inside a body there is room for another level. -/
theorem Inside.room (inside : p.Inside (levels + 1) stack) : stack.length < p.limits.depth := by
  have left := inside.levels
  rw [Parser.levels, inside.depth] at left
  omega

/-- A statement with a body is outlined, if the statements in the body are. -/
theorem outlined_bodyStatement {statement : Step} {opener closer : Keyword}
    (each : Outlining levels (opener :: stack) statement)
    (taking : ∀ p : Parser, p.Past (statement p)) (grows : Growing statement)
    (paired : opener.closer? = some closer) (here : p.current? = some (.delimiter .blockStart))
    (next : p.nth? 1 = some (.keyword opener)) :
    p.Outlined (levels + 1) .items stack
      (bodyStatement statement opener closer p.descend).ascend := by
  have block := blockAt here
  rw [next] at block
  obtain ⟨row, raised, reads, raises, tagged⟩ := reads_tagContents (p := p.descend) opener.node here
  have opens : (p.descend.start opener.node).position = p.stream.visible p.position :=
    p.descend.skipSpace_position
  have source : (p.descend.start opener.node).stream = p.stream := (sees_start p.descend _).stream
  have limits : (p.descend.start opener.node).limits = p.limits := p.descend.reads_skipSpace.limits
  have openedAt : p.descend.offset = p.stream.offsetAt (p.stream.visible p.position) :=
    p.descend.offset_eq
  have same : p.descend.nth? 1 = some (.keyword opener) := next
  have before : p.Raises (p.descend.start opener.node) [] :=
    (raises_of_same rfl rfl rfl : p.Raises p.descend []).trans (p.descend.raises_start _)
  have raises := before.trans raises
  rw [same, source, opens] at tagged
  rw [same] at reads raises
  rw [List.nil_append] at raises
  have entered (inside : p.Inside (levels + 1) stack) := inside.enter paired reads
  rw [bodyStatement, openedAt]
  dsimp only
  generalize tagContents (some (.keyword opener)) (p.descend.start opener.node) = opened
    at reads raises tagged entered ⊢
  obtain ⟨items, stopsAt⟩ := outlined_body each taking closer
    (opened.openBody (.keyword closer)) _ (Nat.le_refl _)
  generalize body statement opener closer _ (opened.openBody (.keyword closer)) = found
    at items stopsAt ⊢
  obtain ⟨splits, ended, final⟩ := outlined_branches each taking grows _ found.1 found.2
    (Nat.le_refl _) stopsAt
  generalize branches statement opener closer (found.2.remaining + 1) found.1 found.2 = last
    at splits ended final ⊢
  intro inside told has
  have has := raises told has
  obtain ⟨within, first, readsItems, keeps, outline⟩ := items (entered inside) _
    ⟨has.kept, has.counted, has.deep⟩
  obtain ⟨branches, second, readsBranches, holds, split⟩ :=
    splits ((entered inside).of_reads readsItems) _ keeps
  have readsBody := readsItems.trans readsBranches
  have later : last.2.stream = p.stream :=
    readsBody.stream.trans (reads.stream.trans source)
  obtain ⟨tail, rest, readsEnd, raisesEnd, ending⟩ := (stopped ended).ends
    (p.stream.visible p.position) ((entered inside).of_reads readsBody) paired final
  rw [later] at readsEnd raisesEnd ending
  have whole := reads_node ((reads.trans (reads_closeBody readsBody)).trans readsEnd)
  have tells := raisesEnd _ ⟨holds.kept, holds.counted, holds.deep⟩
  rw [readsItems.stream, readsItems.limits] at split
  change opened.stream.Outline opened.limits.depth _ _ opened.position _ _ _ _ at outline
  change opened.stream.Outline opened.limits.depth _ _ _ _ _ _ _ at split
  rw [reads.stream, reads.limits, source, limits] at outline split
  have body := TokenStream.Outline.body paired inside.room block tagged outline split ending
  rw [← List.append_assoc] at whole
  refine ⟨_, raised ++ first ++ second ++ rest,
    reads_ascend (p.descend.reads_skipSpace.trans whole), ?_, ?_⟩
  · simp only [← List.append_assoc]
    exact ⟨tells.kept, tells.counted, tells.deep⟩
  · rw [← List.nil_append (raised ++ first ++ second ++ rest)]
    exact .append .space ((List.append_nil told).symm ▸ body)

/-- The tag that opens a body names the keyword that closes it. -/
theorem closer?_of_opensBody? {opener closer : Keyword}
    (opens : p.opensBody? = some (opener, closer)) : opener.closer? = some closer := by
  rw [opensBody?] at opens
  split at opens
  next keyword next =>
    obtain ⟨_, paired, same⟩ := Option.map_eq_some_iff.1 opens
    obtain ⟨rfl, rfl⟩ := Prod.mk.inj same
    exact paired
  · contradiction

/-- With any number of levels left statements are outlined. -/
theorem outlining_statementWithin (levels : Nat) (stack : List Keyword) :
    Outlining levels stack (statementWithin levels) := by
  induction levels generalizing stack with
  | zero =>
    intro p here free
    rw [statementWithin]
    split
    next opener closer opens =>
      exact outlined_refuse (closer?_of_opensBody? opens) here (Swap.next?_of_opensBody? opens)
    next bodiless => exact outlined_plainStatement here free bodiless
  | succ levels ih =>
    intro p here free
    rw [statementWithin]
    split
    next opener closer opens =>
      exact outlined_bodyStatement (ih (opener :: stack)) (past_statementWithin levels)
        (growing_statementWithin levels) (closer?_of_opensBody? opens) here
        (Swap.next?_of_opensBody? opens)
    next bodiless => exact outlined_plainStatement here free bodiless

/-- Outside of all bodies an item is outlined. -/
theorem outlined_item (p : Parser) : p.Outlined levels .items [] p.item := by
  have statements : Outlining levels [] statement := fun q here free inside => by
    rw [statement, inside.levels]
    exact outlining_statementWithin levels [] q here free inside
  refine outlined_contentItem statements fun keyword _ => ⟨?_, ?_⟩
  · rintro ⟨_, listed, -⟩
    contradiction
  · rintro ⟨_, first, -⟩
    contradiction

end Parser

/-- A stream is parsed into a template that has an outline, and what is reported is that of the
outline, as much of it as may be kept. -/
theorem TokenStream.parse_outlined (stream : TokenStream) (limits : ParseLimits) :
    ∃ shapes raised,
      Draws (stream.parse limits).tree.nodes (.node (stream.parse limits).tree.root)
        (.node .template shapes) ∧
      (stream.parse limits).tree.childCount = (Shape.node .template shapes).places ∧
      Shape.leavesAll shapes =
        List.range' (stream.visible 0) (stream.size - stream.visible 0) ∧
      (stream.parse limits).diagnostics.toList = raised.take limits.diagnostics ∧
      (stream.parse limits).statistics.suppressed = raised.length - limits.diagnostics ∧
      stream.Outline limits.depth .items [] (stream.visible 0) stream.size [] shapes raised := by
  let p := Parser.ofStream stream limits
  let first := p.start .template
  let last := (first.loop (fun p => p.current?.isSome) Parser.item).skipSpace
  have items : first.Outlined first.levels .items [] last :=
    (Parser.loop_keeps (fun q before _ => before.trans (Parser.outlined_item q))
      (Parser.outlined_refl first)).trans (Parser.outlined_skipSpace _)
  have skipped := p.reads_skipSpace
  have source : first.stream = stream := skipped.stream
  have limited : first.limits = limits := skipped.limits
  have begins : first.position = stream.visible 0 := p.skipSpace_position
  have told := (p.raises_start .template) [] (Parser.told_ofStream stream limits)
  obtain ⟨shapes, raised, reads, holds, outline⟩ :=
    items ⟨skipped.awaited, skipped.depth, rfl⟩ _ told
  obtain ⟨drawn, diagnostics, suppressed⟩ := TokenStream.parse_of_reads reads
  have record := holds.kept
  have counted := holds.counted
  rw [reads.limits, limited] at record counted
  have ended : last.remaining = 0 := p.remaining_template
  refine ⟨shapes, raised, drawn, ?_, ?_, ?_, ?_, ?_⟩
  · exact (Parser.draws_of_reads reads ended).2
  · exact Parser.leaves_of_reads reads ended
  · exact (congrArg Array.toList diagnostics).trans record
  · exact suppressed.trans counted
  · rw [source, limited, begins, Parser.position_of_reads reads ended] at outline
    exact outline

end Stencil
