import Stencil.Proofs.Containment.Template
import Stencil.Proofs.Coupling.Header
/-!
# Templates keep parsers coupled

Between tags a parser looks for start delimiters, and at that of a statement for its keyword. An
`OuterCoupling` agrees on these and is kept by texts, comments and tags as wholes. Bodies then stop
for the same reason on both sides, and so statements and templates keep it. A coupling is outer as
it is inner.
-/

namespace Stencil
namespace Parser

/-- The start delimiter that the parser is at, or else text. -/
def itemKind? (p : Parser) : Option TokenKind :=
  p.current?.map fun kind => if Grammar.isPlain kind then .text else kind

/-- The keyword of the tag that the parser is at. -/
def tagKeyword? (p : Parser) : Option Keyword := (p.nth? 1).bind TokenKind.keyword?

/-- A relation between parsers that know the same tags and read them in the same way. -/
structure TagCoupling (twin : Parser → Parser → Prop) : Prop
    extends BuildingCoupling twin where
  awaited {p q : Parser} (both : twin p q) : q.awaited = p.awaited
  tagKeyword? {p q : Parser} (both : twin p q)
    (tag : p.current? = some (.delimiter .blockStart)) : q.tagKeyword? = p.tagKeyword?
  openBody {p q : Parser} (both : twin p q) (closer : TokenKind) :
    twin (p.openBody closer) (q.openBody closer)
  closeBody {p q : Parser} (both : twin p q) : twin p.closeBody q.closeBody
  variableTag {o o' p q : Parser} (both : Linked twin o o' p q)
    (tag : p.current? = some (.delimiter .variableStart)) :
    Linked twin o o' p.variableTag q.variableTag
  comment {o o' p q : Parser} (both : Linked twin o o' p q)
    (note : p.current? = some (.delimiter .commentStart)) : Linked twin o o' p.comment q.comment
  tagContents {o o' p q : Parser} (both : Linked twin o o' p q)
    (tag : p.current? = some (.delimiter .blockStart)) {first first' : Option TokenKind}
    (names : first.bind TokenKind.keyword? = p.tagKeyword?)
    (names' : first'.bind TokenKind.keyword? = p.tagKeyword?) :
    Linked twin o o' (tagContents first p) (tagContents first' q)

/-- A relation between parsers that find the same items and read them in the same way. -/
structure OuterCoupling (twin : Parser → Parser → Prop) : Prop extends TagCoupling twin where
  itemKind? {p q : Parser} (both : twin p q) : q.itemKind? = p.itemKind?
  text : Keeps twin Parser.text

/-! ### What is looked for between tags -/

section

variable {p q : Parser}

/-- A start delimiter is found where it is. -/
theorem itemKind?_eq_some {mark : TokenKind} (starts : Grammar.isPlain mark = false) :
    p.itemKind? = some mark ↔ p.current? = some mark := by
  rw [itemKind?, Option.map_eq_some_iff]
  constructor
  · rintro ⟨kind, seen, rfl⟩
    cases plain : Grammar.isPlain kind with
    | true =>
      rw [plain] at starts
      contradiction
    | false =>
      rw [seen]
      rfl
  · rintro seen
    exact ⟨mark, seen, by rw [starts]; rfl⟩

/-- Nothing is found at the end alone. -/
theorem itemKind?_isSome : p.itemKind?.isSome = p.current?.isSome := Option.isSome_map

/-- Text goes on as long as nothing else is found. -/
theorem going_eq (p : Parser) :
    (p.current?.isSome && !p.atTagStart) = p.itemKind?.any fun kind => kind = .text := by
  rw [itemKind?, atTagStart, atAny]
  cases p.current? with
  | none => rfl
  | some kind =>
    change Grammar.isPlain kind = decide ((if Grammar.isPlain kind then .text else kind) = .text)
    cases plain : Grammar.isPlain kind with
    | true => rfl
    | false =>
      cases kind with
      | text => exact absurd plain (by decide)
      | _ => rfl

/-- The keyword after a tag opening is the tag's. -/
theorem tagKeyword?_eq {keyword : Keyword} (next : p.nth? 1 = some (.keyword keyword)) :
    p.tagKeyword? = some keyword := by
  rw [tagKeyword?, next]
  rfl

/-- The keyword of a tag comes right after its opening. -/
theorem nth?_one_of_tagKeyword? {keyword : Keyword} (names : p.tagKeyword? = some keyword) :
    p.nth? 1 = some (.keyword keyword) := by
  obtain ⟨kind, next, is⟩ := Option.bind_eq_some_iff.1 names
  cases kind with
  | keyword k =>
    obtain rfl := Option.some.inj is
    exact next
  | _ => contradiction

/-- A body stops by what is found. -/
theorem bodyStop?_eq (opener closer : Keyword) (p : Parser) : p.bodyStop? opener closer =
    if p.itemKind? = some (.delimiter .blockStart) then
      match p.tagKeyword? with
      | some keyword =>
        if keyword = closer then some .ended
        else if opener.branches.contains keyword then some (.branch keyword)
        else if keyword.isCloser && p.awaits (.keyword keyword) then some .outer
        else none
      | none => none
    else if p.itemKind?.isNone then some .exhausted
    else none := by
  rw [Parser.bodyStop?]
  split
  next none =>
    rw [itemKind?, none]
    rfl
  next tag =>
    rw [if_pos ((itemKind?_eq_some rfl).2 tag)]
    cases next : p.nth? 1 with
    | none => rw [tagKeyword?, next]; rfl
    | some kind =>
      rw [tagKeyword?, next]
      cases kind <;> rfl
  next kind other seen =>
    have apart : p.itemKind? ≠ some (.delimiter .blockStart) := by
      rw [ne_eq, itemKind?_eq_some rfl, seen, Option.some_inj]
      exact other
    rw [if_neg apart, itemKind?, seen]
    rfl

/-- An item is read by what is found. -/
theorem contentItem_eq (statement : Step) (p : Parser) : contentItem statement p =
    if p.itemKind? = some (.delimiter .blockStart) then statement p
    else if p.itemKind? = some (.delimiter .variableStart) then p.variableTag
    else if p.itemKind? = some (.delimiter .commentStart) then p.comment
    else if p.itemKind?.isNone then p
    else p.text := by
  simp only [itemKind?_eq_some (show Grammar.isPlain (.delimiter .blockStart) = false from rfl),
    itemKind?_eq_some (show Grammar.isPlain (.delimiter .variableStart) = false from rfl),
    itemKind?_eq_some (show Grammar.isPlain (.delimiter .commentStart) = false from rfl)]
  rw [contentItem, ← Option.not_isSome, itemKind?_isSome]
  split
  next tag => rw [if_pos tag]
  next tag => simp only [tag]; rfl
  next note => simp only [note]; rfl
  next kind block output note seen =>
    simp only [seen, Option.some_inj]
    rw [if_neg block, if_neg output, if_neg note]
    rfl
  next none =>
    simp only [none]
    rfl

/-- The body that a tag opens is that of its keyword. -/
theorem opensBody?_eq (p : Parser) : p.opensBody? =
    p.tagKeyword?.bind fun opener => opener.closer?.map fun closer => (opener, closer) := by
  rw [opensBody?, tagKeyword?]
  cases p.nth? 1 with
  | none => rfl
  | some kind => cases kind <;> rfl

end

/-! ### Tags -/

namespace TagCoupling

variable {twin : Parser → Parser → Prop} (c : TagCoupling twin) {o o' p q r s x y : Parser}

include c

/-- A block tag keeps two parsers linked. -/
theorem keeps_tag {first first' : Option TokenKind} (both : Linked twin o o' p q)
    (tag : p.current? = some (.delimiter .blockStart))
    (names : first.bind TokenKind.keyword? = p.tagKeyword?)
    (names' : first'.bind TokenKind.keyword? = p.tagKeyword?) (kind : NodeKind) :
    Linked twin o o' (Parser.tag kind first p) (Parser.tag kind first' q) := by
  have same := sees_start p kind
  have keyword : (p.start kind).tagKeyword? = p.tagKeyword? := by
    rw [Parser.tagKeyword?, same.next?, ← Parser.tagKeyword?]
  exact c.node kind both fun opened =>
    c.tagContents opened (same.current?.trans tag) (names.trans keyword.symm)
      (names'.trans keyword.symm)

/-- The tag of a keyword that both parsers are at. -/
theorem keeps_keywordTag (both : Linked twin o o' p q)
    (tag : p.current? = some (.delimiter .blockStart)) {keyword : Keyword}
    (next : p.nth? 1 = some (.keyword keyword)) (kind : NodeKind) :
    Linked twin o o' (Parser.tag kind (some (.keyword keyword)) p)
      (Parser.tag kind (some (.keyword keyword)) q) := by
  have names : (some (TokenKind.keyword keyword)).bind TokenKind.keyword? = p.tagKeyword? :=
    (tagKeyword?_eq next).symm
  exact c.keeps_tag both tag names names kind

/-- What stands in the tag of a keyword that both parsers are at, in a node that is not closed. -/
theorem linked_keywordContents (both : Linked twin o o' p q)
    (tag : p.current? = some (.delimiter .blockStart)) {keyword : Keyword}
    (next : p.nth? 1 = some (.keyword keyword)) (kind : NodeKind) :
    Linked twin (p.start kind) (q.start kind)
      (Parser.tagContents (some (.keyword keyword)) (p.start kind))
      (Parser.tagContents (some (.keyword keyword)) (q.start kind)) := by
  have same := sees_start p kind
  have names : (some (TokenKind.keyword keyword)).bind TokenKind.keyword? =
      (p.start kind).tagKeyword? := (tagKeyword?_eq (same.next?.trans next)).symm
  exact c.tagContents (linked (c.start both.now kind)) (same.current?.trans tag) names names

/-- The end tag, or the report that there is none, which stands where the body was opened. -/
theorem linked_endTag (origin : twin x y) (both : Linked twin o o' p q) {opener closer : Keyword}
    {stop : BodyStop} (ended : stop = .ended →
      p.current? = some (.delimiter .blockStart) ∧ p.nth? 1 = some (.keyword closer)) :
    Linked twin o o' (endTag opener closer x.offset stop p)
      (endTag opener closer y.offset stop q) :=
  both_ite Iff.rfl (fun ends => c.keeps_keywordTag both (ended ends).1 (ended ends).2 _)
    fun _ => c.linked_errorAt origin both _ (by decide) _

/-- What happens while one more end tag is awaited. -/
theorem closing (closer : TokenKind) (both : Linked twin o o' p q)
    (inside : Linked twin (p.openBody closer) (q.openBody closer) r s) :
    Linked twin o o' r.closeBody s.closeBody :=
  ⟨both.origin, c.closeBody inside.now, both.left.trans (grows_closeBody inside.left),
    both.right.trans (grows_closeBody inside.right)⟩

/-- What a plain statement is depends on its keyword. -/
theorem keeps_plainStatement (both : Linked twin o o' p q)
    (tag : p.current? = some (.delimiter .blockStart)) :
    Linked twin o o' (plainStatement (p.nth? 1) p) (plainStatement (q.nth? 1) q) := by
  have same := c.tagKeyword? both.now tag
  have plain {r : Parser} (none : r.tagKeyword? = none) :
      plainStatement (r.nth? 1) r = Parser.tag .genericBlock (r.nth? 1) r := by
    unfold plainStatement
    split
    next keyword next =>
      rw [tagKeyword?_eq next] at none
      contradiction
    · rfl
  cases names : p.tagKeyword? with
  | none =>
    rw [plain names, plain (same.trans names)]
    exact c.keeps_tag both tag rfl same _
  | some keyword =>
    have reported (message : String) (kind : NodeKind) : Linked twin o o'
        (Parser.tag kind (some (.keyword keyword)) (p.error .unexpectedToken message))
        (Parser.tag kind (some (.keyword keyword)) (q.error .unexpectedToken message)) := by
      have seen := sees_error p .unexpectedToken message
      exact c.keeps_keywordTag (c.keeps_error .unexpectedToken (by decide) message both)
        (seen.current?.trans tag) (seen.next?.trans (nth?_one_of_tagKeyword? names)) kind
    rw [nth?_one_of_tagKeyword? names, nth?_one_of_tagKeyword? (same.trans names)]
    exact both_ite Iff.rfl (fun _ => reported _ _) fun _ =>
      both_ite Iff.rfl (fun _ => reported _ _)
        fun _ => c.keeps_keywordTag both tag (nth?_one_of_tagKeyword? names) _

/-- The body that a tag opens is the same on both sides. -/
theorem opensBody? (both : twin p q) (tag : p.current? = some (.delimiter .blockStart)) :
    q.opensBody? = p.opensBody? := by
  rw [opensBody?_eq, opensBody?_eq, c.tagKeyword? both tag]

/-- Where they find the same item, bodies stop for the same reason on both sides. -/
theorem bodyStop?_of_itemKind? (both : twin p q) (same : q.itemKind? = p.itemKind?)
    (opener closer : Keyword) : q.bodyStop? opener closer = p.bodyStop? opener closer := by
  have awaits (keyword : TokenKind) : q.awaits keyword = p.awaits keyword := by
    rw [Parser.awaits, Parser.awaits, c.awaited both]
  rw [bodyStop?_eq, bodyStop?_eq, same]
  simp only [awaits]
  by_cases tag : p.itemKind? = some (.delimiter .blockStart)
  · rw [if_pos tag, if_pos tag, c.tagKeyword? both ((itemKind?_eq_some rfl).1 tag)]
  · rw [if_neg tag, if_neg tag]

end TagCoupling

/-! ### Bodies -/

namespace OuterCoupling

variable {twin : Parser → Parser → Prop} (c : OuterCoupling twin) {o o' p q r s x y : Parser}

include c

/-- Bodies stop for the same reason on both sides. -/
theorem bodyStop? (both : twin p q) (opener closer : Keyword) :
    q.bodyStop? opener closer = p.bodyStop? opener closer :=
  c.bodyStop?_of_itemKind? both (c.itemKind? both) opener closer

omit c in
/-- Statements that keep parsers coupled from their tag on. -/
def KeepsTags (twin : Parser → Parser → Prop) (statement : Step) : Prop :=
  ∀ ⦃o o' p q : Parser⦄, Linked twin o o' p q → p.current? = some (.delimiter .blockStart) →
    Linked twin o o' (statement p) (statement q)

section

variable {statement : Step} (each : KeepsTags twin statement)

include each

/-- An item of content keeps two parsers linked. -/
theorem keeps_contentItem : Keeps twin (contentItem statement) := by
  intro o o' p q both
  rw [contentItem_eq, contentItem_eq, c.itemKind? both.now]
  exact both_ite Iff.rfl (fun tag => each both ((itemKind?_eq_some rfl).1 tag)) fun _ =>
    both_ite Iff.rfl (fun tag => c.variableTag both ((itemKind?_eq_some rfl).1 tag)) fun _ =>
      both_ite Iff.rfl (fun note => c.comment both ((itemKind?_eq_some rfl).1 note)) fun _ =>
        both_ite Iff.rfl (fun _ => both) fun _ => c.text both

variable (growing : Growing statement) (taking : ∀ p : Parser, p.Past (statement p))

/-- Bodies of so many items at most stop for the same reason. -/
theorem linked_bodyUpTo (both : Linked twin o o' p q) (opener closer : Keyword) (times : Nat) :
    (body statement opener closer times q).1 = (body statement opener closer times p).1 ∧
      Linked twin o o' (body statement opener closer times p).2
        (body statement opener closer times q).2 := by
  induction times generalizing p q with
  | zero => exact ⟨rfl, both⟩
  | succ times ih =>
    rw [body, body, c.bodyStop? both.now]
    cases p.bodyStop? opener closer with
    | some stop => exact ⟨rfl, both⟩
    | none => exact ih (c.keeps_contentItem each both)

include taking

/-- A body ends alike for linked parsers, and keeps them linked. -/
theorem linked_body (both : Linked twin o o' p q) (opener closer : Keyword) :
    (body statement opener closer (q.remaining + 1) q).1 =
        (body statement opener closer (p.remaining + 1) p).1 ∧
      Linked twin o o' (body statement opener closer (p.remaining + 1) p).2
        (body statement opener closer (q.remaining + 1) q).2 := by
  have free := unhindered_body taking opener closer
  obtain ⟨times, left, right⟩ := Correspondence.exists_bound (p := p) (q := q) free free
    (Nat.le_refl _) (Nat.le_refl _)
  rw [left, right]
  exact c.linked_bodyUpTo each both opener closer times

/-- So many branches at most stop for the same reason on both sides, where a body would stop for
it. -/
theorem linked_branchesUpTo (both : Linked twin o o' p q) (opener closer : Keyword)
    {stop : BodyStop} (stops : stop = .exhausted ∨ p.bodyStop? opener closer = some stop)
    (times : Nat) :
    let one := branches statement opener closer times stop p
    let two := branches statement opener closer times stop q
    two.1 = one.1 ∧ Linked twin o o' one.2 two.2 ∧
      (one.1 = .exhausted ∨ one.2.bodyStop? opener closer = some one.1) := by
  induction times generalizing p q stop with
  | zero => exact ⟨rfl, both, stops⟩
  | succ times ih =>
    cases stop with
    | branch keyword =>
      obtain ⟨seen, next⟩ := of_bodyStop?_branch (stops.resolve_left (by rintro ⟨⟩))
      have opened := c.linked_keywordContents both seen next keyword.node
      obtain ⟨reason, items⟩ := c.linked_body each taking opened.here opener closer
      have whole := c.node keyword.node both fun _ => opened.trans items
      have further := bodyStop?_body statement opener closer
        ((Parser.tagContents (some (.keyword keyword)) (p.start keyword.node)).remaining + 1)
        (Parser.tagContents (some (.keyword keyword)) (p.start keyword.node))
      rw [branches, branches]
      dsimp only
      rw [reason]
      exact ih whole further
    | ended => exact ⟨rfl, both, stops⟩
    | outer => exact ⟨rfl, both, stops⟩
    | exhausted => exact ⟨rfl, both, stops⟩

include growing

/-- Branches up to one end tag keep two parsers linked, and end alike. -/
theorem linked_branches (both : Linked twin o o' p q) (opener closer : Keyword)
    {stop : BodyStop} (stops : stop = .exhausted ∨ p.bodyStop? opener closer = some stop) :
    let one := branches statement opener closer (p.remaining + 1) stop p
    let two := branches statement opener closer (q.remaining + 1) stop q
    two.1 = one.1 ∧ Linked twin o o' one.2 two.2 ∧
      (one.1 = .exhausted ∨ one.2.bodyStop? opener closer = some one.1) := by
  have free := unhindered_branches growing opener closer stop
  obtain ⟨times, left, right⟩ := Correspondence.exists_bound (p := p) (q := q) free free
    (Nat.le_refl _) (Nat.le_refl _)
  dsimp only at left right ⊢
  rw [left, right]
  exact c.linked_branchesUpTo each taking both opener closer stops times

/-- A statement with a body keeps two parsers linked. -/
theorem keeps_bodyStatement (both : Linked twin o o' p q)
    (tag : p.current? = some (.delimiter .blockStart)) {opener closer : Keyword}
    (next : p.nth? 1 = some (.keyword opener)) :
    Linked twin o o' (bodyStatement statement opener closer p)
      (bodyStatement statement opener closer q) := by
  have opened := c.linked_keywordContents both tag next opener.node
  rw [bodyStatement, bodyStatement]
  dsimp only
  refine c.node opener.node both fun _ => ?_
  generalize Parser.tagContents (some (.keyword opener)) (p.start opener.node) = one at opened ⊢
  generalize Parser.tagContents (some (.keyword opener)) (q.start opener.node) = two at opened ⊢
  obtain ⟨reason, items⟩ := c.linked_body each taking
    (linked (c.openBody opened.now (.keyword closer))) opener closer
  have stops := bodyStop?_body statement opener closer
    ((one.openBody (.keyword closer)).remaining + 1) (one.openBody (.keyword closer))
  generalize body statement opener closer ((one.openBody (.keyword closer)).remaining + 1)
    (one.openBody (.keyword closer)) = found at reason items stops ⊢
  generalize body statement opener closer ((two.openBody (.keyword closer)).remaining + 1)
    (two.openBody (.keyword closer)) = found' at reason items ⊢
  rw [reason]
  obtain ⟨reason', rest, ends⟩ := c.linked_branches each growing taking items opener closer stops
  generalize branches statement opener closer (found.2.remaining + 1) found.1 found.2 = last
    at reason' rest ends ⊢
  generalize branches statement opener closer (found'.2.remaining + 1) found.1 found'.2 = last'
    at reason' rest ⊢
  rw [reason']
  refine c.linked_endTag both.now (c.closing _ opened rest) fun ended => ?_
  rw [ended] at ends
  have stopped := of_bodyStop?_ended (ends.resolve_left (by rintro ⟨⟩))
  exact stopped

end

/-! ### Statements -/

/-- Statements keep parsers coupled with any number of levels left. -/
theorem keeps_statementWithin (levels : Nat) : KeepsTags twin (statementWithin levels) := by
  induction levels with
  | zero =>
    intro o o' p q both tag
    rw [statementWithin, statementWithin, c.opensBody? both.now tag]
    cases opens : p.opensBody? with
    | none => exact c.keeps_plainStatement both tag
    | some found =>
      have seen := sees_refuse p
      exact c.keeps_keywordTag (c.keeps_refuse both) (seen.current?.trans tag)
        (seen.next?.trans (Swap.next?_of_opensBody? opens)) _
  | succ levels ih =>
    intro o o' p q both tag
    have growing := growing_statementWithin levels
    rw [statementWithin, statementWithin, c.opensBody? both.now tag]
    cases opens : p.opensBody? with
    | none => exact c.keeps_plainStatement both tag
    | some found =>
      exact c.deeper both fun inside =>
        c.keeps_bodyStatement ih growing (past_statementWithin levels) inside tag
          (Swap.next?_of_opensBody? opens)

/-- A statement keeps two parsers linked at tags that couple. -/
theorem keeps_statement : KeepsTags twin Parser.statement := by
  intro o o' p q both tag
  rw [Parser.statement, Parser.statement, c.levels both.now]
  exact c.keeps_statementWithin p.levels both tag

/-- An item of a template keeps two parsers linked. -/
theorem keeps_item : Keeps twin item := c.keeps_contentItem c.keeps_statement

/-- The items of a template and the white space after them. -/
theorem keeps_items_of_template :
    Keeps twin (fun p => (p.loop (fun p => p.current?.isSome) item).skipSpace) := by
  intro o o' p q both
  refine c.keeps_skipSpace (linked_loop both (fun _ seen => seen) (fun _ seen => seen) ?_
    (fun _ seen => past_item seen) (fun _ seen => past_item seen) fun _ _ now _ => c.keeps_item now)
  intro r s now
  rw [← itemKind?_isSome, ← itemKind?_isSome, c.itemKind? now]

end OuterCoupling

/-! ### Couplings are outer -/

namespace Coupling

variable {twin : Parser → Parser → Prop} (c : Coupling twin) {o o' p q : Parser}

include c

/-- Twin parsers at the same tokens agree on what stands there. -/
theorem isAt (both : twin p q) (kind : TokenKind) : q.isAt kind = p.isAt kind := by
  rw [Parser.isAt, Parser.isAt, c.current? both]

/-- A token that is taken keeps two parsers linked. -/
theorem keeps_bump : Keeps twin Parser.bump := fun _ _ _ _ both =>
  ⟨both.origin, c.bump both.now, both.left.step growing_bump, both.right.step growing_bump⟩

/-- A choice on the kind of the current token. -/
theorem ifAt (both : Linked twin o o' p q) (kind : TokenKind) {a b a' b' : Parser}
    (yes : Linked twin o o' a a') (no : Linked twin o o' b b') :
    Linked twin o o' (if p.isAt kind then a else b) (if q.isAt kind then a' else b') :=
  both_ite (by rw [c.isAt both.now]) (fun _ => yes) fun _ => no

/-- An optional token keeps two parsers linked, whatever its kind. -/
theorem keeps_skip (kind : TokenKind) : Keeps twin (fun p => p.skip kind) := by
  intro o o' p q both
  dsimp only
  rw [skip_eq, skip_eq]
  exact c.ifAt both kind (c.keeps_bump both) both

/-- Tokens are taken one by one as long as a test holds. -/
theorem bumps {test : Parser → Bool} (first : Linked twin o o' p q)
    (seen : ∀ r : Parser, test r = true → r.current?.isSome)
    (tests : ∀ ⦃r s : Parser⦄, twin r s → test s = test r) :
    Linked twin o o' (p.loop test Parser.bump) (q.loop test Parser.bump) :=
  linked_loop first seen seen tests (fun r _ => past_bump r) (fun r _ => past_bump r)
    fun _ _ both _ => c.keeps_bump both

/-- What stands before a closing token is skipped with a report, unless nothing does. -/
theorem keeps_approach (terminator : TokenKind) (fault : SyntaxFault)
    (own : fault ≠ .maxRecursionDepth) (message : String) :
    Keeps twin (approach terminator fault message) := by
  intro o o' p q both
  have tests ⦃r s : Parser⦄ (now : twin r s) :
      (s.current?.isSome && !s.isAt terminator) = (r.current?.isSome && !r.isAt terminator) := by
    rw [c.current? now, c.isAt now]
  have told := c.building.keeps_error fault own message both
  refine both_ite (by rw [c.isAt both.now, c.current? both.now]) (fun _ => both) fun _ =>
    both_ite (by rw [c.current? told.now, c.isAt told.now]) (fun _ => told) fun _ =>
      c.building.node .error told fun opened => c.bumps opened (fun _ => isSome_of_and) tests

/-- Text keeps two parsers linked. -/
theorem keeps_text : Keeps twin Parser.text := by
  intro o o' p q both
  refine c.building.node .text both fun opened => c.bumps opened (fun _ => isSome_of_and) ?_
  intro r s now
  rw [atTagStart, atTagStart, atAny, atAny, c.current? now]

/-- A variable tag keeps two parsers linked. -/
theorem keeps_variableTag : Keeps twin Parser.variableTag := by
  intro o o' p q both
  rw [variableTag_eq, variableTag_eq]
  exact c.building.node .variableTag both fun opened =>
    c.keeps_skip _ (c.keeps_approach _ _ (by decide) _
      (c.inner.keeps_expression (c.keeps_bump opened)))

/-- A comment keeps two parsers linked. -/
theorem keeps_comment : Keeps twin Parser.comment := by
  intro o o' p q both
  rw [Parser.comment, Parser.comment, c.nextMode? both.now]
  generalize (if p.nextMode? = some .lineComment then TokenKind.newline
    else .delimiter .commentEnd) = closer
  refine c.building.node .comment both fun opened => ?_
  have tests ⦃r s : Parser⦄ (now : twin r s) :
      (s.current?.isSome && !s.isAt closer) = (r.current?.isSome && !r.isAt closer) := by
    rw [c.current? now, c.isAt now]
  have inside := c.bumps (c.keeps_bump opened) (fun _ => isSome_of_and) tests
  exact c.ifAt inside _ (c.keeps_bump inside)
    (both_ite Iff.rfl (fun _ => inside) fun _ => c.building.keeps_error _ (by decide) _ inside)

/-- The keyword of a tag is the one that the parsers are at after its start delimiter. -/
theorem keeps_tagContents (both : Linked twin o o' p q)
    (tag : p.current? = some (.delimiter .blockStart)) {first first' : Option TokenKind}
    (names : first.bind TokenKind.keyword? = p.tagKeyword?)
    (names' : first'.bind TokenKind.keyword? = p.tagKeyword?) :
    Linked twin o o' (tagContents first p) (tagContents first' q) := by
  have seen : first.bind TokenKind.keyword? = p.bump.current?.bind TokenKind.keyword? := by
    rw [names, current?_bump (Option.isSome_of_eq_some tag)]
    rfl
  rw [tagContents, tagContents, c.nextMode? both.now, terminate_eq, terminate_eq]
  exact c.keeps_skip _ (c.keeps_approach _ _ (by decide) _
    (c.inner.header (c.keeps_bump both) (names'.trans names.symm) seen))

/-- Parsers at the same tokens are coupled outside of tags. -/
theorem outer : OuterCoupling twin :=
  { c.building with
    awaited := c.awaited
    itemKind? := fun both => by rw [Parser.itemKind?, Parser.itemKind?, c.current? both]
    tagKeyword? := fun both _ => by rw [Parser.tagKeyword?, Parser.tagKeyword?, c.next? both]
    openBody := c.openBody
    closeBody := c.closeBody
    text := c.keeps_text
    variableTag := fun both _ => c.keeps_variableTag both
    comment := fun both _ => c.keeps_comment both
    tagContents := c.keeps_tagContents }

end Coupling
end Parser
end Stencil
