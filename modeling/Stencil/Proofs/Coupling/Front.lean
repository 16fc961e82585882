import Stencil.Proofs.Coupling.Leading
import Stencil.Proofs.Coupling.Tag
import Stencil.Proofs.Lexer.Between
import Stencil.Proofs.Outline.Tag
/-!
# A stream in front of others

The tokens of a closed stream may be those with which another stream begins. The parsers of both are
then in a leading coupling (`Fronts.leading`): they come out of every tag at the same place, from
which text leads to the next tag before the first stream ends.
-/

namespace Stencil

open Stencil.Parser

namespace TokenStream

/-- A closed stream whose tokens are those with which another one begins. -/
structure Fronts (one whole : TokenStream) : Prop where
  closed : one.Closed
  tokens {index : Nat} (before : index < one.size) : whole.tokens[index]? = one.tokens[index]?
  modes {index : Nat} (before : index + 1 < one.size) :
    whole.modeAfter? index = one.modeAfter? index
  solid : whole.kindAt? one.size ≠ some .whitespace
  offsets {index : Nat} (upTo : index ≤ one.size) : whole.offsetAt index = one.offsetAt index

variable {one whole : TokenStream} {index opening stop : Nat} {closer : TokenKind}

/-- Outside of tags there is no white space. -/
theorem Outside.visible (outside : one.Outside index) : one.visible index = index := by
  apply one.visible_of_not_space
  rcases outside with beyond | ⟨opening, closer, upTo, opens, between⟩
  · rw [one.kindAt?_eq_none.2 beyond]
    rintro ⟨⟩
  · rcases Nat.eq_or_lt_of_le upTo with rfl | further
    · obtain ⟨kind, starts, structural⟩ := exists_structural opens
      rw [starts, ne_eq, Option.some_inj]
      rintro rfl
      contradiction
    · rcases between index (Nat.le_refl _) further with text | newline
      · rw [text]
        rintro ⟨⟩
      · rw [newline]
        rintro ⟨⟩

/-- In a stream whose tags are closed every tag has its end. -/
theorem Closed.delimited (closed : one.Closed) : one.Delimited := fun _ _ opens =>
  have ⟨stop, before, loose, ends, _⟩ := closed.tag opens
  ⟨stop, before, loose, .inl ends⟩

/-- A tag that was read ends outside of tags. -/
theorem Closed.outside_of_tagged (closed : one.Closed) {row : List Shape}
    {raised : List Diagnostic} (opens : one.closerAt? opening = some closer)
    (tagged : one.Tagged opening stop row raised) : one.Outside stop := by
  obtain ⟨last, before, loose, ends, outside⟩ := closed.tag opens
  obtain ⟨high, after, loose', reached⟩ := tagged.reaches closed.delimited
  have same : high = last := by
    apply loose'.unique loose after before
    · exact unlessStructural_of_closes opens (reached.imp (·.1.trans opens) (·.1))
    · exact unlessStructural_of_closes opens (.inl ends)
  obtain rfl := same
  rcases reached with ⟨-, rfl, -⟩ | ⟨nothing, -⟩
  · exact outside
  · rw [nothing] at ends
    contradiction

end TokenStream

/-- One stream in front of another: nothing comes before it, and places are the same. -/
def Embedding.front (one whole : TokenStream) : Embedding where
  tokens := 0
  nodes := #[]
  children := #[]
  offsets start start' := start' = start
  left := one
  right := whole
  depth := 0

/-- What stands in front of both streams is built in the same way. -/
theorem Embedding.nodes_front {one whole : TokenStream} {p q : Parser}
    (both : (Embedding.front one whole).Beside p q) : q.builder.nodes = p.builder.nodes := by
  obtain ⟨later, listed, same⟩ := both.carries.nodes
  have places {start start' : Nat} (place : (Embedding.front one whole).offsets start start') :
      start' = start + 0 := place
  have equal := TreeEmbedding.forall₂_carriesNode places same
  have still : Node.shift (Embedding.front one whole).tokens
      (Embedding.front one whole).nodes.size 0 = id := funext Node.shift_zero
  rw [equal, still, List.map_id] at listed
  exact Array.toList_inj.1 listed

/-- The outermost node has the same children in both trees. -/
theorem Embedding.children_front {one whole : TokenStream} {root root' : OpenNode}
    (carried : (Embedding.front one whole).CarriesOpened [root] [root']) :
    root'.children = root.children := by
  cases carried with
  | cons _ children _ _ =>
    have still : (Embedding.front one whole).child = id := by
      rw [TreeEmbedding.child_eq_shift]
      exact Child.shift_zero
    rw [children, still, Array.map_id]
    exact Array.empty_append

/-- The parsers are beside each other outside of tags. -/
structure Embedding.Between (e : Embedding) (p q : Parser) : Prop where
  inside : e.Throughout p q
  outside : e.left.Outside p.position

/-- The parsers are beside each other where text leads to a tag. -/
structure Embedding.Leading (e : Embedding) (p q : Parser) : Prop where
  inside : e.Throughout p q
  leads : e.left.Leads p.position

/-- Parsers of which one leads are between the same places. -/
theorem Embedding.Leading.between {e : Embedding} {p q : Parser} (both : e.Leading p q) :
    e.Between p q := ⟨both.inside, .inr both.leads⟩

namespace TokenStream.Fronts

variable {one whole : TokenStream} (fronts : one.Fronts whole) {o o' p q : Parser}
  {index opening : Nat} {closer : TokenKind}

include fronts

/-! ### Both streams -/

/-- Before the front ends the kinds are the same. -/
theorem kinds (before : index < one.size) : whole.kindAt? index = one.kindAt? index := by
  rw [kindAt?, kindAt?, fronts.tokens before]

/-- Every place up to the end of the front is level. -/
theorem level (upTo : index ≤ one.size) : (Embedding.front one whole).Level index := by
  intro place after before
  have last := Nat.le_trans before (visible_le upTo one.solid_size)
  change whole.kindAt? place = _ ↔ one.kindAt? place = _
  rcases Nat.lt_or_eq_of_le last with inside | ended
  · rw [fronts.kinds inside]
  · rw [show place = one.size from ended]
    exact iff_of_false fronts.solid one.solid_size

/-- Offsets up to the end of the front are the same. -/
theorem places : (Embedding.front one whole).Places := fun _ upTo => fronts.offsets upTo

/-- The tags of the first stream are tags of both. -/
theorem shares (opens : one.closerAt? opening = some closer) :
    ∃ stop, stop < one.size ∧
      (Embedding.front one whole).SharesTag opening stop closer closer := by
  obtain ⟨stop, before, loose, ends, _⟩ := fronts.closed.tag opens
  have inside : stop < one.size := by
    rw [← kindAt?_isSome, ends]
    rfl
  have kinds {place : Nat} (upTo : place ≤ stop) : whole.kindAt? place = one.kindAt? place :=
    fronts.kinds (Nat.lt_of_le_of_lt upTo inside)
  have ends' : whole.kindAt? stop = some closer := (kinds (Nat.le_refl _)).trans ends
  have opens' : whole.closerAt? opening = some closer := by
    rw [closerAt?] at opens ⊢
    rw [kinds (Nat.le_of_lt before), fronts.modes (by omega)]
    exact opens
  have none := unlessStructural_of_closes opens (.inl ends)
  exact ⟨stop, inside, opens, opens', kinds (Nat.le_of_lt before), before,
    ⟨Nat.le_of_lt inside, loose, fun index _ upTo => kinds (Nat.le_of_lt upTo), none,
      (congrArg unlessStructural (ends'.trans ends.symm)).trans none⟩, .inl ⟨ends, ends'⟩⟩

/-! ### Both parsers -/

/-- Parsers on the front of a stream build alike. -/
theorem building : BuildingCoupling (Embedding.front one whole).Between := by
  have c := Embedding.building_throughout (fun _ upTo => fronts.level upTo) fronts.places
  have still {p q : Parser} (both : (Embedding.front one whole).Between p q) :
      one.Outside p.skipSpace.position := by
    have visible := both.outside.visible
    rw [p.skipSpace_position, both.inside.beside.first, visible]
    exact both.outside
  exact {
    levels := fun both => c.levels both.inside
    within := fun both => c.within both.inside
    skipSpace := fun both => ⟨c.skipSpace both.inside, still both⟩
    start := fun both kind => ⟨c.start both.inside kind, still both⟩
    startAt := fun origin both here also left right kind =>
      ⟨c.startAt origin.inside both.inside here also left right kind, both.outside⟩
    finish := fun both inner => ⟨c.finish both.inside inner, both.outside⟩
    errorAt := fun {o _ p _} origin both fault own message => by
      refine ⟨c.errorAt origin.inside both.inside fault own message, ?_⟩
      rw [(reads_errorAt p o.offset fault message).2]
      exact both.outside
    refuse := fun {p _} both => by
      refine ⟨c.refuse both.inside, ?_⟩
      rw [(reads_refuse p).2.1]
      exact both.outside
    descend := fun both => ⟨c.descend both.inside, both.outside⟩
    ascend := fun both => ⟨c.ascend both.inside, both.outside⟩ }

omit fronts in
/-- What was read within the first stream, and ends outside of its tags. -/
theorem linked_outside (both : Linked (Embedding.front one whole).Between o o' p q) {r s : Parser}
    (read : Linked (Embedding.front one whole).Throughout o o' r s)
    (outside : one.Outside r.position) : Linked (Embedding.front one whole).Between o o' r s :=
  ⟨both.origin, ⟨read.now, outside⟩, read.left, read.right⟩

omit fronts in
/-- Parsers that are linked outside of tags are linked. -/
theorem linked_throughout (both : Linked (Embedding.front one whole).Between o o' p q) :
    Linked (Embedding.front one whole).Throughout o o' p q :=
  ⟨both.origin.inside, both.now.inside, both.left, both.right⟩

omit fronts in
/-- Outside of tags a parser is at the token that it sees. -/
theorem visible_eq (both : (Embedding.front one whole).Between p q) :
    one.visible p.position = p.position := both.outside.visible

/-- Both parsers look at the tokens at their position. -/
theorem current?_eq (both : (Embedding.front one whole).Between p q) :
    p.current? = one.kindAt? p.position ∧ q.current? = whole.kindAt? p.position := by
  have seen := both.inside.beside.current?_eq (fronts.level both.inside.upTo)
  change p.current? = one.kindAt? (one.visible p.position) ∧
    q.current? = whole.kindAt? (one.visible p.position) at seen
  rwa [visible_eq both] at seen

/-- Before the end of the first stream both parsers see the same. -/
theorem current?_same (both : (Embedding.front one whole).Between p q)
    (more : p.current?.isSome) : q.current? = p.current? := by
  obtain ⟨here, also⟩ := fronts.current?_eq both
  rw [here, kindAt?_isSome] at more
  rw [here, also, fronts.kinds more]

/-- The keyword of a tag is in the first stream. -/
theorem tagKeyword?_same (both : (Embedding.front one whole).Between p q)
    (opens : one.closerAt? p.position = some closer) : q.tagKeyword? = p.tagKeyword? := by
  obtain ⟨stop, inside, shared⟩ := fronts.shares opens
  have next : one.visible (p.position + 1) ≤ stop := shared.stretch.visible_le shared.before
  have upTo : one.visible p.position + 1 ≤ one.size := by
    rw [visible_eq both]
    exact Nat.le_of_lt (Nat.lt_of_le_of_lt shared.before inside)
  obtain ⟨here, also⟩ := both.inside.beside.nth?_one_eq (fronts.level both.inside.upTo)
    (fronts.level upTo)
  have same := fronts.kinds (Nat.lt_of_le_of_lt next inside)
  change p.nth? 1 = one.kindAt? (one.visible (one.visible p.position + 1)) at here
  change q.nth? 1 = whole.kindAt? (one.visible (one.visible p.position + 1)) at also
  rw [visible_eq both] at here also
  rw [Parser.tagKeyword?, Parser.tagKeyword?, here, also, same]

/-- After a tag that was read the parser is outside of tags. -/
theorem outside_of_makes (both : (Embedding.front one whole).Between p q) {r : Parser}
    {kind : NodeKind} {row : List Shape} {raised : List Diagnostic}
    (opens : one.closerAt? p.position = some closer) (makes : p.Makes r kind row raised) :
    one.Outside r.position := by
  have tagged := makes.tagged
  rw [show p.stream = one from both.inside.beside.first, visible_eq both] at tagged
  exact fronts.closed.outside_of_tagged opens tagged

/-- So it is after what stands in a block tag, read by the keyword of the tag. -/
theorem outside_of_tagContents (both : (Embedding.front one whole).Between p q)
    (opens : one.closerAt? p.position = some closer)
    (tag : p.current? = some (.delimiter .blockStart)) {first : Option TokenKind}
    (names : first.bind TokenKind.keyword? = p.tagKeyword?) :
    one.Outside (Parser.tagContents first p).position := by
  have source : p.stream = one := both.inside.beside.first
  have starts := (fronts.current?_eq both).1.symm.trans tag
  have solid : p.stream.visible p.position = p.position := by
    rw [source]
    exact visible_eq both
  have closes : p.stream.closerAt? p.position = some (Swap.terminator p) := by
    rw [Swap.terminator, nextMode?_eq, solid, source, closerAt?, starts]
  obtain ⟨_, _, -, -, tagged⟩ := AtTag.tagContents ⟨solid, closes⟩
  rw [source] at tagged
  have outside := fronts.closed.outside_of_tagged opens tagged
  rwa [← tagContents_congr names p] at outside

/-- Where text leads to a tag both parsers see something, and the same. -/
theorem current?_leading (both : (Embedding.front one whole).Leading p q) :
    p.current?.isSome ∧ q.current? = p.current? := by
  have more : p.current?.isSome := by
    rw [(fronts.current?_eq both.between).1, kindAt?_isSome]
    exact both.leads.lt_size
  exact ⟨more, fronts.current?_same both.between more⟩

/-- A token that begins no tag leads on to the same tag. -/
theorem leading_bump (both : (Embedding.front one whole).Leading p q)
    (going : p.atTagStart = false) : (Embedding.front one whole).Leading p.bump q.bump := by
  obtain ⟨more, same⟩ := fronts.current?_leading both
  have source : p.stream = one := both.inside.beside.first
  have position : p.bump.position = p.position + 1 := by
    rw [bump_position, if_pos (p.current?_isSome_iff.1 more), source, visible_eq both.between]
  refine ⟨both.inside.bump (fronts.level both.inside.upTo) (by rw [same]), ?_⟩
  rw [position]
  apply both.leads.next
  change one.closerAt? p.position = none
  rw [closerAt?, ← (fronts.current?_eq both.between).1]
  obtain ⟨kind, found⟩ := Option.isSome_iff_exists.1 more
  rw [Parser.atTagStart, Parser.atAny, found] at going
  rw [found]
  cases kind with
  | delimiter mark => cases mark <;> first | rfl | exact absurd going (by decide)
  | _ => rfl

/-- Text is read up to the next tag, before the first stream ends. -/
theorem linked_text (both : Linked (Embedding.front one whole).Between o o' p q)
    (plain : p.itemKind? = some .text) :
    Linked (Embedding.front one whole).Between o o' p.text q.text := by
  refine fronts.building.node .text both fun opened => ?_
  have begun : (Embedding.front one whole).Leading (p.start .text) (q.start .text) := by
    refine ⟨opened.now.inside, opened.now.outside.resolve_left fun beyond => ?_⟩
    have current := (fronts.current?_eq opened.now).1
    rw [one.kindAt?_eq_none.2 beyond, (sees_start p .text).current?] at current
    rw [Parser.itemKind?, current] at plain
    contradiction
  let going (p : Parser) : Bool := p.current?.isSome && !p.atTagStart
  have tests {r s : Parser} (now : (Embedding.front one whole).Leading r s) :
      going s = going r := by
    simp only [going, atTagStart, atAny, (fronts.current?_leading now).2]
  have read : Linked (Embedding.front one whole).Leading (p.start .text) (q.start .text)
      ((p.start .text).loop going Parser.bump) ((q.start .text).loop going Parser.bump) := by
    refine linked_loop (linked begun) (fun _ => isSome_of_and) (fun _ => isSome_of_and)
      (fun _ _ => tests) (fun r _ => past_bump r) (fun r _ => past_bump r) fun r s now goes => ?_
    have plain : r.atTagStart = false := by simpa [going] using (Bool.and_eq_true_iff.1 goes).2
    exact ⟨now.origin, fronts.leading_bump now.now plain, now.left.step growing_bump,
      now.right.step growing_bump⟩
  exact ⟨opened.origin, read.now.between, read.left, read.right⟩

/-- As long as the first stream goes on, its parser and that of the other find the same items. -/
theorem leading : LeadingCoupling (Embedding.front one whole).Between := {
    fronts.building with
    awaited := fun both => both.inside.beside.awaited
    tagKeyword? := fun both tag => by
      have starts := (fronts.current?_eq both).1.symm.trans tag
      exact fronts.tagKeyword?_same both (by rw [closerAt?, starts])
    openBody := fun both closer =>
      ⟨⟨both.inside.beside.openBody closer, both.inside.from_, both.inside.upTo⟩, both.outside⟩
    closeBody := fun both =>
      ⟨⟨both.inside.beside.closeBody, both.inside.from_, both.inside.upTo⟩, both.outside⟩
    variableTag := fun {_ _ p _} both tag => by
      have starts := (fronts.current?_eq both.now).1.symm.trans tag
      obtain ⟨closer, opens⟩ := exists_closerAt? starts (.inr (.inl rfl))
      obtain ⟨stop, -, shared⟩ := fronts.shares opens
      obtain ⟨_, _, makes⟩ := makes_variableTag tag
      rw [← visible_eq both.now] at shared
      exact linked_outside both (Embedding.Inside.variableTag (fun _ upTo => fronts.level upTo)
        fronts.places (linked_throughout both) tag shared)
        (fronts.outside_of_makes both.now opens makes)
    comment := fun {_ _ p _} both note => by
      have starts := (fronts.current?_eq both.now).1.symm.trans note
      obtain ⟨closer, opens⟩ := exists_closerAt? starts (.inr (.inr rfl))
      obtain ⟨stop, -, shared⟩ := fronts.shares opens
      obtain ⟨_, _, makes⟩ := makes_comment note
      rw [← visible_eq both.now] at shared
      exact linked_outside both (Embedding.Inside.comment (fun _ upTo => fronts.level upTo)
        fronts.places (linked_throughout both) note shared)
        (fronts.outside_of_makes both.now opens makes)
    tagContents := fun {_ _ p _} both tag first _ names names' => by
      have starts := (fronts.current?_eq both.now).1.symm.trans tag
      obtain ⟨closer, opens⟩ := exists_closerAt? starts (.inl rfl)
      obtain ⟨stop, -, shared⟩ := fronts.shares opens
      have outside := fronts.outside_of_tagContents both.now opens tag names
      rw [← visible_eq both.now] at shared
      exact linked_outside both (Embedding.Inside.tagContents (fun _ upTo => fronts.level upTo)
        fronts.places shared (linked_throughout both) tag names names') outside
    itemKind? := fun both more => by
      rw [Parser.itemKind?, Parser.itemKind?, fronts.current?_same both more]
    text := fronts.linked_text }

/-- Where the streams begin no tag is open. -/
theorem between_start (limits : ParseLimits) : (Embedding.front one whole).Between
    ((ofStream one limits).start .template) ((ofStream whole limits).start .template) := by
  have comes : (Embedding.front one whole).Comes limits ((ofStream whole limits).start .template) :=
    Embedding.comes_start rfl rfl rfl rfl (fronts.level (Nat.zero_le _)) fun found =>
      ⟨_, (fronts.tokens (Array.getElem?_eq_some_iff.1 found).1).trans found, rfl, rfl⟩
  refine ⟨comes.throughout, ?_⟩
  rw [show ((ofStream one limits).start .template).position = one.visible 0 from
    (ofStream one limits).skipSpace_position, fronts.closed.begins.visible]
  exact fronts.closed.begins

end TokenStream.Fronts
end Stencil
