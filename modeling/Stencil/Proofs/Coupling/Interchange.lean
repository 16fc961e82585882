import Stencil.Proofs.Coupling.Embedding
import Stencil.Proofs.Coupling.Tag
/-!
# Line statements in the place of block tags

The parser asks for the mode after the start of a block only to know what ends the tag. So closed
block tags may be written as line statements: the nodes, their kinds and children and what is told
of them stay the same (`TokenStream.interchanged_parse`). Each tag of the one stream is shared with
the other, by a closing token that is the same or a newline for the end of a block.
-/

namespace Stencil

open Stencil.Parser

namespace TokenStream

/-- A block tag from its start delimiter up to the end of the block that closes it. -/
structure ClosedBlock (stream : TokenStream) (opening stop : Nat) : Prop where
  starts : stream.kindAt? opening = some (.delimiter .blockStart)
  before : opening < stop
  loose : stream.Loose (opening + 1) stop
  ends : stream.kindAt? stop = some (.delimiter .blockEnd)

/-- The streams agree token by token, and in the modes after the starts of blocks and comments,
except that chosen closed block tags of the one are line statements in the other. -/
structure Interchanged (one two : TokenStream) (chosen : Nat → Prop) : Prop where
  closed {opening : Nat} (picked : chosen opening) : ∃ stop, one.ClosedBlock opening stop
  line {opening : Nat} (picked : chosen opening) :
    two.modeAfter? opening = some .lineStatement
  newline {opening stop : Nat} (picked : chosen opening) (block : one.ClosedBlock opening stop) :
    two.kindAt? stop = some .newline
  kinds {index : Nat} (rest : ∀ opening, chosen opening → ¬ one.ClosedBlock opening index) :
    two.kindAt? index = one.kindAt? index
  modes {index : Nat} (rest : ¬ chosen index)
    (starts : one.kindAt? index = some (.delimiter .blockStart) ∨
      one.kindAt? index = some (.delimiter .commentStart)) :
    two.modeAfter? index = one.modeAfter? index

variable {one two : TokenStream} {chosen : Nat → Prop}

namespace Interchanged

variable (both : Interchanged one two chosen)

include both

/-- The kinds agree but where a newline stands for the end of a block. -/
theorem kindAt? (index : Nat) : two.kindAt? index = one.kindAt? index ∨
    one.kindAt? index = some (.delimiter .blockEnd) ∧ two.kindAt? index = some .newline := by
  by_cases ends : ∃ opening, chosen opening ∧ one.ClosedBlock opening index
  · obtain ⟨opening, picked, block⟩ := ends
    exact .inr ⟨block.ends, both.newline picked block⟩
  · exact .inl (both.kinds fun opening picked block => ends ⟨opening, picked, block⟩)

/-- Every token but the end of a block is of the same kind. -/
theorem kindAt?_iff {index : Nat} {kind : TokenKind} (block : kind ≠ .delimiter .blockEnd)
    (line : kind ≠ .newline) :
    two.kindAt? index = some kind ↔ one.kindAt? index = some kind := by
  rcases both.kindAt? index with same | ⟨here, there⟩
  · rw [same]
  · rw [here, there]
    exact iff_of_false (fun is => line (Option.some.inj is).symm)
      fun is => block (Option.some.inj is).symm

/-- The two streams have as many tokens. -/
theorem size : two.size = one.size := by
  have same (index : Nat) : index < two.size ↔ index < one.size := by
    rw [← kindAt?_isSome, ← kindAt?_isSome]
    rcases both.kindAt? index with same | ⟨here, there⟩
    · rw [same]
    · rw [here, there]
      rfl
  exact Nat.le_antisymm (Nat.le_of_not_lt fun less => Nat.lt_irrefl _ ((same _).1 less))
    (Nat.le_of_not_lt fun less => Nat.lt_irrefl _ ((same _).2 less))

/-- Every place is level between streams of the same kinds. -/
theorem level (index : Nat) : (Embedding.aligned one two).Level index := fun _ _ _ =>
  both.kindAt?_iff (by rintro ⟨⟩) (by rintro ⟨⟩)

/-- The place where a tag that is not chosen ends is no end of a chosen one. -/
theorem kindAt?_of_closes {opening stop : Nat} {closer : TokenKind} (rest : ¬ chosen opening)
    (opens : one.closerAt? opening = some closer) (before : opening < stop)
    (loose : one.Loose (opening + 1) stop) : two.kindAt? stop = one.kindAt? stop := by
  refine both.kinds fun other picked block => ?_
  obtain ⟨kind, starts, structural⟩ := exists_structural opens
  rcases Nat.lt_trichotomy other opening with earlier | rfl | later
  · have beyond := block.loose.ne earlier structural starts
    omega
  · exact rest picked
  · have beyond := loose.ne later rfl block.starts
    have within := block.before
    omega

/-- Other tags begin in the same way and are closed by the same kind of token. -/
theorem closerAt? {opening : Nat} {closer : TokenKind} (rest : ¬ chosen opening)
    (opens : one.closerAt? opening = some closer) : two.closerAt? opening = some closer := by
  rw [TokenStream.closerAt?] at opens ⊢
  split at opens
  next starts =>
    rw [(both.kindAt?_iff (by rintro ⟨⟩) (by rintro ⟨⟩)).2 starts]
    exact opens
  next starts =>
    rw [(both.kindAt?_iff (by rintro ⟨⟩) (by rintro ⟨⟩)).2 starts,
      both.modes rest (.inl starts)]
    exact opens
  next starts =>
    rw [(both.kindAt?_iff (by rintro ⟨⟩) (by rintro ⟨⟩)).2 starts,
      both.modes rest (.inr starts)]
    exact opens
  · contradiction

/-- Chosen tags are closed by newlines. -/
theorem closerAt?_of_chosen {opening : Nat} (picked : chosen opening) :
    two.closerAt? opening = some .newline := by
  obtain ⟨stop, block⟩ := both.closed picked
  rw [TokenStream.closerAt?, (both.kindAt?_iff (by rintro ⟨⟩) (by rintro ⟨⟩)).2 block.starts,
    both.line picked]
  rfl

/-- Every tag is one of both streams, closed by the same kind of token unless it is chosen. -/
theorem shares (delimited : one.Delimited) {opening : Nat} {closer : TokenKind}
    (opens : one.closerAt? opening = some closer) : ∃ stop closer',
      (Embedding.aligned one two).SharesTag opening stop closer closer' ∧
        (¬ chosen opening → closer' = closer) := by
  obtain ⟨stop, before, loose, ended⟩ := delimited opens
  obtain ⟨start, starts, begins⟩ := exists_structural opens
  have inside : opening + 1 ≤ one.size := by
    rw [Nat.add_one_le_iff, ← kindAt?_isSome, starts]
    rfl
  have same (index : Nat) (from_ : opening + 1 ≤ index) (upTo : index < stop) :
      two.kindAt? index = one.kindAt? index := by
    refine (both.kindAt? index).resolve_right fun ⟨here, _⟩ => ?_
    exact Nat.lt_irrefl _ (Nat.lt_of_lt_of_le upTo (loose.ne from_ rfl here))
  have opening' : two.kindAt? opening = one.kindAt? opening := by
    refine (both.kindAt? opening).resolve_right fun ⟨here, _⟩ => ?_
    rw [TokenStream.closerAt?, here] at opens
    contradiction
  have ends := unlessStructural_of_closes opens ended
  by_cases picked : chosen opening
  · obtain ⟨stop', block⟩ := both.closed picked
    have ends' : unlessStructural (one.kindAt? stop') = none := by
      rw [block.ends]
      rfl
    obtain rfl := loose.unique block.loose before block.before ends ends'
    have newline := both.newline picked block
    have closes : one.kindAt? stop = some closer := by
      refine ended.resolve_right fun none => ?_
      rw [block.ends] at none
      contradiction
    refine ⟨stop, .newline, ⟨opens, both.closerAt?_of_chosen picked, opening', before,
      ⟨loose.le_size inside, loose, same, ends, ?_⟩, .inl ⟨closes, newline⟩⟩,
      fun rest => absurd picked rest⟩
    change unlessStructural (two.kindAt? stop) = none
    rw [newline]
    rfl
  · have last := both.kindAt?_of_closes picked opens before loose
    refine ⟨stop, closer, ⟨opens, both.closerAt? picked opens, opening', before,
      ⟨loose.le_size inside, loose, same, ends, ?_⟩, ?_⟩, fun _ => rfl⟩
    · change unlessStructural (two.kindAt? stop) = none
      rw [last]
      exact ends
    · change _ ∧ two.kindAt? stop = _ ∨ _ ∧ _ ∧ two.kindAt? stop = _
      rw [last]
      exact ended.imp (fun ended => ⟨ended, ended⟩) fun ended => ⟨rfl, ended, ended⟩

/-! ### Parsing -/

/-- The parsers of both streams find the same items, and read them in the same way. -/
theorem outer (delimited : one.Delimited) :
    OuterCoupling (Embedding.aligned one two).Throughout := by
  have level (index : Nat) (_ : index ≤ one.size) := both.level index
  have places : (Embedding.aligned one two).Places := fun _ _ => trivial
  have building := Embedding.building_throughout level places
  have seen {p q : Parser} (now : (Embedding.aligned one two).Throughout p q) :
      p.current? = one.kindAt? (one.visible p.position) ∧
        q.current? = two.kindAt? (one.visible p.position) :=
    now.beside.current?_eq (both.level _)
  have itemKind {p q : Parser} (now : (Embedding.aligned one two).Throughout p q) :
      q.itemKind? = p.itemKind? := by
    obtain ⟨here, also⟩ := seen now
    rw [Parser.itemKind?, Parser.itemKind?, here, also]
    rcases both.kindAt? (one.visible p.position) with same | ⟨here, there⟩
    · rw [same]
    · rw [here, there]
      rfl
  have present {p q : Parser} (now : (Embedding.aligned one two).Throughout p q) :
      q.current?.isSome = p.current?.isSome := by
    rw [← itemKind?_isSome, ← itemKind?_isSome, itemKind now]
  exact {
    building with
    awaited := fun now => now.beside.awaited
    itemKind? := itemKind
    tagKeyword? := fun {p q} now _ => by
      obtain ⟨here, also⟩ := now.beside.nth?_one_eq (both.level _) (both.level _)
      rw [Parser.tagKeyword?, Parser.tagKeyword?, here, also]
      change (two.kindAt? _).bind _ = _
      rcases both.kindAt? (one.visible (one.visible p.position + 1)) with same | ⟨here, there⟩
      · exact congrArg (Option.bind · TokenKind.keyword?) same
      · exact (congrArg (Option.bind · TokenKind.keyword?) there).trans
          (congrArg (Option.bind · TokenKind.keyword?) here).symm
    openBody := fun now closer => ⟨now.beside.openBody closer, now.from_, now.upTo⟩
    closeBody := fun now => ⟨now.beside.closeBody, now.from_, now.upTo⟩
    text := fun o o' p q now => building.node .text now fun opened => by
      refine linked_loop opened (fun _ => isSome_of_and) (fun _ => isSome_of_and)
        (fun r s now => by rw [going_eq, going_eq, itemKind now]) (fun r _ => past_bump r)
        (fun r _ => past_bump r) fun r s now _ => ?_
      exact ⟨now.origin, now.now.bump (both.level _) (present now.now), now.left.step growing_bump,
        now.right.step growing_bump⟩
    variableTag := fun {_ _ p _} now tag => by
      have starts := (seen now.now).1.symm.trans tag
      obtain ⟨closer, opens⟩ := exists_closerAt? starts (.inr (.inl rfl))
      obtain ⟨stop, closer', shared, -⟩ := both.shares delimited opens
      exact Embedding.Inside.variableTag level places now tag shared
    comment := fun {_ _ p _} now note => by
      have starts := (seen now.now).1.symm.trans note
      have plain : ¬ chosen (one.visible p.position) := fun picked => by
        obtain ⟨stop, block⟩ := both.closed picked
        rw [block.starts] at starts
        cases starts
      obtain ⟨closer, opens⟩ := exists_closerAt? starts (.inr (.inr rfl))
      obtain ⟨stop, closer', shared, same⟩ := both.shares delimited opens
      rw [same plain] at shared
      exact Embedding.Inside.comment level places now note shared
    tagContents := fun {_ _ p _} now tag _ _ names names' => by
      have starts := (seen now.now).1.symm.trans tag
      obtain ⟨closer, opens⟩ := exists_closerAt? starts (.inl rfl)
      obtain ⟨stop, closer', shared, -⟩ := both.shares delimited opens
      exact Embedding.Inside.tagContents level places shared now tag names names' }

end Interchanged

/-- Line statements in the place of closed block tags change nothing in the tree but places, and the
same is told of the same tokens. -/
theorem interchanged_parse (delimited : one.Delimited) (both : Interchanged one two chosen)
    (limits : ParseLimits) :
    (two.parse limits).tree.unplaced = (one.parse limits).tree.unplaced ∧
      List.Forall₂ (Diagnostic.Aligned one two) (one.parse limits).diagnostics.toList
        (two.parse limits).diagnostics.toList ∧
      (two.parse limits).statistics = (one.parse limits).statistics :=
  aligned_parse both.size (both.level 0) (both.outer delimited) limits

/-- The start of a condition may be a line statement though its end tag is none. In both places a
test and an operand are missing. -/
theorem interchanged_parse_condition :
    let one : TokenStream := ⟨"\x7b%if%\x7d\x7b\x7b\x7d\x7d\x7b%endif%\x7d",
      #[⟨.delimiter .blockStart, 0, 2⟩, ⟨.keyword .ifKw, 2, 4⟩, ⟨.delimiter .blockEnd, 4, 6⟩,
        ⟨.delimiter .variableStart, 6, 8⟩, ⟨.delimiter .variableEnd, 8, 10⟩,
        ⟨.delimiter .blockStart, 10, 12⟩, ⟨.keyword .endIf, 12, 17⟩,
        ⟨.delimiter .blockEnd, 17, 19⟩],
      #[.template, .blockTag, .blockTag, .template, .variableTag, .template, .blockTag,
        .blockTag], .template⟩
    let two : TokenStream := ⟨"%%if\n\x7b\x7b\x7d\x7d\x7b%endif%\x7d",
      #[⟨.delimiter .blockStart, 0, 2⟩, ⟨.keyword .ifKw, 2, 4⟩, ⟨.newline, 4, 5⟩,
        ⟨.delimiter .variableStart, 5, 7⟩, ⟨.delimiter .variableEnd, 7, 9⟩,
        ⟨.delimiter .blockStart, 9, 11⟩, ⟨.keyword .endIf, 11, 16⟩,
        ⟨.delimiter .blockEnd, 16, 18⟩],
      #[.template, .lineStatement, .lineStatement, .template, .variableTag, .template, .blockTag,
        .blockTag], .template⟩
    ofSource one.source (.stock "%%" "##") = .ok one ∧
      ofSource two.source (.stock "%%" "##") = .ok two ∧
      one.Delimited ∧ Interchanged one two (· = 0) ∧
      (two.parse ⟨8, 8⟩).tree.unplaced = (one.parse ⟨8, 8⟩).tree.unplaced ∧
      List.Forall₂ (Diagnostic.Aligned one two) (one.parse ⟨8, 8⟩).diagnostics.toList
        (two.parse ⟨8, 8⟩).diagnostics.toList ∧
      (two.parse ⟨8, 8⟩).statistics = (one.parse ⟨8, 8⟩).statistics ∧
      (one.parse ⟨8, 8⟩).diagnostics.map (·.offset) = #[4, 8] ∧
      (two.parse ⟨8, 8⟩).diagnostics.map (·.offset) = #[4, 7] := by
  intro one two
  have read : ofSource one.source (.stock "%%" "##") = .ok one :=
    ofSource_of_isFresh (by decide +kernel)
  have read' : ofSource two.source (.stock "%%" "##") = .ok two :=
    ofSource_of_isFresh (by decide +kernel)
  have delimited := (delimited_ofSource read).1
  have block : one.ClosedBlock 0 2 :=
    ⟨rfl, by decide, fun | 1, _, _ => rfl, rfl⟩
  have both : Interchanged one two (· = 0) := {
    closed := fun picked => by
      obtain rfl := picked
      exact ⟨2, block⟩
    line := fun picked => by
      obtain rfl := picked
      rfl
    newline := fun picked other => by
      obtain rfl := picked
      have ends : unlessStructural (one.kindAt? 2) = none := rfl
      have ends' := congrArg unlessStructural other.ends
      obtain rfl := block.loose.unique other.loose block.before other.before ends ends'
      rfl
    kinds := fun {index} rest => by
      match index with
      | 0 | 1 | 3 | 4 | 5 | 6 | 7 => rfl
      | 2 => exact absurd block (rest 0 rfl)
      | further + 8 => rfl
    modes := fun {index} rest starts => by
      match index with
      | 0 => exact absurd rfl rest
      | 1 | 2 | 3 | 4 | 6 | 7 | _ + 8 => simp [kindAt?, one] at starts
      | 5 => rfl }
  exact ⟨read, read', delimited, both, (interchanged_parse delimited both ⟨8, 8⟩).1,
    (interchanged_parse delimited both ⟨8, 8⟩).2.1, (interchanged_parse delimited both ⟨8, 8⟩).2.2,
    by decide +kernel, by decide +kernel⟩

end TokenStream
end Stencil
