import Stencil.Proofs.Coupling.Embedding
import Stencil.Proofs.Lexer.Delimited
/-!
# Tags that two streams share

A tag that is part of two streams holds the same kinds of tokens in both, and is closed in both,
by tokens that may differ, or in neither (`SharesTag`). What stands in it is a stretch, which the
parsers read in the same way; then each of them comes to its own closing token and takes it.
-/

namespace Stencil

open Stencil.Parser

namespace TokenStream

variable {stream : TokenStream}

/-- A stretch of loose tokens ends with the tokens of the stream at the latest. -/
theorem Loose.le_size {start stop : Nat} (loose : stream.Loose start stop)
    (begins : start ≤ stream.size) : stop ≤ stream.size := by
  apply Nat.le_of_not_lt
  intro beyond
  have token := loose stream.size begins beyond
  rw [stream.kindAt?_eq_none.2 (Nat.le_refl _)] at token
  contradiction

/-- Where a loose token stands, no structural one does. -/
theorem Loose.ne {start stop index : Nat} {kind : TokenKind} (loose : stream.Loose start stop)
    (from_ : start ≤ index) (structural : kind.isStructural = true)
    (found : stream.kindAt? index = some kind) : stop ≤ index := by
  apply Nat.le_of_not_lt
  intro before
  have token := loose index from_ before
  rw [found, Option.any_some, structural] at token
  contradiction

/-- What begins a tag is structural. -/
theorem exists_structural {opening : Nat} {closer : TokenKind}
    (opens : stream.closerAt? opening = some closer) :
    ∃ kind, stream.kindAt? opening = some kind ∧ kind.isStructural = true := by
  rw [closerAt?] at opens
  split at opens
  next starts => exact ⟨_, starts, rfl⟩
  next starts => exact ⟨_, starts, rfl⟩
  next starts => exact ⟨_, starts, rfl⟩
  · contradiction

/-- A start delimiter begins a tag. -/
theorem exists_closerAt? {opening : Nat} {mark : Delimiter}
    (starts : stream.kindAt? opening = some (.delimiter mark))
    (opener : mark = .blockStart ∨ mark = .variableStart ∨ mark = .commentStart) :
    ∃ closer, stream.closerAt? opening = some closer := by
  rw [closerAt?, starts]
  rcases opener with rfl | rfl | rfl <;> exact ⟨_, rfl⟩

/-- Two stretches with the same start that no loose token ends are the same. -/
theorem Loose.unique {start stop stop' : Nat} (loose : stream.Loose start stop)
    (loose' : stream.Loose start stop') (from_ : start ≤ stop) (from' : start ≤ stop')
    (ends : unlessStructural (stream.kindAt? stop) = none)
    (ends' : unlessStructural (stream.kindAt? stop') = none) : stop = stop' := by
  have none {index : Nat}
      (free : (stream.kindAt? index).any (fun kind => !kind.isStructural) = true) :
      unlessStructural (stream.kindAt? index) ≠ none := by
    rw [Option.any_eq_true] at free
    obtain ⟨kind, found, loose⟩ := free
    rw [found, (unlessStructural_eq_some (by simpa using loose) _).2 rfl]
    rintro ⟨⟩
  rcases Nat.lt_trichotomy stop stop' with earlier | same | later
  · exact absurd ends (none (loose' stop from_ earlier))
  · exact same
  · exact absurd ends' (none (loose stop' from' later))

/-- Where a tag is closed, or the stream ends in it, no loose token stands. -/
theorem unlessStructural_of_closes {opening stop : Nat} {closer : TokenKind}
    (opens : stream.closerAt? opening = some closer)
    (ends : stream.kindAt? stop = some closer ∨ stream.kindAt? stop = none) :
    unlessStructural (stream.kindAt? stop) = none := by
  rcases ends with closed | open_
  · have structural := isStructural_of_closerAt? opens
    rw [closed]
    exact Option.filter_some_neg (by simpa using structural)
  · rw [open_]
    rfl

end TokenStream

namespace Embedding

variable (e : Embedding)

/-- A tag of both streams: what stands in it is of the same kinds, and it is closed on both sides or
open at the end of both. -/
structure SharesTag (opening stop : Nat) (closer closer' : TokenKind) : Prop where
  opens : e.left.closerAt? opening = some closer
  opens' : e.right.closerAt? (opening + e.tokens) = some closer'
  begins : e.right.kindAt? (opening + e.tokens) = e.left.kindAt? opening
  before : opening < stop
  stretch : e.Stretch (opening + 1) stop
  ends : e.left.kindAt? stop = some closer ∧ e.right.kindAt? (stop + e.tokens) = some closer' ∨
    closer' = closer ∧ e.left.kindAt? stop = none ∧ e.right.kindAt? (stop + e.tokens) = none

variable {e} {o o' p q r s x y : Parser} {stop : Nat} {closer closer' : TokenKind}

/-- In a tag only its end is structural. -/
theorem SharesTag.closes {opening : Nat} (tag : e.SharesTag opening stop closer closer') :
    InnerCoupling.Closes (e.Inside (opening + 1) stop) closer closer' := by
  intro p q both structural
  have stretch := tag.stretch
  obtain ⟨here, also⟩ := both.beside.current?_eq (stretch.level _ both.from_ both.upTo)
  have last : e.left.visible p.position = stop := by
    apply Nat.le_antisymm (stretch.visible_le both.upTo)
    apply Nat.le_of_not_lt
    intro earlier
    have loose := stretch.loose _ (Nat.le_trans both.from_ (e.left.le_visible _)) earlier
    rw [← here, Option.any_eq_true] at loose
    obtain ⟨kind, seen, free⟩ := loose
    rw [atStructural_of_current? seen] at structural
    rw [structural] at free
    contradiction
  rw [last] at here also
  rcases tag.ends with ⟨one, two⟩ | ⟨same, one, two⟩
  · exact .inl ⟨(isAt_iff p _).2 (here.trans one), (isAt_iff q _).2 (also.trans two)⟩
  · exact .inr ⟨same, here.trans one, also.trans two⟩

/-- A comment that ends with the same kind of token on both sides is a line comment on both or on
neither. -/
theorem SharesTag.commentEnd {opening : Nat} (tag : e.SharesTag opening stop closer closer)
    (kind : e.left.kindAt? opening = some (.delimiter .commentStart)) :
    closer = (if e.left.modeAfter? opening = some .lineComment then .newline
        else .delimiter .commentEnd) ∧
      (e.right.modeAfter? (opening + e.tokens) = some .lineComment ↔
        e.left.modeAfter? opening = some .lineComment) := by
  have opens := tag.opens
  have opens' := tag.opens'
  rw [TokenStream.closerAt?, kind] at opens
  rw [TokenStream.closerAt?, tag.begins.trans kind] at opens'
  refine ⟨(Option.some.inj opens).symm, ?_⟩
  have same := (Option.some.inj opens').trans (Option.some.inj opens).symm
  by_cases one : e.left.modeAfter? opening = some .lineComment <;>
    by_cases two : e.right.modeAfter? (opening + e.tokens) = some .lineComment <;>
    simp [one, two] at same ⊢

section

variable (level : ∀ index ≤ e.left.size, e.Level index) (places : e.Places)
  (tag : e.SharesTag (e.left.visible p.position) stop closer closer')

include level

/-- A start delimiter is seen on both sides. -/
theorem Inside.current?_tag (both : e.Throughout p q)
    (tag : e.SharesTag (e.left.visible p.position) stop closer closer') :
    p.current?.isSome ∧ q.current? = p.current? := by
  obtain ⟨here, also⟩ := both.beside.current?_eq (level _ both.upTo)
  refine ⟨?_, by rw [here, also, tag.begins]⟩
  rw [here]
  have opens := tag.opens
  rw [TokenStream.closerAt?] at opens
  cases kind : e.left.kindAt? (e.left.visible p.position) with
  | none =>
    rw [kind] at opens
    contradiction
  | some => rfl

include tag

/-- After the start delimiter the parsers are in the tag. -/
theorem Inside.enter (both : Linked e.Throughout o o' p q) :
    Linked e.Throughout o o' p.bump q.bump ∧
      e.Inside (e.left.visible p.position + 1) stop p.bump q.bump := by
  obtain ⟨some, same⟩ := both.now.current?_tag level tag
  have taken := both.now.bump (level _ both.now.upTo) (by rw [same])
  have position : p.bump.position = e.left.visible p.position + 1 := by
    rw [bump_position, if_pos (p.current?_isSome_iff.1 some), both.now.beside.first]
  refine ⟨⟨both.origin, taken, both.left.step growing_bump, both.right.step growing_bump⟩,
    taken.beside, ?_, ?_⟩
  · exact Nat.le_of_eq position.symm
  · rw [position]
    exact tag.before

include places

/-- What stands before the ends of the tags is skipped, and the ends are taken. -/
theorem SharesTag.terminate {one two : Parser}
    (inside : Linked (e.Inside (e.left.visible p.position + 1) stop) one two r s)
    (both : Linked e.Throughout o o' one two) (fault : SyntaxFault)
    (own : fault ≠ .maxRecursionDepth) (message : String) :
    Linked e.Throughout o o' ((approach closer fault message r).skip closer)
      ((approach closer' fault message s).skip closer') := by
  have c := tag.stretch.inner places
  have structural := TokenStream.isStructural_of_closerAt? tag.opens
  have structural' := TokenStream.isStructural_of_closerAt? tag.opens'
  have ended := c.approach tag.closes structural structural' inside fault own message
  generalize approach closer fault message r = r at ended ⊢
  generalize approach closer' fault message s = s at ended ⊢
  have same := c.isAt_closer tag.closes structural structural' ended.now
  have now : e.Throughout r s :=
    ⟨ended.now.beside, Nat.zero_le _, Nat.le_trans ended.now.upTo tag.stretch.within⟩
  have arrived : Linked e.Throughout o o' r s :=
    ⟨both.origin, now, both.left.trans ended.left, both.right.trans ended.right⟩
  rw [skip_eq, skip_eq]
  refine both_ite (by rw [same]) (fun here => ?_) fun _ => arrived
  have taken := now.bump (level _ now.upTo)
    (by rw [isSome_of_isAt here, isSome_of_isAt (same.trans here)])
  exact ⟨both.origin, taken, arrived.left.step growing_bump, arrived.right.step growing_bump⟩

/-- The parsers read the tag in the same way, each up to its own end. -/
theorem Inside.tagContents (both : Linked e.Throughout o o' p q)
    (here : p.current? = some (.delimiter .blockStart)) {first first' : Option TokenKind}
    (names : first.bind TokenKind.keyword? = p.tagKeyword?)
    (names' : first'.bind TokenKind.keyword? = p.tagKeyword?) :
    Linked e.Throughout o o' (tagContents first p) (tagContents first' q) := by
  obtain ⟨entered, inside⟩ := Inside.enter level tag both
  have seen : first.bind TokenKind.keyword? = p.bump.current?.bind TokenKind.keyword? := by
    rw [names, current?_bump (here ▸ rfl)]
    rfl
  have header := (tag.stretch.inner places).header (linked inside) (names'.trans names.symm) seen
  have beside := both.now.beside
  have current := (beside.current?_eq (level _ both.now.upTo)).1
  have kind : e.left.kindAt? (e.left.visible p.position) = some (.delimiter .blockStart) :=
    current.symm.trans here
  have kind' := tag.begins.trans kind
  have opens := tag.opens
  have opens' := tag.opens'
  rw [TokenStream.closerAt?, kind] at opens
  rw [TokenStream.closerAt?, kind'] at opens'
  have mode : p.nextMode? = e.left.modeAfter? (e.left.visible p.position) := by
    rw [nextMode?_eq, beside.first]
  have mode' : q.nextMode? = e.right.modeAfter? (e.left.visible p.position + e.tokens) := by
    rw [nextMode?_eq, beside.second, beside.position, (level _ both.now.upTo).visible]
  rw [Parser.tagContents, Parser.tagContents, mode, mode', Option.some.inj opens,
    Option.some.inj opens', terminate_eq, terminate_eq]
  exact SharesTag.terminate level places tag header entered _ (by decide) _

end

section

variable (level : ∀ index ≤ e.left.size, e.Level index) (places : e.Places)

include level places

/-- A variable tag of both streams is read in the same way. -/
theorem Inside.variableTag (both : Linked e.Throughout o o' p q)
    (here : p.current? = some (.delimiter .variableStart))
    (tag : e.SharesTag (e.left.visible p.position) stop closer closer') :
    Linked e.Throughout o o' p.variableTag q.variableTag := by
  have building := building_throughout level places
  have current := (both.now.beside.current?_eq (level _ both.now.upTo)).1
  have kind := current.symm.trans here
  have opens := tag.opens
  have opens' := tag.opens'
  rw [TokenStream.closerAt?, kind] at opens
  rw [TokenStream.closerAt?, tag.begins.trans kind] at opens'
  obtain rfl := Option.some.inj opens
  obtain rfl := Option.some.inj opens'
  have at_ : e.left.visible (p.start .variableTag).position = e.left.visible p.position := by
    rw [← both.now.beside.first]
    exact (sees_start p .variableTag).visible
  rw [← at_] at tag
  rw [variableTag_eq, variableTag_eq]
  refine building.node .variableTag both fun opened => ?_
  obtain ⟨entered, inside⟩ := Inside.enter level tag opened
  exact SharesTag.terminate level places tag
    ((tag.stretch.inner places).keeps_expression (linked inside)) entered _ (by decide) _

/-- A comment of both streams that ends with the same kind of token is read in the same way. -/
theorem Inside.comment (both : Linked e.Throughout o o' p q)
    (here : p.current? = some (.delimiter .commentStart))
    (tag : e.SharesTag (e.left.visible p.position) stop closer closer) :
    Linked e.Throughout o o' p.comment q.comment := by
  have building := building_throughout level places
  have beside := both.now.beside
  have current := (beside.current?_eq (level _ both.now.upTo)).1
  have kind := current.symm.trans here
  have structural := TokenStream.isStructural_of_closerAt? tag.opens
  obtain ⟨ends, line⟩ := tag.commentEnd kind
  have mode : p.nextMode? = e.left.modeAfter? (e.left.visible p.position) := by
    rw [nextMode?_eq, beside.first]
  have mode' : q.nextMode? = e.right.modeAfter? (e.left.visible p.position + e.tokens) := by
    rw [nextMode?_eq, beside.second, beside.position, (level _ both.now.upTo).visible]
  rw [← mode, ← mode'] at line
  have at_ : e.left.visible (p.start .comment).position = e.left.visible p.position := by
    rw [← beside.first]
    exact (sees_start p .comment).visible
  rw [← at_] at tag
  rw [Parser.comment, Parser.comment]
  simp only [line]
  rw [mode, ← ends]
  refine building.node .comment both fun opened => ?_
  obtain ⟨entered, inside⟩ := Inside.enter level tag opened
  have c := tag.stretch.inner places
  have ended := c.linked_upTo tag.closes structural structural (linked inside)
  generalize (p.start .comment).bump.loop (fun p => p.current?.isSome && !p.isAt closer)
    Parser.bump = r at ended ⊢
  generalize (q.start .comment).bump.loop (fun p => p.current?.isSome && !p.isAt closer)
    Parser.bump = s at ended ⊢
  have now : e.Throughout r s :=
    ⟨ended.now.beside, Nat.zero_le _, Nat.le_trans ended.now.upTo tag.stretch.within⟩
  have arrived : Linked e.Throughout (p.start .comment) (q.start .comment) r s :=
    ⟨entered.origin, now, entered.left.trans ended.left, entered.right.trans ended.right⟩
  have same := c.isAt_closer tag.closes structural structural ended.now
  refine both_ite (by rw [same]) (fun closed => ?_) fun _ =>
    both_ite Iff.rfl (fun _ => arrived) fun _ => building.keeps_error _ (by decide) _ arrived
  have taken := now.bump (level _ now.upTo)
    (by rw [isSome_of_isAt closed, isSome_of_isAt (same.trans closed)])
  exact ⟨arrived.origin, taken, arrived.left.step growing_bump, arrived.right.step growing_bump⟩

end

end Embedding
end Stencil
