import Stencil.Proofs.Coupling.Space
import Stencil.Proofs.Coupling.Template
import Stencil.Proofs.Tree.Embedding
/-!
# Parses within parses

One stream may be read as part of another: its tokens come so many places later there, and the other
parser has built and read something before (`Embedding`). Two parsers are `Beside` each other when
they stand at the same token and one has built and told in the other tree what the other has. Where
the same kinds of tokens follow they stay so: in a stretch of loose tokens this is an inner
coupling, and where all kinds and modes agree it is a coupling. Two streams of as many tokens are
parsed into the same tree up to places, and with the same reports about the same tokens, where their
parsers find the same items and read them in the same way (`TokenStream.aligned_parse`).
-/

namespace Stencil

/-- How the parse of one stream is part of the parse of another. -/
structure Embedding extends TreeEmbedding where
  left : TokenStream
  right : TokenStream
  /-- The deepest level before. -/
  depth : Nat

/-- Diagnostics that tell the same of the same token, or of the end. -/
structure Embedding.CarriesDiagnostic (e : Embedding) (one two : Diagnostic) : Prop where
  fault : two.fault = one.fault
  message : two.message = one.message
  place : ∃ index ≤ e.left.size,
    one.offset = e.left.offsetAt index ∧ two.offset = e.right.offsetAt (index + e.tokens)

namespace TokenStream

/-- What is seen from a place lies before any token after it that is not white space. -/
theorem visible_le {stream : TokenStream} {index stop : Nat} (before : index ≤ stop)
    (solid : stream.kindAt? stop ≠ some .whitespace) : stream.visible index ≤ stop := by
  induction further : stop - index generalizing index with
  | zero =>
    obtain rfl : index = stop := by omega
    exact Nat.le_of_eq (stream.visible_of_not_space solid)
  | succ further ih =>
    by_cases blank : stream.kindAt? index = some .whitespace
    · rw [stream.visible_of_space blank]
      exact ih (by omega) (by omega)
    · rw [stream.visible_of_not_space blank]
      exact before

/-- The end is not white space. -/
theorem solid_size (stream : TokenStream) : stream.kindAt? stream.size ≠ some .whitespace := by
  rw [stream.kindAt?_eq_none.2 (Nat.le_refl _)]
  rintro ⟨⟩

end TokenStream

namespace Parser

/-- White space is skipped one token at a time. -/
theorem skipSpace_of_space {p : Parser} (blank : p.stream.kindAt? p.position = some .whitespace) :
    p.skipSpace = p.take.skipSpace := by
  have inside : p.position < p.stream.size := by
    rw [← TokenStream.kindAt?_isSome, blank]
    rfl
  have count : p.remaining = p.take.remaining + 1 := by
    simp only [remaining, take]
    omega
  rw [skipSpace, count, takeSpace, if_pos blank]
  rfl

/-- The builder of a parser that begins to read a template. -/
theorem builder_start (stream : TokenStream) (limits : ParseLimits) :
    ((ofStream stream limits).start .template).builder =
      ⟨stream.tokens, #[], [⟨.template, #[], (ofStream stream limits).skipSpace.offset⟩], none⟩ :=
  congrArg (TreeBuilder.start · .template _) (takeSpace_builder rfl _)

end Parser

open Stencil.Parser

namespace Embedding

variable (e : Embedding)

/-- The parsers stand at the same token, and what one has built and told the other has built and
told in its tree. -/
structure Beside (p q : Parser) : Prop where
  first : p.stream = e.left
  second : q.stream = e.right
  position : q.position = p.position + e.tokens
  tokens : p.builder.tokens = e.left.tokens
  carries : e.Carries p.builder q.builder
  within : p.builder.opened ≠ []
  limits : q.limits = p.limits
  depth : q.depth = p.depth
  maxDepth : q.maxDepth = max e.depth p.maxDepth
  depthReported : q.depthReported = p.depthReported
  awaited : q.awaited = p.awaited
  suppressed : q.suppressed = p.suppressed
  told : List.Forall₂ e.CarriesDiagnostic p.diagnostics.toList q.diagnostics.toList

/-- From a place up to where a parser looks there is white space on both sides or on neither. -/
def Level (index : Nat) : Prop := ∀ place, index ≤ place → place ≤ e.left.visible index →
  (e.right.kindAt? (place + e.tokens) = some .whitespace ↔
    e.left.kindAt? place = some .whitespace)

/-- Places on both sides lie at related offsets. -/
def Places : Prop :=
  ∀ index ≤ e.left.size, e.offsets (e.left.offsetAt index) (e.right.offsetAt (index + e.tokens))

variable {e} {o o' p q r s : Parser}

/-! ### White space -/

/-- A place is level after white space if it was before it. -/
theorem Level.next {index : Nat} (level : e.Level index)
    (blank : e.left.kindAt? index = some .whitespace) : e.Level (index + 1) := by
  intro place after before
  rw [← e.left.visible_of_space blank] at before
  exact level place (Nat.le_of_succ_le after) before

/-- Both parsers look at the same token. -/
theorem Level.visible {index : Nat} (level : e.Level index) :
    e.right.visible (index + e.tokens) = e.left.visible index + e.tokens := by
  induction count : e.left.visible index - index generalizing index with
  | zero =>
    have here : e.left.visible index = index := by
      have ahead := e.left.le_visible index
      omega
    have solid := e.left.kindAt?_visible index
    rw [here] at solid ⊢
    apply e.right.visible_of_not_space
    exact mt (level index (Nat.le_refl _) (e.left.le_visible index)).1 solid
  | succ further ih =>
    have blank : e.left.kindAt? index = some .whitespace := by
      apply Classical.byContradiction
      intro solid
      rw [e.left.visible_of_not_space solid] at count
      omega
    have blank' := (level index (Nat.le_refl _) (e.left.le_visible index)).2 blank
    have fewer : e.left.visible (index + 1) - (index + 1) = further := by
      rw [← e.left.visible_of_space blank]
      omega
    rw [e.right.visible_of_space blank', e.left.visible_of_space blank, ← ih (level.next blank)
      fewer, Nat.add_right_comm]

/-- Two parsers are still beside each other when both take a token. -/
theorem Beside.take (both : e.Beside p q) (inside : p.position < e.left.size) :
    e.Beside p.take q.take := by
  have known : p.position < p.builder.tokens.size := by
    rw [both.tokens]
    exact inside
  have carried := both.carries.token both.within known
  rw [← both.position] at carried
  obtain ⟨innermost, outer, opened⟩ := List.exists_cons_of_ne_nil both.within
  have added : p.take.builder.opened ≠ [] ∧ p.take.builder.tokens = p.builder.tokens := by
    obtain ⟨_, _, _, ⟨_, _, _, _⟩, _⟩ := p
    obtain rfl := opened
    exact ⟨List.cons_ne_nil _ _, rfl⟩
  exact { both with
    position := by simp only [Parser.take, both.position, Nat.add_right_comm]
    tokens := added.2.trans both.tokens
    carries := carried
    within := added.1 }

/-- Two parsers at a level place pass over the same white space. -/
theorem Beside.skipSpace (both : e.Beside p q) (level : e.Level p.position) :
    e.Beside p.skipSpace q.skipSpace := by
  induction count : e.left.visible p.position - p.position generalizing p q with
  | zero =>
    have here : e.left.visible p.position = p.position := by
      have ahead := e.left.le_visible p.position
      omega
    have also := level.visible
    rw [here, ← both.position, ← both.second] at also
    rw [← both.first] at here
    rw [skipSpace_of_visible here, skipSpace_of_visible also]
    exact both
  | succ further ih =>
    have blank : e.left.kindAt? p.position = some .whitespace := by
      apply Classical.byContradiction
      intro solid
      rw [e.left.visible_of_not_space solid] at count
      omega
    have inside : p.position < e.left.size := by
      rw [← TokenStream.kindAt?_isSome, blank]
      rfl
    have blank' := (level p.position (Nat.le_refl _) (e.left.le_visible _)).2 blank
    have fewer : e.left.visible (p.position + 1) - (p.position + 1) = further := by
      rw [← e.left.visible_of_space blank]
      omega
    have next := level.next blank
    rw [← both.position, ← both.second] at blank'
    rw [← both.first] at blank
    rw [skipSpace_of_space blank, skipSpace_of_space blank']
    exact ih (both.take inside) next fewer

/-- Both parsers take the token they see, or none is left. -/
theorem Beside.bump (both : e.Beside p q) (level : e.Level p.position)
    (same : q.current?.isSome = p.current?.isSome) : e.Beside p.bump q.bump := by
  have spaced := both.skipSpace level
  have inside (r : Parser) :
      r.skipSpace.position < r.skipSpace.stream.size ↔ r.current?.isSome := by
    rw [r.current?_isSome_iff, r.skipSpace_position, Parser.skipSpace, r.takeSpace_stream]
  rw [Parser.bump, Parser.bump]
  by_cases some : p.current?.isSome
  · have within := (inside p).2 some
    rw [if_pos within, if_pos ((inside q).2 (same.trans some))]
    rw [spaced.first] at within
    exact spaced.take within
  · rw [if_neg (mt (inside p).1 some), if_neg (mt (inside q).1 (same ▸ some))]
    exact spaced

/-! ### Building and reporting -/

/-- Both parsers are at offsets that are related. -/
theorem Beside.offset (both : e.Beside p q) (level : e.Level p.position) :
    p.offset = e.left.offsetAt (e.left.visible p.position) ∧
      q.offset = e.right.offsetAt (e.left.visible p.position + e.tokens) := by
  rw [offset_eq, offset_eq, both.first, both.second, both.position, level.visible]
  exact ⟨rfl, rfl⟩

/-- Two parsers at a level place open the same node. -/
theorem Beside.start (both : e.Beside p q) (level : e.Level p.position) (places : e.Places)
    (inside : p.position ≤ e.left.size) (kind : NodeKind) :
    e.Beside (p.start kind) (q.start kind) := by
  have spaced := both.skipSpace level
  have at_ : p.skipSpace.position = e.left.visible p.position := by
    rw [p.skipSpace_position, both.first]
  have here : e.left.visible p.skipSpace.position = p.skipSpace.position := by
    rw [at_, TokenStream.visible_visible]
  have solid : e.left.kindAt? p.skipSpace.position ≠ some .whitespace := by
    rw [at_]
    exact e.left.kindAt?_visible _
  have level' : e.Level p.skipSpace.position := by
    intro place after before
    rw [here] at before
    obtain rfl := Nat.le_antisymm before after
    have reached := level p.skipSpace.position (at_ ▸ e.left.le_visible _) (Nat.le_of_eq at_)
    exact reached
  obtain ⟨one, two⟩ := spaced.offset level'
  have place : e.offsets p.skipSpace.offset q.skipSpace.offset := by
    rw [one, two]
    exact places _ (by rw [here, at_]; exact TokenStream.visible_le inside e.left.solid_size)
  exact { spaced with
    carries := spaced.carries.start spaced.within kind place
    within := List.cons_ne_nil _ _ }

/-- Two parsers at a level place open the same node at checkpoints they came past together. -/
theorem Beside.startAt (origin : e.Beside o o') (both : e.Beside p q)
    (level : e.Level p.position) (places : e.Places) (inside : p.position ≤ e.left.size)
    (kind : NodeKind) :
    e.Beside (p.startAt o.builder.checkpoint kind) (q.startAt o'.builder.checkpoint kind) := by
  obtain ⟨one, two⟩ := both.offset level
  have place : e.offsets p.offset q.offset := by
    rw [one, two]
    exact places _ (TokenStream.visible_le inside e.left.solid_size)
  have tokens : (p.startAt o.builder.checkpoint kind).builder.tokens = p.builder.tokens := by
    obtain ⟨_, _, _, ⟨_, _, opened, _⟩, _⟩ := p
    cases opened with
    | nil => rfl
    | cons innermost outer =>
      simp only [Parser.startAt, TreeBuilder.startAt]
      split <;> rfl
  exact { both with
    tokens := tokens.trans both.tokens
    carries := both.carries.startAt both.within kind (origin.carries.checkpoint origin.within) place
    within := List.ne_nil_of_length_pos (by rw [length_opened_startAt]; exact Nat.succ_pos _) }

/-- Two parsers close the same node, as long as another is open around it. -/
theorem Beside.finish (both : e.Beside p q) (inner : 2 ≤ p.builder.opened.length) :
    e.Beside p.finish q.finish := by
  have tokens : p.finish.builder.tokens = p.builder.tokens := by
    obtain ⟨_, _, _, ⟨_, _, opened, _⟩, _⟩ := p
    cases opened with
    | nil => rfl
    | cons innermost outer => cases outer <;> rfl
  exact { both with
    tokens := tokens.trans both.tokens
    carries := both.carries.finishNode inner
    within := opened_finish_ne_nil inner }

/-- The same is told of the same token. -/
theorem Beside.errorAt (origin : e.Beside o o') (both : e.Beside p q) (level : e.Level o.position)
    (inside : o.position ≤ e.left.size) (fault : SyntaxFault) (message : String) :
    e.Beside (p.errorAt o.offset fault message) (q.errorAt o'.offset fault message) := by
  obtain ⟨one, two⟩ := origin.offset level
  have full : q.limits.diagnostics ≤ q.diagnostics.size ↔
      p.limits.diagnostics ≤ p.diagnostics.size := by
    rw [both.limits, ← Array.length_toList, ← Array.length_toList, both.told.length_eq]
  rw [Parser.errorAt, Parser.errorAt]
  by_cases suppress : p.limits.diagnostics ≤ p.diagnostics.size
  · rw [if_pos suppress, if_pos (full.2 suppress)]
    exact { both with suppressed := congrArg (· + 1) both.suppressed }
  · rw [if_neg suppress, if_neg (mt full.1 suppress)]
    refine { both with told := ?_ }
    rw [Array.toList_push, Array.toList_push]
    exact List.rel_append both.told
      (.cons ⟨rfl, rfl, _, TokenStream.visible_le inside e.left.solid_size, one, two⟩ .nil)

/-- Two parsers at a level place are refused a level alike. -/
theorem Beside.refuse (both : e.Beside p q) (level : e.Level p.position)
    (inside : p.position ≤ e.left.size) : e.Beside p.refuse q.refuse := by
  have message := congrArg
    (fun limits : ParseLimits => "Nesting deeper than " ++ toString limits.depth ++ " levels")
    both.limits
  rw [Parser.refuse, Parser.refuse, both.depthReported, message]
  split
  · exact both
  · have marked : e.Beside { p with depthReported := true } { q with depthReported := true } :=
      { both with depthReported := rfl }
    exact marked.errorAt marked level inside _ _

/-- Two parsers go a level deeper alike. -/
theorem Beside.descend (both : e.Beside p q) : e.Beside p.descend q.descend :=
  { both with
    depth := congrArg (· + 1) both.depth
    maxDepth := by simp only [Parser.descend, both.maxDepth, both.depth, Nat.max_assoc] }

/-- Two parsers come a level up alike. -/
theorem Beside.ascend (both : e.Beside p q) : e.Beside p.ascend q.ascend :=
  { both with depth := congrArg (· - 1) both.depth }

/-- Two parsers open the same body. -/
theorem Beside.openBody (both : e.Beside p q) (closer : TokenKind) :
    e.Beside (p.openBody closer) (q.openBody closer) :=
  { both with awaited := congrArg (closer :: ·) both.awaited }

/-- Two parsers close the same body. -/
theorem Beside.closeBody (both : e.Beside p q) : e.Beside p.closeBody q.closeBody :=
  { both with awaited := congrArg List.tail both.awaited }

/-! ### Stretches -/

variable (e) in
/-- The parsers are beside each other in a stretch of the streams. -/
structure Inside (start stop : Nat) (p q : Parser) : Prop where
  beside : e.Beside p q
  from_ : start ≤ p.position
  upTo : p.position ≤ stop

section

variable {start stop : Nat} (within : stop ≤ e.left.size)
  (solid : e.left.kindAt? stop ≠ some .whitespace)
  (level : ∀ index, start ≤ index → index ≤ stop → e.Level index) (places : e.Places)

include solid in
/-- What is seen in a stretch is in it. -/
theorem Inside.visible_le (both : e.Inside start stop p q) :
    e.left.visible p.position ≤ stop := TokenStream.visible_le both.upTo solid

include within solid level places

/-- In a stretch with white space in the same places the parsers build and report in the same
way. -/
theorem building_inside : BuildingCoupling (e.Inside start stop) where
  levels both := by rw [Parser.levels, Parser.levels, both.beside.limits, both.beside.depth]
  within both := both.beside.within
  skipSpace {p _} both := by
    have at_ : p.skipSpace.position = e.left.visible p.position := by
      rw [p.skipSpace_position, both.beside.first]
    refine ⟨both.beside.skipSpace (level _ both.from_ both.upTo), ?_, ?_⟩
    · exact at_ ▸ Nat.le_trans both.from_ (e.left.le_visible _)
    · exact at_ ▸ both.visible_le solid
  start {p _} both kind := by
    have at_ : (p.start kind).position = e.left.visible p.position :=
      p.skipSpace_position.trans (by rw [both.beside.first])
    refine ⟨both.beside.start (level _ both.from_ both.upTo) places
      (Nat.le_trans both.upTo within) kind, ?_, ?_⟩
    · exact at_ ▸ Nat.le_trans both.from_ (e.left.le_visible _)
    · exact at_ ▸ both.visible_le solid
  startAt origin both _ _ _ _ kind :=
    ⟨origin.beside.startAt both.beside (level _ both.from_ both.upTo) places
      (Nat.le_trans both.upTo within) kind, both.from_, both.upTo⟩
  finish both inner := ⟨both.beside.finish inner, both.from_, both.upTo⟩
  errorAt {o _ p _} origin both fault _ message := by
    have still := (reads_errorAt p o.offset fault message).2
    exact ⟨origin.beside.errorAt both.beside (level _ origin.from_ origin.upTo)
      (Nat.le_trans origin.upTo within) fault message, still ▸ both.from_, still ▸ both.upTo⟩
  refuse {p _} both := by
    have still := (reads_refuse p).2.1
    exact ⟨both.beside.refuse (level _ both.from_ both.upTo) (Nat.le_trans both.upTo within),
      still ▸ both.from_, still ▸ both.upTo⟩
  descend both := ⟨both.beside.descend, both.from_, both.upTo⟩
  ascend both := ⟨both.beside.ascend, both.from_, both.upTo⟩

end

/-! ### What both parsers see -/

/-- Both parsers look at the tokens with the same number. -/
theorem Beside.current?_eq (both : e.Beside p q) (level : e.Level p.position) :
    p.current? = e.left.kindAt? (e.left.visible p.position) ∧
      q.current? = e.right.kindAt? (e.left.visible p.position + e.tokens) := by
  rw [Parser.current?_eq, Parser.current?_eq, both.first, both.second, both.position,
    level.visible]
  exact ⟨rfl, rfl⟩

/-- So they do at the tokens after these. -/
theorem Beside.nth?_one_eq (both : e.Beside p q) (level : e.Level p.position)
    (further : e.Level (e.left.visible p.position + 1)) :
    p.nth? 1 = e.left.kindAt? (e.left.visible (e.left.visible p.position + 1)) ∧
      q.nth? 1 = e.right.kindAt? (e.left.visible (e.left.visible p.position + 1) + e.tokens) := by
  rw [Parser.nth?_one_eq, Parser.nth?_one_eq, both.first, both.second, both.position,
    level.visible, Nat.add_right_comm, further.visible]
  exact ⟨rfl, rfl⟩

variable (e) in
/-- A stretch of loose tokens, of the same kinds on both sides, up to a structural token or the end
on either side. -/
structure Stretch (start stop : Nat) : Prop where
  within : stop ≤ e.left.size
  loose : e.left.Loose start stop
  same : ∀ index, start ≤ index → index < stop →
    e.right.kindAt? (index + e.tokens) = e.left.kindAt? index
  ends : unlessStructural (e.left.kindAt? stop) = none
  ends' : unlessStructural (e.right.kindAt? (stop + e.tokens)) = none

section

variable {start stop : Nat} (stretch : e.Stretch start stop)

include stretch

/-- A stretch does not end in white space. -/
theorem Stretch.solid : e.left.kindAt? stop ≠ some .whitespace := by
  intro blank
  have ends := stretch.ends
  rw [blank] at ends
  contradiction

/-- From within a stretch the next token that is seen lies no further than its end. -/
theorem Stretch.visible_le {index : Nat} (before : index ≤ stop) :
    e.left.visible index ≤ stop := TokenStream.visible_le before stretch.solid

/-- Every place of a stretch is level. -/
theorem Stretch.level (index : Nat) (from_ : start ≤ index) (upTo : index ≤ stop) :
    e.Level index := by
  intro place after before
  have last := Nat.le_trans before (stretch.visible_le upTo)
  rcases Nat.lt_or_eq_of_le last with earlier | rfl
  · rw [stretch.same place (Nat.le_trans from_ after) earlier]
  · refine iff_of_false (fun blank => ?_) stretch.solid
    have ends := stretch.ends'
    rw [blank] at ends
    contradiction

/-- The same is seen in the stretch, and nothing loose at its end. -/
theorem Stretch.seen {index : Nat} (from_ : start ≤ index) (upTo : index ≤ stop) :
    unlessStructural (e.right.kindAt? (e.left.visible index + e.tokens)) =
      unlessStructural (e.left.kindAt? (e.left.visible index)) := by
  have ahead := e.left.le_visible index
  rcases Nat.lt_or_eq_of_le (stretch.visible_le upTo) with earlier | last
  · rw [stretch.same _ (Nat.le_trans from_ ahead) earlier]
  · rw [last, stretch.ends, stretch.ends']

/-- A loose token that is seen in the stretch comes before its end. -/
theorem Stretch.visible_lt (both : e.Inside start stop p q) (loose : p.atStructural = false) :
    e.left.visible p.position < stop := by
  apply Nat.lt_of_le_of_ne (stretch.visible_le both.upTo)
  intro last
  have seen := (both.beside.current?_eq (stretch.level _ both.from_ both.upTo)).1
  have none := stretch.ends
  rw [← last, ← seen, unlessStructural_eq_none, loose] at none
  contradiction

/-- In a stretch parsers see the same inside a tag. -/
theorem Stretch.inner (places : e.Places) : InnerCoupling (e.Inside start stop) :=
  { building_inside stretch.within stretch.solid stretch.level places with
    current? := fun {p q} both => by
      obtain ⟨here, also⟩ := both.beside.current?_eq (stretch.level _ both.from_ both.upTo)
      rw [here, also]
      exact stretch.seen both.from_ both.upTo
    next? := fun {p q} both loose => by
      have before := stretch.visible_lt both loose
      have from_ := Nat.le_trans both.from_ (e.left.le_visible p.position)
      obtain ⟨next, also⟩ := both.beside.nth?_one_eq (stretch.level _ both.from_ both.upTo)
        (stretch.level _ (Nat.le_succ_of_le from_) before)
      rw [next, also]
      exact stretch.seen (Nat.le_succ_of_le from_) before
    bump := fun {p q} both loose => by
      have level := stretch.level _ both.from_ both.upTo
      have before := stretch.visible_lt both loose
      have from_ := Nat.le_trans both.from_ (e.left.le_visible p.position)
      obtain ⟨here, also⟩ := both.beside.current?_eq level
      have same := stretch.same _ from_ before
      have taken : p.bump.position = e.left.visible p.position + 1 := by
        have inside := p.current?_isSome_iff.1 (isSome_of_loose loose)
        rw [bump_position, if_pos inside, both.beside.first]
      refine ⟨both.beside.bump level (by rw [here, also, same]), ?_, ?_⟩
      · rw [taken]
        exact Nat.le_succ_of_le from_
      · rw [taken]
        exact before }

end

/-! ### Streams that agree throughout -/

variable (e) in
/-- The parsers are beside each other in the whole of the stream that is part of the other. -/
abbrev Throughout : Parser → Parser → Prop := e.Inside 0 e.left.size

/-- Throughout the stream nothing is seen beyond its end. -/
theorem building_throughout (level : ∀ index ≤ e.left.size, e.Level index) (places : e.Places) :
    BuildingCoupling e.Throughout :=
  building_inside (Nat.le_refl _) e.left.solid_size (fun index _ upTo => level index upTo) places

/-- A token is taken on both sides, or none. -/
theorem Inside.bump (both : e.Throughout p q) (level : e.Level p.position)
    (same : q.current?.isSome = p.current?.isSome) : e.Throughout p.bump q.bump := by
  refine ⟨both.beside.bump level same, Nat.zero_le _, ?_⟩
  have inside := TokenStream.visible_le both.upTo e.left.solid_size
  rw [bump_position, both.beside.first]
  split
  next before => exact before
  · exact inside

/-- Parsers over streams in which the same kinds of tokens lead to the same modes are coupled. -/
theorem coupling_throughout
    (kinds : ∀ index, e.right.kindAt? (index + e.tokens) = e.left.kindAt? index)
    (modes : ∀ index, e.right.modeAfter? (index + e.tokens) = e.left.modeAfter? index)
    (places : e.Places) : Coupling e.Throughout := by
  have level (index : Nat) : e.Level index := fun place _ _ => by rw [kinds]
  have current? {p q : Parser} (both : e.Throughout p q) : q.current? = p.current? := by
    obtain ⟨here, also⟩ := both.beside.current?_eq (level _)
    rw [here, also, kinds]
  exact {
    building_throughout (fun index _ => level index) places with
    current? := current?
    next? := fun both => by
      obtain ⟨next, also⟩ := both.beside.nth?_one_eq (level _) (level _)
      rw [next, also, kinds]
    nextMode? := fun both => by
      rw [nextMode?_eq, nextMode?_eq, both.beside.first, both.beside.second,
        both.beside.position, (level _).visible, modes]
    awaited := fun both => both.beside.awaited
    bump := fun both => both.bump (level _) (by rw [current? both])
    openBody := fun both closer => ⟨both.beside.openBody closer, both.from_, both.upTo⟩
    closeBody := fun both => ⟨both.beside.closeBody, both.from_, both.upTo⟩ }

/-! ### Where the stream begins -/

variable (e) in
/-- A parser that comes to where the stream that is part of its own begins. It has built and read
what comes before, nothing but the outermost node is open, and nothing was told. -/
structure Comes (limits : ParseLimits) (q : Parser) : Prop where
  stream : q.stream = e.right
  position : q.position = e.left.visible 0 + e.tokens
  tokens {index : Nat} {token : Token} (found : e.left.tokens[index]? = some token) :
    ∃ other, q.builder.tokens[index + e.tokens]? = some other ∧
      e.offsets token.start other.start ∧ e.offsets token.stop other.stop
  nodes : q.builder.nodes = e.nodes
  opened : ∃ offset, q.builder.opened = [⟨.template, e.children, offset⟩]
  limits : q.limits = limits
  depth : q.depth = 0
  maxDepth : q.maxDepth = e.depth
  depthReported : q.depthReported = false
  awaited : q.awaited = []
  suppressed : q.suppressed = 0
  told : q.diagnostics = #[]

variable {limits : ParseLimits}

/-- A parser that begins to read the stream is beside one that comes to where it begins. -/
theorem Comes.throughout (comes : e.Comes limits q) :
    e.Throughout ((ofStream e.left limits).start .template) q := by
  have passes := (ofStream e.left limits).passes_skipSpace
  have at_ : ((ofStream e.left limits).start .template).position = e.left.visible 0 :=
    (ofStream e.left limits).skipSpace_position
  have built := builder_start e.left limits
  obtain ⟨offset, opened⟩ := comes.opened
  refine ⟨?_, Nat.zero_le _, ?_⟩
  · exact {
      first := passes.stream
      second := comes.stream
      position := comes.position.trans (congrArg (· + e.tokens) at_.symm)
      tokens := by rw [built]
      carries := by
        rw [built]
        refine ⟨comes.tokens, ⟨[], ?_, .nil⟩, ?_, fun node listed child member => ?_⟩
        · rw [comes.nodes, List.append_nil]
        · rw [opened]
          exact .cons rfl (by simp [TreeEmbedding.before]) (fun inner => absurd rfl inner) .nil
        · obtain rfl := List.mem_singleton.1 listed
          exact absurd member (Array.not_mem_empty child)
      within := List.cons_ne_nil _ _
      limits := comes.limits.trans passes.limits.symm
      depth := comes.depth.trans passes.depth.symm
      maxDepth := by
        have shallow : ((ofStream e.left limits).start .template).maxDepth = 0 := passes.maxDepth
        rw [comes.maxDepth, shallow, Nat.max_zero]
      depthReported := comes.depthReported.trans passes.depthReported.symm
      awaited := comes.awaited.trans passes.awaited.symm
      suppressed := comes.suppressed.trans passes.suppressed.symm
      told := by
        have untold : ((ofStream e.left limits).start .template).diagnostics = #[] := passes.told
        rw [untold, comes.told]
        exact .nil }
  · rw [at_]
    exact TokenStream.visible_le (Nat.zero_le _) e.left.solid_size

/-- With nothing before, a parser comes to where both streams begin. -/
theorem comes_start (tokens : e.tokens = 0) (nodes : e.nodes = #[]) (children : e.children = #[])
    (depth : e.depth = 0) (level : e.Level 0)
    (places : ∀ {index : Nat} {token : Token}, e.left.tokens[index]? = some token →
      ∃ other, e.right.tokens[index]? = some other ∧ e.offsets token.start other.start ∧
        e.offsets token.stop other.stop) :
    e.Comes limits ((ofStream e.right limits).start .template) := by
  have passes := (ofStream e.right limits).passes_skipSpace
  have built := builder_start e.right limits
  exact {
    stream := passes.stream
    position := by
      have seen := level.visible
      rw [tokens] at seen ⊢
      exact (ofStream e.right limits).skipSpace_position.trans seen
    tokens := fun found => by
      rw [built, tokens]
      exact places found
    nodes := by rw [built, nodes]
    opened := ⟨_, by rw [built, children]⟩
    limits := passes.limits
    depth := passes.depth
    maxDepth := passes.maxDepth.trans depth.symm
    depthReported := passes.depthReported
    awaited := passes.awaited
    suppressed := passes.suppressed
    told := passes.told }

/-- A template whose items are found and read in the same way where its stream is part of another
is built and told there as well. -/
theorem Comes.template (comes : e.Comes limits q) (c : OuterCoupling e.Throughout) :
    let one := (ofStream e.left limits).template
    let two := (q.loop (fun p => p.current?.isSome) item).skipSpace.finish
    e.CarriesTree one.builder.finish two.builder.finish ∧
      List.Forall₂ e.CarriesDiagnostic one.diagnostics.toList two.diagnostics.toList ∧
      two.maxDepth = max e.depth one.maxDepth ∧ two.suppressed = one.suppressed := by
  have items := c.keeps_items_of_template (linked comes.throughout)
  have read := items.now.beside
  have single : ((ofStream e.left limits).start .template).builder.opened.length = 1 := by
    rw [builder_start]
    rfl
  rw [← items.left.length_opened comes.throughout.beside.within] at single
  exact ⟨read.carries.finish single, read.told, read.maxDepth, read.suppressed⟩

end Embedding

/-! ### Streams aligned token by token -/

/-- Diagnostics that tell the same of the token with the same number, or of the end. -/
structure Diagnostic.Aligned (left right : TokenStream) (one two : Diagnostic) : Prop where
  fault : two.fault = one.fault
  message : two.message = one.message
  place : ∃ index ≤ left.size,
    one.offset = left.offsetAt index ∧ two.offset = right.offsetAt index

/-- One stream in the place of another: nothing comes before. -/
def Embedding.aligned (left right : TokenStream) : Embedding where
  tokens := 0
  nodes := #[]
  children := #[]
  offsets _ _ := True
  left := left
  right := right
  depth := 0

namespace TokenStream

variable {left right : TokenStream}

/-- Where items are found and read in the same way, streams of as many tokens are parsed in the same
way. -/
theorem aligned_parse (size : right.size = left.size)
    (level : (Embedding.aligned left right).Level 0)
    (c : OuterCoupling (Embedding.aligned left right).Throughout) (limits : ParseLimits) :
    (right.parse limits).tree.unplaced = (left.parse limits).tree.unplaced ∧
      List.Forall₂ (Diagnostic.Aligned left right) (left.parse limits).diagnostics.toList
        (right.parse limits).diagnostics.toList ∧
      (right.parse limits).statistics = (left.parse limits).statistics := by
  let p := ofStream left limits
  let q := ofStream right limits
  have comes : (Embedding.aligned left right).Comes limits (q.start .template) := by
    refine Embedding.comes_start rfl rfl rfl rfl level fun {index} token found => ?_
    have inside : index < right.tokens.size :=
      Nat.lt_of_lt_of_eq (Array.getElem?_eq_some_iff.1 found).1 size.symm
    exact ⟨_, Array.getElem?_eq_getElem inside, trivial, trivial⟩
  obtain ⟨carried, told, maxDepth, suppressed⟩ := comes.template c
  have trees : q.template.builder.finish.unplaced = p.template.builder.finish.unplaced :=
    carried.unplaced rfl rfl rfl
  rw [TokenStream.parse, TokenStream.parse, Parser.parse, Parser.parse,
    close_of_ended p.remaining_template, close_of_ended q.remaining_template]
  refine ⟨trees, told.imp fun _ _ carries => ⟨carries.fault, carries.message, carries.place⟩, ?_⟩
  have nodes := congrArg (fun tree => tree.nodes.size) trees
  simp only [SyntaxTree.unplaced, Array.size_map] at nodes
  rw [ParseStatistics.mk.injEq]
  refine ⟨nodes, maxDepth.trans (Nat.zero_max _), ?_, suppressed⟩
  rw [← Array.length_toList, ← Array.length_toList]
  exact told.length_eq.symm

end TokenStream
end Stencil
