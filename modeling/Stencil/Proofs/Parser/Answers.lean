import Stencil.Proofs.Parser.Arrival
/-!
# Reading a phrase or reporting

`Answers` says what lies between two moments of a parse: something was reported, or the tokens in
between are what a phrase derives and were read into its shapes. A step is `Sound` for a phrase when
it answers so wherever it starts. A step that stops early, gives up or puts a placeholder has to
report; the lemmas here carry this over to the ways in which the parser puts steps together.
-/

namespace Stencil

namespace Grammar

/-- An operand from its first token on. -/
def alone (operand : Operand) : Phrase := fun start stop shapes =>
  ∃ shape, operand start stop shape ∧ shapes = [shape]

/-- An operand and a step that puts a node around it. -/
def extended (operand : Operand) (step : Shape → Operand) : Operand := fun start stop shape =>
  ∃ middle inside, operand start middle inside ∧ step inside middle stop shape

/-- Whatever one phrase derives another does. -/
def Phrase.Within (phrase other : Phrase) : Prop :=
  ∀ (start stop : Nat) (shapes : List Shape), phrase start stop shapes → other start stop shapes

variable {first second third other : Phrase}

/-- It makes no difference how phrases in a row are grouped. -/
theorem Phrase.append_assoc (first second third : Phrase) :
    first ++ second ++ third = first ++ (second ++ third) := by
  funext start stop shapes
  apply propext
  constructor
  · rintro ⟨late, _, right, ⟨early, left, middle, one, two, rfl⟩, three, rfl⟩
    exact ⟨early, left, middle ++ right, one, ⟨late, middle, right, two, three, rfl⟩,
      List.append_assoc left middle right⟩
  · rintro ⟨early, left, _, one, ⟨late, middle, right, two, three, rfl⟩, rfl⟩
    exact ⟨late, left ++ middle, right, ⟨early, left, middle, one, two, rfl⟩, three,
      (List.append_assoc left middle right).symm⟩

/-- A phrase is widened after another. -/
theorem Phrase.Within.after (within : second.Within third) (first : Phrase) :
    (first ++ second).Within (first ++ third) := by
  rintro start stop _ ⟨middle, left, right, one, two, rfl⟩
  exact ⟨middle, left, right, one, within _ _ _ two, rfl⟩

/-- A phrase is widened before another. -/
theorem Phrase.Within.before (within : first.Within second) (third : Phrase) :
    (first ++ third).Within (second ++ third) := by
  rintro start stop _ ⟨middle, left, right, one, two, rfl⟩
  exact ⟨middle, left, right, within _ _ _ one, two, rfl⟩

/-- A phrase that may be missing may be there. -/
theorem Phrase.within_optional (phrase : Phrase) : phrase.Within phrase.optional :=
  fun _ _ _ found => .inr found

/-- A phrase that may be missing may be missing after another. -/
theorem Phrase.within_append_optional (first second : Phrase) :
    first.Within (first ++ second.optional) := fun _ stop shapes found =>
  ⟨stop, shapes, [], found, .inl ⟨rfl, rfl⟩, (List.append_nil shapes).symm⟩

variable {stream : TokenStream}

/-- A phrase once more. -/
theorem repeated_concat (phrase : Phrase) :
    Phrase.Within (phrase.repeated ++ phrase) phrase.repeated := by
  rintro start stop _ ⟨middle, left, right, several, next, rfl⟩
  induction several with
  | last only => exact .more only (.last next)
  | more first _ ih =>
    rw [List.append_assoc]
    exact .more first (ih next)

/-- A list goes on with a comma and a list. -/
theorem further_of_listing (item : Operand) :
    Phrase.Within (comma stream ++ listing stream item) (further stream item) := by
  rintro start stop _ ⟨middle, left, _, mark, ⟨next, first, rest, one, others, rfl⟩, rfl⟩
  have head : (comma stream ++ spaced stream item) start next (left ++ first) :=
    ⟨middle, left, first, mark, one, rfl⟩
  rw [← List.append_assoc]
  rcases others with ⟨rfl, rfl⟩ | more
  · rw [List.append_nil]
    exact .last head
  · exact .more head more

end Grammar

namespace Parser

open Grammar (Phrase Operand space word token spaced node around alone extended)

/-! ### The number of reports -/

/-- The number of diagnostics, recorded and beyond the limit. -/
def reports (p : Parser) : Nat := p.diagnostics.size + p.suppressed

/-- An opened node reports nothing. -/
@[simp] theorem reports_start (p : Parser) (kind : NodeKind) :
    (p.start kind).reports = p.reports := by
  obtain ⟨diagnostics, suppressed, -⟩ := p.takeSpace_quiet p.remaining
  change (p.takeSpace p.remaining).diagnostics.size + (p.takeSpace p.remaining).suppressed = _
  rw [diagnostics, suppressed, reports]

/-- White space counts no report. -/
@[simp] theorem reports_skipSpace (p : Parser) : p.skipSpace.reports = p.reports :=
  p.reports_start .template

/-- A token that is taken counts no report. -/
@[simp] theorem reports_bump (p : Parser) : p.bump.reports = p.reports := by
  rw [bump]
  split
  · exact p.reports_skipSpace
  · exact p.reports_skipSpace

/-- A closed node counts no report. -/
@[simp] theorem reports_finish (p : Parser) : p.finish.reports = p.reports := rfl

/-- Every report is counted. -/
theorem reports_errorAt (p : Parser) (offset : Nat) (fault : SyntaxFault) (message : String) :
    (p.errorAt offset fault message).reports = p.reports + 1 := by
  rw [errorAt]
  split
  · exact (Nat.add_assoc _ _ _).symm
  · simp only [reports, Array.size_push]
    omega

/-- A report is counted once, whether it is recorded or suppressed. -/
@[simp] theorem reports_error (p : Parser) (fault : SyntaxFault) (message : String) :
    (p.error fault message).reports = p.reports + 1 := p.reports_errorAt _ _ _

/-- The limit on nesting is reported once. -/
theorem le_reports_refuse (p : Parser) : p.reports ≤ p.refuse.reports := by
  rw [refuse]
  split
  · exact Nat.le_refl _
  · rw [reports_error]
    exact Nat.le_succ _

/-- A placeholder is reported. -/
theorem reports_placeholder (p : Parser) : p.placeholder.reports = p.reports + 1 := by
  rw [placeholder, reports_finish]
  split
  · rw [reports_start, reports_error]
  · rw [reports_bump, reports_start, reports_error]

/-! ### Answers -/

/-- Between two moments something was reported, or the tokens between them were read as a phrase
derives them. -/
structure Answers (stream : TokenStream) (phrase : Phrase) (earlier later : Parser) : Prop where
  source : earlier.stream = stream
  kept : later.stream = stream
  answer : earlier.reports < later.reports ∨
    ∃ shapes, phrase earlier.position later.position shapes ∧
      Parses stream earlier later later.position shapes

/-- A step reads what a phrase derives, or reports. -/
def Sound (stream : TokenStream) (step : Step) (phrase : Phrase) : Prop :=
  ∀ p : Parser, p.stream = stream → Answers stream phrase p (step p)

section

variable {stream : TokenStream} {p q r : Parser} {phrase other : Phrase}

/-- Reports are not taken back. -/
theorem Answers.reports_le (answers : Answers stream phrase p q) : p.reports ≤ q.reports := by
  rcases answers.answer with reported | ⟨_, _, parses⟩
  · exact Nat.le_of_lt reported
  · exact Nat.le_of_eq (by rw [reports, reports, parses.diagnostics, parses.suppressed])

/-- A report answers for any phrase. -/
theorem answers_of_reported (source : p.stream = stream) (later : q.stream = stream)
    (reported : p.reports < q.reports) : Answers stream phrase p q := ⟨source, later, .inl reported⟩

/-- What was read as a phrase and not reported is an answer. -/
theorem answers_of_parses {stop : Nat} {shapes : List Shape}
    (parses : Parses stream p q stop shapes) (found : phrase p.position stop shapes) :
    Answers stream phrase p q := by
  have stops := parses.stop
  refine ⟨parses.source, parses.later, .inr ⟨shapes, ?_, ?_⟩⟩
  · rw [stops]
    exact found
  · rw [stops]
    exact parses

/-- A wider phrase is answered for all the more. -/
theorem Answers.weaken (answers : Answers stream phrase p q) (within : phrase.Within other) :
    Answers stream other p q := by
  refine ⟨answers.source, answers.kept, answers.answer.imp_right ?_⟩
  rintro ⟨shapes, found, parses⟩
  exact ⟨shapes, within _ _ _ found, parses⟩

/-- Answers follow one another. -/
theorem Answers.trans (first : Answers stream phrase p q) (second : Answers stream other q r) :
    Answers stream (phrase ++ other) p r := by
  refine ⟨first.source, second.kept, ?_⟩
  rcases first.answer with reported | ⟨left, found, parses⟩
  · exact .inl (Nat.lt_of_lt_of_le reported second.reports_le)
  rcases second.answer with reported | ⟨right, next, further⟩
  · exact .inl (Nat.lt_of_le_of_lt first.reports_le reported)
  · exact .inr ⟨left ++ right, ⟨q.position, left, right, found, next, rfl⟩, parses.trans further⟩

/-- A sound step answers after an answer. -/
theorem Answers.step {step : Step} (first : Answers stream phrase p q)
    (sound : Sound stream step other) : Answers stream (phrase ++ other) p (step q) :=
  first.trans (sound q first.kept)

/-- A report after an answer answers for any phrase. -/
theorem Answers.reported (first : Answers stream phrase p q) (later : r.stream = stream)
    (reported : q.reports < r.reports) : Answers stream other p r :=
  answers_of_reported first.source later (Nat.lt_of_le_of_lt first.reports_le reported)

/-- A token of some kinds is taken where it is seen. -/
theorem answers_bump {kinds : TokenKind → Bool} (source : p.stream = stream)
    (seen : p.current?.any kinds = true) : Answers stream (word stream kinds) p p.bump := by
  have same := parses_refl source
  rw [same.current?] at seen
  have found : word stream kinds p.position (stream.visible p.position + 1)
      (Shape.tokens p.position (stream.visible p.position + 1 - p.position)) := ⟨seen, rfl, rfl⟩
  exact answers_of_parses (same.bump found) found

/-- A token of some kinds is taken after an answer. -/
theorem Answers.bump {kinds : TokenKind → Bool} (first : Answers stream phrase p q)
    (seen : q.current?.any kinds = true) : Answers stream (phrase ++ word stream kinds) p q.bump :=
  first.trans (answers_bump first.kept seen)

/-- A token of one kind is seen where the parser is at it. -/
theorem any_of_isAt {kind : TokenKind} (here : p.isAt kind = true) :
    p.current?.any (fun other => decide (other = kind)) = true := by
  rw [← isAt_eq_any]
  exact here

/-- A token of one kind is taken after an answer. -/
theorem Answers.take {kind : TokenKind} (first : Answers stream phrase p q)
    (here : q.isAt kind = true) : Answers stream (phrase ++ token stream kind) p q.bump :=
  first.bump (any_of_isAt here)

/-- A diagnostic answers for any phrase. -/
theorem answers_error (source : p.stream = stream) (fault : SyntaxFault) (message : String) :
    Answers stream phrase p (p.error fault message) := by
  refine answers_of_reported source ((sees_error p fault message).stream.trans source) ?_
  rw [reports_error]
  exact Nat.lt_succ_self _

/-- A diagnostic after an answer answers for any phrase. -/
theorem Answers.error (first : Answers stream phrase p q) (fault : SyntaxFault) (message : String) :
    Answers stream other p (q.error fault message) := by
  have failed : Answers stream (fun _ _ _ => False) q (q.error fault message) :=
    answers_error first.kept fault message
  refine (first.trans failed).weaken ?_
  rintro _ _ _ ⟨_, _, _, _, impossible, _⟩
  exact impossible.elim

/-- A closing bracket is taken or reported. -/
theorem sound_expectCloser (closer : TokenKind) (message : String) :
    Sound stream (fun p => p.expectCloser closer message) (token stream closer) := by
  intro p source
  dsimp only
  rw [Parser.expectCloser]
  by_cases here : p.isAt closer = true
  · rw [if_pos here]
    exact answers_bump source (any_of_isAt here)
  · rw [if_neg here]
    exact answers_error source _ _

/-- A token that may be missing is taken if it is there. -/
theorem Answers.skip (first : Answers stream phrase p q) (kind : TokenKind) :
    Answers stream (phrase ++ (token stream kind).optional) p (q.skip kind) := by
  rw [Parser.skip, eat]
  by_cases here : q.isAt kind = true
  · rw [if_pos here]
    exact (first.take here).weaken ((Phrase.within_optional _).after phrase)
  · rw [if_neg here]
    exact first.weaken (Phrase.within_append_optional _ _)

/-! ### Nodes -/

/-- The parser still reads the stream when a node is opened. -/
theorem stream_start (source : p.stream = stream) (kind : NodeKind) :
    (p.start kind).stream = stream := (sees_start p kind).stream.trans source

/-- A node begins with a token that is seen before it. -/
theorem answers_start_bump {kinds : TokenKind → Bool} (source : p.stream = stream)
    (kind : NodeKind) (seen : p.current?.any kinds = true) :
    Answers stream (word stream kinds) (p.start kind) (p.start kind).bump :=
  answers_bump (stream_start source kind) ((current?_start p kind).symm ▸ seen)

/-- A node around what came before goes on with a token that is seen there. -/
theorem answers_startAt_bump {kinds : TokenKind → Bool} (source : p.stream = stream)
    (checkpoint : Checkpoint) (kind : NodeKind) (seen : p.current?.any kinds = true) :
    Answers stream (word stream kinds) (p.startAt checkpoint kind)
      (p.startAt checkpoint kind).bump := by
  have same : (p.startAt checkpoint kind).current? = p.current? := rfl
  exact answers_bump source (same.symm ▸ seen)

/-- A node answers with what its content answers with. -/
theorem Answers.node {kind : NodeKind} (source : p.stream = stream)
    (inside : Answers stream phrase (p.start kind) q) :
    Answers stream (spaced stream (node kind phrase)) p q.finish := by
  refine ⟨source, inside.kept, ?_⟩
  rcases inside.answer with reported | ⟨shapes, found, parses⟩
  · left
    rw [reports_start] at reported
    exact reported
  · right
    have begins : (p.start kind).position = stream.visible p.position :=
      (parses_start source kind).stop
    have whole := (parses_refl source).node parses
    rw [begins] at found
    exact ⟨_, ⟨_, ⟨shapes, found, rfl⟩, rfl⟩, whole⟩

/-- A node around what came before answers with that and what its further content answers with. -/
theorem Answers.wrap {kind : NodeKind} (first : Answers stream phrase p q)
    (inside : Answers stream other (q.startAt p.builder.checkpoint kind) r) :
    Answers stream (alone (Grammar.node kind (phrase ++ other))) p r.finish := by
  refine ⟨first.source, inside.kept, ?_⟩
  have further : q.reports ≤ r.reports := inside.reports_le
  rcases first.answer with reported | ⟨left, found, parses⟩
  · exact .inl (Nat.lt_of_lt_of_le reported further)
  rcases inside.answer with reported | ⟨right, next, within⟩
  · exact .inl (Nat.lt_of_le_of_lt first.reports_le reported)
  · exact .inr ⟨_, ⟨_, ⟨_, ⟨_, left, right, found, next, rfl⟩, rfl⟩, rfl⟩, parses.around within⟩

/-- A node around an operand answers with the operand and what its further content answers with. -/
theorem Answers.around {kind : NodeKind} {operand : Operand}
    (first : Answers stream (alone operand) p q)
    (inside : Answers stream phrase (q.startAt p.builder.checkpoint kind) r) :
    Answers stream (alone (extended operand (around kind phrase))) p r.finish := by
  refine (first.wrap inside).weaken ?_
  rintro start stop _ ⟨_, ⟨_, ⟨middle, _, right, ⟨shape, found, rfl⟩, next, rfl⟩, rfl⟩, rfl⟩
  exact ⟨_, ⟨middle, shape, found, right, next, rfl⟩, rfl⟩

/-! ### Operands -/

/-- At a token there is no white space before an operand. -/
theorem Answers.operand {operand : Operand} (answers : Answers stream (spaced stream operand) p q)
    (here : p.stream.visible p.position = p.position) : Answers stream (alone operand) p q := by
  refine ⟨answers.source, answers.kept, answers.answer.imp_right ?_⟩
  rintro ⟨_, ⟨shape, found, rfl⟩, parses⟩
  rw [answers.source] at here
  rw [here] at found
  rw [space_of_visible here, List.nil_append] at parses
  exact ⟨[shape], ⟨shape, found, rfl⟩, parses⟩

/-- A wider operand is answered for all the more. -/
theorem Answers.widen {operand wider : Operand} (answers : Answers stream (alone operand) p q)
    (within : ∀ start stop shape, operand start stop shape → wider start stop shape) :
    Answers stream (alone wider) p q := by
  refine answers.weaken ?_
  rintro start stop _ ⟨shape, found, rfl⟩
  exact ⟨shape, within start stop shape found, rfl⟩

/-- At a token a sound step answers for an operand alone. -/
theorem Sound.operand {step : Step} {operand : Operand}
    (sound : Sound stream step (spaced stream operand)) (source : p.stream = stream)
    (here : p.stream.visible p.position = p.position) :
    Answers stream (alone operand) p (step p) := (sound p source).operand here

/-- A step that begins with a checkpoint is sound if it is so from its first token on. -/
theorem sound_checkpoint {step : Step} {operand : Operand}
    (skips : ∀ p : Parser, step p.skipSpace = step p)
    (sound : ∀ p : Parser, p.stream = stream → p.stream.visible p.position = p.position →
      Answers stream (alone operand) p (step p)) : Sound stream step (spaced stream operand) := by
  intro p source
  have spaced := parses_skipSpace source
  have here : p.skipSpace.stream.visible p.skipSpace.position = p.skipSpace.position := by
    rw [spaced.later, spaced.stop, stream.visible_visible]
  have inside := sound p.skipSpace spaced.later here
  rw [skips] at inside
  refine ⟨source, inside.kept, ?_⟩
  rcases inside.answer with reported | ⟨_, ⟨shape, found, rfl⟩, parses⟩
  · left
    rw [reports_skipSpace] at reported
    exact reported
  · right
    rw [spaced.stop] at found
    exact ⟨_, ⟨shape, found, rfl⟩, spaced.trans parses⟩

/-- What a loop keeps in each round it keeps. -/
theorem loop_keeps {test : Parser → Bool} {body : Step} {holds : Parser → Prop}
    (round : ∀ q : Parser, holds q → test q = true → holds (body q)) {p : Parser}
    (first : holds p) : holds (p.loop test body) := by
  have run (times : Nat) (q : Parser) (now : holds q) : holds (repeatWhile test body times q) := by
    induction times generalizing q with
    | zero => exact now
    | succ times ih =>
      rw [repeatWhile]
      by_cases goes : test q = true
      · rw [if_pos goes]
        exact ih (body q) (round q now goes)
      · rw [if_neg goes]
        exact now
  exact run p.remaining p first

/-- A chain answers if its first operand does and each step around what came before does. -/
theorem Answers.chain {operand : Operand} {step : Shape → Operand} {test : Parser → Bool}
    {body : Step} (first : Answers stream (alone operand) p q)
    (round : ∀ r : Parser, Answers stream (alone (Grammar.Chain operand step)) p r → test r = true →
      Answers stream (alone (extended (Grammar.Chain operand step) step)) p (body r)) :
    Answers stream (alone (Grammar.Chain operand step)) p (q.loop test body) := by
  refine loop_keeps (fun r now goes => (round r now goes).widen ?_)
    (first.widen fun _ _ _ found => .single found)
  rintro start stop shape ⟨middle, inside, before, next⟩
  exact .grow before next

/-! ### Lists -/

/-- A list of items up to a closing bracket that is not there yet is read with the bracket, or
something is reported: the list stops only at the bracket, at something else that it reports, or
where it has no steps left and the bracket is missing. -/
theorem answers_items {item : Step} {operand : Operand} {closer : TokenKind}
    (each : Sound stream item (spaced stream operand)) (separator message : String) (times : Nat)
    (source : p.stream = stream) (missing : ¬p.isAt closer = true) :
    Answers stream (Grammar.listing stream operand ++ token stream closer) p
      ((items item closer separator times p).expectCloser closer message) := by
  induction times generalizing p with
  | zero =>
    rw [items, Parser.expectCloser, if_neg missing]
    exact answers_error source _ _
  | succ times ih =>
    have first := each p source
    rw [items]
    by_cases goesOn : (item p).isAt (.punctuation .comma) = true
    · have separated := first.take goesOn
      rw [if_pos goesOn]
      dsimp only
      by_cases ends : (item p).bump.isAt closer = true
      · rw [if_pos ends]
        refine (separated.step (sound_expectCloser closer message)).weaken
          (Phrase.Within.before ?_ _)
        exact Phrase.Within.after (fun _ _ _ found => .inr (.trailing found)) _
      · rw [if_neg ends]
        have rest := separated.trans (ih separated.kept ends)
        rw [Phrase.append_assoc, ← Phrase.append_assoc (token stream _)] at rest
        rw [Grammar.listing, Phrase.append_assoc]
        refine rest.weaken ((Phrase.Within.before ?_ _).after _)
        exact fun start stop shapes found =>
          .inr (Grammar.further_of_listing operand start stop shapes found)
    · rw [if_neg goesOn]
      by_cases ends : (item p).isAt closer = true
      · rw [if_pos ends]
        refine (first.step (sound_expectCloser closer message)).weaken (Phrase.Within.before ?_ _)
        exact Phrase.within_append_optional _ _
      · rw [if_neg ends]
        have failed : Answers stream (fun _ _ _ => False) p
            ((item p).error .unclosedGroup separator) := first.error _ _
        refine (failed.step (sound_expectCloser closer message)).weaken ?_
        rintro _ _ _ ⟨_, _, _, impossible, _⟩
        exact impossible.elim

/-- A comma and what stands after it are read as what goes on with a list, if what comes after the
next item is. -/
theorem answers_moreItems {item : Step} {operand : Operand} (ends : Parser → Bool) {times : Nat}
    (each : Sound stream item (spaced stream operand))
    (rest : Sound stream (moreItems item ends times) (Grammar.further stream operand).optional)
    (source : p.stream = stream) (goesOn : p.isAt (.punctuation .comma) = true) :
    Answers stream (Grammar.further stream operand) p (moreItems item ends (times + 1) p) := by
  have separated := answers_bump source (any_of_isAt goesOn)
  rw [moreItems, if_pos goesOn]
  dsimp only
  by_cases stops : ends p.bump = true
  · rw [if_pos stops]
    exact separated.weaken fun _ _ _ found => .trailing found
  · rw [if_neg stops]
    have whole := (separated.step each).step rest
    rw [Phrase.append_assoc] at whole
    exact whole.weaken (Grammar.further_of_listing operand)

/-- Further items after commas are read as what goes on with a list. -/
theorem sound_moreItems {item : Step} {operand : Operand} (ends : Parser → Bool)
    (each : Sound stream item (spaced stream operand)) (times : Nat) :
    Sound stream (moreItems item ends times) (Grammar.further stream operand).optional := by
  induction times with
  | zero => exact fun p source => answers_of_parses (parses_refl source) (.inl ⟨rfl, rfl⟩)
  | succ times ih =>
    intro p source
    by_cases goesOn : p.isAt (.punctuation .comma) = true
    · exact (answers_moreItems ends each ih source goesOn).weaken (Phrase.within_optional _)
    · rw [moreItems, if_neg goesOn]
      exact answers_of_parses (parses_refl source) (.inl ⟨rfl, rfl⟩)

/-- At a comma the tokens that remain are steps enough for one item at least. -/
theorem answers_further {item : Step} {operand : Operand} (ends : Parser → Bool)
    (each : Sound stream item (spaced stream operand)) (source : p.stream = stream)
    (goesOn : p.isAt (.punctuation .comma) = true) :
    Answers stream (Grammar.further stream operand) p (moreItems item ends p.remaining p) := by
  obtain ⟨times, some⟩ : ∃ times, p.remaining = times + 1 := by
    refine Nat.exists_eq_succ_of_ne_zero fun nothing => ?_
    rw [isAt, current?_of_remaining_zero nothing] at goesOn
    contradiction
  rw [some]
  exact answers_moreItems ends each (sound_moreItems ends each times) source goesOn

end

end Parser
end Stencil
