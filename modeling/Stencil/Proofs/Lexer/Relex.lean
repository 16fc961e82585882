import Mathlib.Data.List.Forall2
import Stencil.Proofs.Lexer.Kept
/-!
# Reading again after an edit

A stream is read again after an edit from a token outside block tags that lies a whole token before
the one the edit touches. Up to there the new source is read as the old one was, and from there on
as from its start, so that reading again gives what reading the whole new source gives
(`relex_eq_ok`), edit after edit (`relexAll_eq_ofSource`).
-/

namespace Stencil

/-- The first elements of one array before all of another. -/
theorem getElem?_take_append {α : Type} {left right : Array α} {count : Nat}
    (whole : count ≤ left.size) (place : Nat) : (left.take count ++ right)[place]? =
      if place < count then left[place]? else right[place - count]? := by
  have size : (left.take count).size = count := by
    rw [Array.take_eq_extract, Array.size_extract]
    omega
  rw [Array.getElem?_append, size]
  split
  next before =>
    rw [Array.take_eq_extract, Array.getElem?_extract, Nat.sub_zero, Nat.min_eq_left whole,
      if_pos before, Nat.zero_add]
  · rfl

namespace Lexer

variable {lexer later : Lexer} {kept tail : TokenStream}

/-- A stream has as many modes as tokens. -/
theorem Fills.size_modes (fills : lexer.Fills kept) : kept.modes.size = kept.size := by
  have ends (place : Nat) : kept.modes[place]? = none ↔ kept.tokens[place]? = none := by
    rw [fills.modes, fills.tokens, Option.map_eq_none_iff, Option.map_eq_none_iff]
  have first := (ends kept.modes.size).1 (Array.getElem?_eq_none (Nat.le_refl _))
  have second := (ends kept.tokens.size).2 (Array.getElem?_eq_none (Nat.le_refl _))
  exact Nat.le_antisymm (Array.getElem?_eq_none_iff.1 second) (Array.getElem?_eq_none_iff.1 first)

/-- What is read from a token on completes what was read before it. -/
theorem Fills.join {place : Nat} {source : String} (closed : lexer.marks.Closed)
    (before : ∀ earlier < place, kept.tokens[earlier]? = (lexer.token? earlier).map (·.token) ∧
      kept.modes[earlier]? = (lexer.token? earlier).map (·.mode))
    (whole : place ≤ kept.tokens.size ∧ place ≤ kept.modes.size)
    (twins : (lexer.ahead place).Twins later) (rest : later.Fills tail) : lexer.Fills
      { source := source
        tokens := kept.tokens.take place ++ tail.tokens
        modes := kept.modes.take place ++ tail.modes
        endMode := tail.endMode } := by
  have marks : (lexer.ahead place).marks.Closed := by
    rw [marks_ahead]
    exact closed
  refine ⟨fun index => ?_, fun index => ?_, ?_⟩
  · rw [getElem?_take_append whole.1]
    split
    next early => exact (before index early).1
    next late =>
      rw [rest.tokens, twins.token? marks, token?_ahead,
        Nat.add_sub_cancel' (Nat.le_of_not_lt late)]
  · rw [getElem?_take_append whole.2]
    split
    next early => exact (before index early).2
    next late =>
      rw [rest.modes, twins.token? marks, token?_ahead, Nat.add_sub_cancel' (Nat.le_of_not_lt late)]
  · obtain ⟨count, empty, mode⟩ := rest.ended
    have there := twins.ahead marks count
    rw [ahead_ahead] at there
    exact ⟨place + count, there.rest.symm.trans empty, mode.trans there.mode⟩

end Lexer

namespace TokenStream

variable {lexer : Lexer} {stream : TokenStream}

/-- Reading again starts at a token outside block tags, which is the first or comes before another
one outside block tags up to which no token reaches the edit. -/
theorem relexPoint?_eq (fills : lexer.Fills stream) (fresh : lexer.mode ≠ .blockTag) {edit : Nat}
    (some : 0 < stream.size) :
    ∃ place, place < stream.size ∧ (lexer.ahead place).mode ≠ .blockTag ∧
      stream.relexPoint? edit = .some ((lexer.ahead place).offset, (lexer.ahead place).mode) ∧
      (place = 0 ∨ ∃ boundary, place < boundary ∧ boundary < stream.size ∧
        (lexer.ahead boundary).mode ≠ .blockTag ∧
        ∀ earlier < boundary, (lexer.ahead (earlier + 1)).offset < edit) := by
  have outside {place : Nat} (found : place = 0 ∨ (lexer.ahead place).mode ≠ .blockTag) :
      (lexer.ahead place).mode ≠ .blockTag := by
    rcases found with rfl | found
    · exact fresh
    · exact found
  cases hit : stream.touched? edit with
  | none => exact absurd (touched?_of_size_zero hit) (Nat.ne_of_gt some)
  | some touched =>
    obtain ⟨inside, past⟩ := touched?_eq_some fills hit
    obtain ⟨boundary, before, restart, free⟩ := restartPoint_eq fills inside
    have within : boundary < stream.size := Nat.lt_of_le_of_lt before inside
    unfold relexPoint?
    rw [hit]
    simp only [Option.bind_eq_bind, Option.bind_some, restart, Except.toOption,
      keptBefore_offset fills within]
    cases boundary with
    | zero => exact ⟨0, within, outside free, rfl, Or.inl rfl⟩
    | succ kept =>
      obtain ⟨place, early, again, also⟩ := restartPoint_eq fills (Nat.lt_of_succ_lt within)
      refine ⟨place, by omega, outside also, ?_, Or.inr ⟨kept + 1, by omega, within, outside free,
        fun earlier less => past earlier (by omega)⟩⟩
      dsimp only
      rw [again]
      rfl

variable {d : Delimiters} {limit : Nat} {source : String} {result : TokenStream}

/-- A source gives the stream that its lexer fills, if that is within the limit. -/
theorem ofSource_eq_ok_iff : ofSource source d limit = .ok stream ↔
    stream.source = source ∧ (Lexer.ofSource source d).token? limit = none ∧
      (Lexer.ofSource source d).Fills stream :=
  ofRange_eq_ok_iff (Nat.zero_le _) (Nat.le_refl _)

/-- A source within the limit gives a stream. -/
theorem ofSource_of_isOk (within : (ofSource source d limit).isOk = true) :
    ∃ fresh, ofSource source d limit = .ok fresh := by
  cases read : ofSource source d limit with
  | ok fresh => exact ⟨fresh, rfl⟩
  | error fault =>
    rw [read] at within
    contradiction

/-- The lexer of a source stands in it. -/
theorem placed_ofSource (source : String) (d : Delimiters) :
    (Lexer.ofSource source d).Placed (Text.bytes source) := Lexer.placed_ofRange (Nat.zero_le _)

/-- The lexer of one source is that of another over it. -/
theorem ofSource_onto (old : String) : Lexer.ofSource source d =
    (Lexer.ofSource old d).onto (Text.bytes source) := by
  have whole : (Text.bytes source).take source.utf8ByteSize = Text.bytes source :=
    List.take_of_length_le (Nat.le_of_eq (Text.length_bytes source))
  simp [Lexer.ofSource, Lexer.ofRange, Lexer.onto, whole]

/-- Outside block tags a lexer is a twin of one that is started at its place in its mode. -/
theorem twins_ofRange (closed : d.marks.Closed) {place : Nat}
    (outside : ((Lexer.ofSource source d).ahead place).mode ≠ .blockTag) :
    ((Lexer.ofSource source d).ahead place).Twins
      (Lexer.ofRange source ((Lexer.ofSource source d).ahead place).offset source.utf8ByteSize
        ((Lexer.ofSource source d).ahead place).mode d) := by
  have there := (placed_ofSource source d).ahead closed place
  have fits := there.inside
  rw [Text.length_bytes] at fits
  refine Lexer.twins_of_placed there (Lexer.placed_ofRange fits) ?_ ?_ rfl outside
  · rw [Lexer.marks_ahead]
    rfl
  · simp only [Lexer.ofRange, Nat.min_self, Nat.min_eq_left fits]

/-- Reading again gives the stream of the new source if it starts at a token outside block tags up
to which both sources are read in step. -/
theorem relex_of_step (closed : d.marks.Closed)
    (fills : (Lexer.ofSource stream.source d).Fills stream) {edit place : Nat}
    (inside : place < stream.size)
    (outside : ((Lexer.ofSource stream.source d).ahead place).mode ≠ .blockTag)
    (point : stream.relexPoint? edit = some (((Lexer.ofSource stream.source d).ahead place).offset,
      ((Lexer.ofSource stream.source d).ahead place).mode))
    (state : (Lexer.ofSource source d).ahead place =
      ((Lexer.ofSource stream.source d).ahead place).onto (Text.bytes source))
    (tokens : ∀ earlier < place, (Lexer.ofSource source d).token? earlier =
      (Lexer.ofSource stream.source d).token? earlier)
    (read : ofSource source d limit = .ok result) :
    stream.relex source edit d limit = .ok result := by
  obtain ⟨same, ended, filled⟩ := ofSource_eq_ok_iff.1 read
  have offset : ((Lexer.ofSource source d).ahead place).offset =
      ((Lexer.ofSource stream.source d).ahead place).offset := by rw [state, Lexer.onto]
  have mode : ((Lexer.ofSource source d).ahead place).mode =
      ((Lexer.ofSource stream.source d).ahead place).mode := by rw [state, Lexer.onto]
  have there := (placed_ofSource source d).ahead closed place
  have fits := there.inside
  rw [Text.length_bytes] at fits
  rw [relex, point, ← offset, ← mode]
  dsimp only
  rw [offset, keptBefore_offset fills inside, ← offset]
  generalize resumed : Lexer.ofRange source ((Lexer.ofSource source d).ahead place).offset
    source.utf8ByteSize ((Lexer.ofSource source d).ahead place).mode d = later
  have twins : ((Lexer.ofSource source d).ahead place).Twins later := by
    rw [← resumed]
    exact twins_ofRange closed (mode ▸ outside)
  have marks : ((Lexer.ofSource source d).ahead place).marks.Closed := by
    rw [Lexer.marks_ahead]
    exact closed
  have short : later.token? limit = none := by
    rw [twins.token? marks, Lexer.token?_ahead]
    exact Lexer.token?_mono ended (Nat.le_add_left _ _)
  rw [← resumed] at short
  have tail := fills_ofReading short
  rw [(ofRange_eq_ok_iff fits (Nat.le_refl _)).2 ⟨rfl, short, tail⟩]
  rw [resumed] at tail
  have before (earlier : Nat) (early : earlier < place) :
      stream.tokens[earlier]? = ((Lexer.ofSource source d).token? earlier).map (·.token) ∧
        stream.modes[earlier]? = ((Lexer.ofSource source d).token? earlier).map (·.mode) := by
    rw [tokens earlier early]
    exact ⟨fills.tokens earlier, fills.modes earlier⟩
  have sizes := fills.size_modes
  have whole : place ≤ stream.tokens.size ∧ place ≤ stream.modes.size :=
    ⟨Nat.le_of_lt inside, by omega⟩
  refine congrArg Except.ok (Lexer.Fills.unique ?_ filled same.symm)
  exact Lexer.Fills.join closed before whole twins tail

/-- Up to the point from which it is read again after an edit the new source is read as the old one
was. -/
theorem relexPoint?_onto (apart : d.marks.Apart) (closed : d.marks.Closed)
    (fills : (Lexer.ofSource stream.source d).Fills stream) {edit : Nat}
    (agree : Scan.Agree edit (Text.bytes stream.source) (Text.bytes source))
    (unsplit : Lexer.Unsplit d.marks.variableEnd (Text.bytes source) edit)
    (some : 0 < stream.size) :
    ∃ place, place < stream.size ∧
      ((Lexer.ofSource stream.source d).ahead place).mode ≠ .blockTag ∧
      stream.relexPoint? edit = .some (((Lexer.ofSource stream.source d).ahead place).offset,
        ((Lexer.ofSource stream.source d).ahead place).mode) ∧
      (Lexer.ofSource source d).ahead place =
        ((Lexer.ofSource stream.source d).ahead place).onto (Text.bytes source) ∧
      ∀ earlier < place, (Lexer.ofSource source d).token? earlier =
        (Lexer.ofSource stream.source d).token? earlier := by
  have placed := placed_ofSource stream.source d
  have starts : (Lexer.ofSource stream.source d).mode = .template := rfl
  obtain ⟨place, inside, outside, point, lies⟩ :=
    relexPoint?_eq fills (by rw [starts]; decide) some
  refine ⟨place, inside, outside, point, ?_⟩
  rcases lies with rfl | ⟨boundary, before, within, free, past⟩
  · exact ⟨ofSource_onto _, fun earlier early => absurd early (Nat.not_lt_zero earlier)⟩
  · have some := (fills.lt_size_iff boundary).1 within
    rw [ofSource_onto stream.source]
    exact ⟨Lexer.ahead_onto apart placed closed agree unsplit free some past before,
      fun earlier early =>
        Lexer.token?_onto apart placed closed agree unsplit free some past (by omega)⟩

/-- Reading again after an edit gives the stream of the new source. -/
theorem relex_eq_ok (steady : d.marks.Steady) {old : String}
    (fresh : ofSource old d limit = .ok stream) {edit : Nat}
    (agree : Scan.Agree edit (Text.bytes old) (Text.bytes source))
    (read : ofSource source d limit = .ok result) :
    stream.relex source edit d limit = .ok result := by
  obtain ⟨rfl, -, fills⟩ := ofSource_eq_ok_iff.1 fresh
  by_cases empty : stream.size = 0
  · have none : stream.tokens = #[] := Array.eq_empty_of_size_eq_zero empty
    have untouched : stream.touched? edit = .none := by simp [touched?, isEmpty, none]
    have nothing : stream.relexPoint? edit = .none := by
      rw [relexPoint?, untouched]
      rfl
    rw [relex, nothing]
    exact read
  obtain ⟨place, inside, outside, point, state, tokens⟩ :=
    relexPoint?_onto steady.apart steady.closed fills agree
      (Lexer.unsplit_of_short steady.short _ _) (Nat.pos_of_ne_zero empty)
  exact relex_of_step steady.closed fills inside outside point state tokens read

end TokenStream

/-- A change of a text: the new text, and a number of bytes in which it is still the old one. -/
structure Edit where
  text : String
  offset : Nat

namespace TokenStream

/-- The streams of a text after one edit after another, each read again from the one before. -/
def relexAll (stream : TokenStream) (d : Delimiters) (limit : Nat) :
    List Edit → Except LexerFault (List TokenStream)
  | [] => .ok []
  | edit :: edits => do
    let next ← stream.relex edit.text edit.offset d limit
    let more ← next.relexAll d limit edits
    pure (next :: more)

/-- Each edit leaves the bytes before its offset as they were. -/
def Agreeing (text : String) : List Edit → Prop
  | [] => True
  | edit :: edits =>
    Scan.Agree edit.offset (Text.bytes text) (Text.bytes edit.text) ∧ Agreeing edit.text edits

/-- With the stock delimiters, and line prefixes without line feeds, reading again succeeds at every
edit and gives the stream of the new text. -/
theorem relexAll_eq_ofSource {lineStatement lineComment : String}
    (valid : (Delimiters.stock lineStatement lineComment).isValid = true)
    (statement : '\n' ∉ lineStatement.toList) (comment : '\n' ∉ lineComment.toList)
    {limit : Nat} {text : String} {stream : TokenStream}
    (read : ofSource text (Delimiters.stock lineStatement lineComment) limit = .ok stream)
    {edits : List Edit} (agreeing : Agreeing text edits)
    (within : ∀ edit ∈ edits,
      (ofSource edit.text (Delimiters.stock lineStatement lineComment) limit).isOk = true) :
    ∃ streams, stream.relexAll (Delimiters.stock lineStatement lineComment) limit edits =
        .ok streams ∧
      edits.Forall₂ (fun edit fresh =>
        ofSource edit.text (Delimiters.stock lineStatement lineComment) limit = .ok fresh)
        streams := by
  have stock := Delimiters.marks_stock valid statement comment
  induction edits generalizing text stream with
  | nil => exact ⟨[], rfl, List.Forall₂.nil⟩
  | cons edit edits ih =>
    obtain ⟨fresh, first⟩ := ofSource_of_isOk (within edit List.mem_cons_self)
    obtain ⟨streams, rest, each⟩ := ih first agreeing.2 fun later member =>
      within later (List.mem_cons_of_mem _ member)
    refine ⟨fresh :: streams, ?_, List.Forall₂.cons first each⟩
    rw [relexAll, relex_eq_ok stock read agreeing.1 first]
    simp only [bind, Except.bind, rest]
    rfl

/-- Two edits with line prefixes: the first adds a line statement, the second ends the text in a
tag. -/
theorem relexAll_eq_ofSource_lines :
    (Delimiters.stock "%%" "##").isValid = true ∧
      ∃ stream, ofSource "a \x7b% raw %\x7d" (Delimiters.stock "%%" "##") = .ok stream ∧
        ∃ streams, stream.relexAll (Delimiters.stock "%%" "##") Limits.maxTokenCount
            [⟨"a \x7b%\n%% set", 4⟩, ⟨"a \x7b\x7b 1", 3⟩] = .ok streams ∧
          [Edit.mk "a \x7b%\n%% set" 4, ⟨"a \x7b\x7b 1", 3⟩].Forall₂ (fun edit fresh =>
            ofSource edit.text (Delimiters.stock "%%" "##") = .ok fresh) streams := by
  have valid : (Delimiters.stock "%%" "##").isValid = true := by decide +kernel
  obtain ⟨stream, read⟩ : ∃ stream, ofSource "a \x7b% raw %\x7d" (Delimiters.stock "%%" "##") =
      .ok stream := ofSource_of_isOk (by decide +kernel)
  exact ⟨valid, stream, read, relexAll_eq_ofSource valid (by decide) (by decide) read
    ⟨by decide +kernel, by decide +kernel, trivial⟩ (by decide +kernel)⟩

end TokenStream
end Stencil
