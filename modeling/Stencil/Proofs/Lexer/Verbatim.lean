import Mathlib.Order.Bounds.Basic
import Stencil.Proofs.Lexer.Delimited
import Stencil.Proofs.Lexer.Kept
/-!
# Raw content

What the content of a raw block ends at is told by the source alone: the first place where a block
start, space and the word `endraw` stand (`Scan.EndsRaw`). The lexer looks for it byte by byte, so
that a delimiter that overlaps itself, a longer word and the marks of other tags are passed over
(`Scan.run_eq_of_isLeast`). What a stream has behind the tag that announces the content is one text
up to that place, and the tag that ends it (`ofRange_verbatim`).
-/

namespace Stencil
namespace Scan

variable {m : Marks}

/-- A tag that ends raw content stands at the head of the bytes: a block start, space, and the word
`endraw`, which does not go on. -/
def EndsRaw (m : Marks) (rest : List UInt8) : Prop :=
  m.blockStart ≠ [] ∧ ∃ spaces tail : List UInt8,
    rest = m.blockStart ++ (spaces ++ (Text.bytes "endraw" ++ tail)) ∧
      (∀ b ∈ spaces, b ∈ ([32, 9, 13, 10] : List UInt8)) ∧ ∀ b ∈ tail.head?, inWord b = false

/-- The space of a tag that ends raw content. -/
theorem mem_space_iff {b : UInt8} :
    b ∈ ([32, 9, 13, 10] : List UInt8) ↔ isInlineSpace b = true ∨ b = lineFeed := by
  simp [isInlineSpace, lineFeed, or_assoc]

/-- The lexer stops raw content where a tag that ends it stands. -/
theorem atEndRaw_iff {rest : List UInt8} : atEndRaw m rest = true ↔ EndsRaw m rest := by
  constructor
  · intro ends
    have leading : leads m.blockStart rest = true := by
      rw [atEndRaw, Bool.and_eq_true] at ends
      exact ends.1
    obtain ⟨spaces, tail, spelled, blank, -, closed⟩ := spelled_of_atEndRaw ends
    refine ⟨List.ne_nil_of_length_pos (leads_length leading).1, spaces, tail, spelled,
      fun b member => mem_space_iff.2 (blank b member), fun b head => ?_⟩
    rw [Option.mem_def.1 head] at closed
    exact closed
  · rintro ⟨some, spaces, tail, rfl, blank, closed⟩
    have inside : ∀ b ∈ spaces, (isInlineSpace b || decide (b = lineFeed)) = true := fun b member =>
      by simpa using mem_space_iff.1 (blank b member)
    have word : (spaces ++ (endRawWord ++ tail)).dropWhile
        (fun b => isInlineSpace b || decide (b = lineFeed)) = endRawWord ++ tail := by
      rw [List.dropWhile_append_of_pos inside, endRawWord_eq, List.cons_append,
        List.dropWhile_cons_of_neg (by decide)]
    have stands : leads m.blockStart
        (m.blockStart ++ (spaces ++ (Text.bytes "endraw" ++ tail))) = true := by
      simp [leads, some]
    rw [atEndRaw, stands, List.drop_left, ← endRawWord]
    dsimp only
    rw [word, List.drop_left]
    cases tail with
    | nil => simp
    | cons next tail => simp [closed next rfl]

/-- No tag stands where nothing is left. -/
theorem not_endsRaw_nil : ¬EndsRaw m [] := by
  rintro ⟨some, spaces, tail, spelled, -⟩
  exact some (List.append_eq_nil_iff.1 spelled.symm).1

/-- The run of raw content goes up to the least place at which a tag that ends it stands. -/
theorem run_eq_of_isLeast {rest : List UInt8} {place : Nat}
    (least : IsLeast {p | EndsRaw m (rest.drop p)} place) : run (atEndRaw m) rest = place := by
  obtain ⟨stands, first⟩ := least
  apply Nat.le_antisymm
  · apply Nat.le_of_not_lt
    intro before
    have none := not_stop_before_run before
    rw [atEndRaw_iff.2 stands] at none
    contradiction
  · rcases stop_drop_run (atEndRaw m) rest with empty | stops
    · apply Nat.le_of_not_lt
      intro before
      have short : rest.length ≤ place :=
        Nat.le_trans (List.drop_eq_nil_iff.1 empty) (Nat.le_of_lt before)
      rw [Set.mem_ofPred_eq, List.drop_eq_nil_of_le short] at stands
      exact not_endsRaw_nil stands
    · exact first (atEndRaw_iff.1 stops)

/-- The run goes to the end where no such tag stands. -/
theorem run_eq_length {rest : List UInt8} (none : ∀ p, ¬EndsRaw m (rest.drop p)) :
    run (atEndRaw m) rest = rest.length := by
  apply Nat.le_antisymm (run_le _ _)
  rcases stop_drop_run (atEndRaw m) rest with empty | stops
  · exact List.drop_eq_nil_iff.1 empty
  · exact absurd (atEndRaw_iff.1 stops) (none _)

end Scan

/-- One text token, or none where there is no text. -/
def TokenStream.textBetween (start stop : Nat) : List Token :=
  if start < stop then [⟨.text, start, stop⟩] else []

namespace Lexer

/-- What is left of a range is what the source has up to the end of the range. -/
theorem rest_ofRange_ahead {source : String} {start stop : Nat} (mode : Mode) (d : Delimiters)
    (forward : start ≤ stop) (inside : stop ≤ source.utf8ByteSize) (count : Nat) :
    ((ofRange source start stop mode d).ahead count).rest = ((Text.bytes source).take stop).drop
      ((ofRange source start stop mode d).ahead count).offset := by
  have rest : (ofRange source start stop mode d).rest =
      ((Text.bytes source).take stop).drop start := by
    rw [ofRange, Nat.min_eq_left inside, Nat.min_eq_left forward, List.drop_take]
  have offset : (ofRange source start stop mode d).offset = start := by
    rw [ofRange, Nat.min_eq_left inside, Nat.min_eq_left forward]
  have further : start ≤ ((ofRange source start stop mode d).ahead count).offset :=
    Nat.le_trans (Nat.le_of_eq offset.symm) (offset_le_offset (Nat.zero_le count))
  rw [rest_ahead, rest, offset, List.drop_drop, Nat.add_sub_cancel' further]

variable {lexer : Lexer} {stream : TokenStream} (fills : lexer.Fills stream) {place : Nat}

include fills

/-- Where bytes are left the stream has the token that is scanned there, and then the next ones. -/
theorem Fills.drop_of_some (some : (lexer.ahead place).rest ≠ []) :
    stream.tokens.toList.drop place =
      ⟨(lexer.ahead place).scan.kind, (lexer.ahead place).offset,
          (lexer.ahead (place + 1)).offset⟩ :: stream.tokens.toList.drop (place + 1) := by
  have inside := (fills.lt_size_iff place).2 some
  have token := fills.getElem?_tokens inside
  rw [← Array.getElem?_toList] at token
  obtain ⟨within, listed⟩ := List.getElem?_eq_some_iff.1 token
  rw [List.drop_eq_getElem_cons within, listed]

/-- Where nothing is left the stream has no more tokens. -/
theorem Fills.drop_of_nil (none : (lexer.ahead place).rest = []) :
    stream.tokens.toList.drop place = [] := by
  have beyond : ¬place < stream.size := fun inside => (fills.lt_size_iff place).1 inside none
  exact List.drop_eq_nil_of_le (Nat.le_of_not_lt beyond)

/-- In a block tag that begins with space and the word `endraw` the word is the first token but
space, if the closing delimiter does not begin with a letter or with space. -/
theorem Fills.find?_endRaw (mode : (lexer.ahead place).mode = .blockTag)
    (plain : ∀ b ∈ lexer.marks.blockEnd.head?, Scan.isLetter b = false ∧
      b ∉ ([32, 9, 13, 10] : List UInt8))
    {spaces tail : List UInt8}
    (spelled : (lexer.ahead place).rest = spaces ++ (Scan.endRawWord ++ tail))
    (blank : ∀ b ∈ spaces, Scan.isInlineSpace b = true ∨ b = Scan.lineFeed)
    (closed : tail.head?.any Scan.inWord = false) :
    ((stream.tokens.toList.drop place).find? fun token => token.kind ≠ .whitespace).map
      (·.kind) = some (.keyword .endRaw) := by
  have marks (count : Nat) : (lexer.ahead count).marks = lexer.marks := marks_ahead count
  have letter : lexer.marks.blockEnd.head? ≠ some 101 := fun head =>
    absurd (plain 101 head).1 (by decide)
  have solid (more : List UInt8) : Scan.endRawWord ++ more ≠ [] := by
    rw [Scan.endRawWord_eq]
    exact List.cons_ne_nil _ _
  -- The word is found at once where it stands.
  have word {place : Nat} (mode : (lexer.ahead place).mode = .blockTag)
      (spelled : (lexer.ahead place).rest = Scan.endRawWord ++ tail) :
      ((stream.tokens.toList.drop place).find? fun token => token.kind ≠ .whitespace).map
        (·.kind) = some (.keyword .endRaw) := by
    have scanned : (lexer.ahead place).scan =
        ⟨.keyword .endRaw, 6, .blockTag, (lexer.ahead place).rawPending⟩ := by
      rw [← Scan.expression_endRaw closed, scan, mode, Scan.next, spelled, Scan.endRawWord_eq]
      exact Scan.blockTag_of_head (by rw [marks]; exact letter) _
    rw [fills.drop_of_some (by rw [spelled]; exact solid tail), scanned]
    rfl
  cases spaces with
  | nil => exact word mode spelled
  | cons first spaces =>
    have other : (lexer.ahead place).marks.blockEnd.head? ≠ some first := by
      rw [marks]
      intro head
      exact (plain first head).2 (Scan.mem_space_iff.2 (blank first List.mem_cons_self))
    have scanned := scan_space mode other spelled blank
    obtain ⟨rest, stays, -⟩ := space_step mode other spelled blank
    rw [fills.drop_of_some (by rw [spelled]; exact List.cons_ne_nil _ _), scanned]
    exact word stays rest

/-- Where a tag that ends raw content stands, its start is the next token, and in the tag the word
`endraw` is the first token but space. -/
theorem Fills.endRaw_tag {d : Delimiters} (same : lexer.marks = d.marks) {offset : Nat}
    (there : (lexer.ahead place).offset = offset) (raw : (lexer.ahead place).mode = .raw)
    (ends : Scan.EndsRaw d.marks (lexer.ahead place).rest) :
    ∃ rest, stream.tokens.toList.drop place =
        ⟨.delimiter .blockStart, offset, offset + d.blockStart.utf8ByteSize⟩ :: rest ∧
      stream.modeAfter? place = some .blockTag ∧
      ((∀ b ∈ (Text.bytes d.blockEnd).head?, Scan.isLetter b = false ∧
          b ∉ ([32, 9, 13, 10] : List UInt8)) →
        (rest.find? fun token => token.kind ≠ .whitespace).map (·.kind) =
          some (.keyword .endRaw)) := by
  have size : lexer.marks.blockStart.length = d.blockStart.utf8ByteSize :=
    same ▸ Text.length_bytes d.blockStart
  rw [← same] at ends
  have stops := Scan.atEndRaw_iff.2 ends
  obtain ⟨spaces, tail, spelled, blank, -, closed⟩ := Scan.spelled_of_atEndRaw stops
  have some : (lexer.ahead place).rest ≠ [] := fun none => Scan.not_endsRaw_nil (none ▸ ends)
  have scanned : (lexer.ahead place).scan =
      ⟨.delimiter .blockStart, lexer.marks.blockStart.length, .blockTag, false⟩ := by
    rw [scan, raw, Scan.next, marks_ahead, Scan.raw, if_pos stops]
  have next : lexer.ahead (place + 1) = (lexer.ahead place).after
      ⟨.delimiter .blockStart, lexer.marks.blockStart.length, .blockTag, false⟩ := by
    rw [ahead, step_of_some some, scanned]
  have mode : (lexer.ahead (place + 1)).mode = .blockTag := by rw [next, after]
  have rest : (lexer.ahead (place + 1)).rest = spaces ++ (Scan.endRawWord ++ tail) := by
    rw [next, after, spelled]
    exact List.drop_left
  refine ⟨_, ?_, ?_, fun plain => fills.find?_endRaw mode ?_ rest blank closed⟩
  · rw [fills.drop_of_some some, scanned, next, after, ← there, ← size]
  · rw [fills.modeAfter?_eq ((fills.lt_size_iff place).2 some), mode]
  · rw [same]
    exact plain

/-- Raw content in which no tag stands at once goes on as one text. -/
theorem Fills.raw_text {d : Delimiters} (same : lexer.marks = d.marks) {start stop : Nat}
    (there : (lexer.ahead place).offset = start) (raw : (lexer.ahead place).mode = .raw)
    (some : (lexer.ahead place).rest ≠ [])
    (goes : ¬Scan.EndsRaw d.marks (lexer.ahead place).rest) (forward : start ≤ stop)
    (stops : Scan.run (Scan.atEndRaw d.marks) (lexer.ahead place).rest = stop - start) :
    stream.tokens.toList.drop place =
        ⟨.text, start, stop⟩ :: stream.tokens.toList.drop (place + 1) ∧
      (lexer.ahead (place + 1)).mode = .raw ∧ (lexer.ahead (place + 1)).offset = stop := by
  have scanned : (lexer.ahead place).scan =
      ⟨.text, Scan.run (Scan.atEndRaw d.marks) (lexer.ahead place).rest, .raw, false⟩ := by
    rw [scan, raw, Scan.next, marks_ahead, same, Scan.raw, if_neg (mt Scan.atEndRaw_iff.1 goes)]
  have next : lexer.ahead (place + 1) = (lexer.ahead place).after
      ⟨.text, Scan.run (Scan.atEndRaw d.marks) (lexer.ahead place).rest, .raw, false⟩ := by
    rw [ahead, step_of_some some, scanned]
  have offset : (lexer.ahead (place + 1)).offset = stop := by
    rw [next, after, there, stops]
    exact Nat.add_sub_cancel' forward
  refine ⟨?_, by rw [next, after], offset⟩
  rw [fills.drop_of_some some, scanned, offset, there]

section

variable {d : Delimiters} (marks : lexer.marks = d.marks) {text : List UInt8}
  (left : ∀ count, (lexer.ahead count).rest = text.drop (lexer.ahead count).offset)
  (raw : (lexer.ahead place).mode = .raw) {start : Nat}
  (there : (lexer.ahead place).offset = start)

include marks left raw there

/-- Raw content is a text up to the first place where a tag that ends it stands. -/
theorem Fills.content_upTo {p : Nat}
    (least : IsLeast {p | start ≤ p ∧ Scan.EndsRaw d.marks (text.drop p)} p) :
    let content := TokenStream.textBetween start p
    stream.tokens.toList.drop place =
        content ++ stream.tokens.toList.drop (place + content.length) ∧
      (lexer.ahead (place + content.length)).mode = .raw ∧
      (lexer.ahead (place + content.length)).offset = p := by
  obtain ⟨⟨after, stands⟩, first⟩ := least
  have rest : (lexer.ahead place).rest = text.drop start := by rw [left, there]
  rcases Nat.eq_or_lt_of_le after with rfl | before
  · rw [show TokenStream.textBetween start start = [] from if_neg (Nat.lt_irrefl start)]
    exact ⟨rfl, raw, there⟩
  · have goes : ¬Scan.EndsRaw d.marks (text.drop start) := fun ends =>
      Nat.not_lt_of_le (first ⟨Nat.le_refl _, ends⟩) before
    have some : text.drop start ≠ [] := by
      intro empty
      have short : text.length ≤ p := Nat.le_trans (List.drop_eq_nil_iff.1 empty) after
      rw [List.drop_eq_nil_of_le short] at stands
      exact Scan.not_endsRaw_nil stands
    have stops : Scan.run (Scan.atEndRaw d.marks) (text.drop start) = p - start := by
      apply Scan.run_eq_of_isLeast
      constructor
      · rw [Set.mem_ofPred_eq, List.drop_drop, Nat.add_sub_cancel' after]
        exact stands
      · intro q ends
        rw [Set.mem_ofPred_eq, List.drop_drop] at ends
        exact Nat.sub_le_iff_le_add'.2 (first ⟨Nat.le_add_right _ _, ends⟩)
    rw [← rest] at goes some stops
    rw [show TokenStream.textBetween start p = [_] from if_pos before]
    exact fills.raw_text marks there raw some goes after stops

/-- Raw content in which no such tag stands is a text to the end. -/
theorem Fills.content_toEnd (none : ∀ p, start ≤ p → ¬Scan.EndsRaw d.marks (text.drop p)) :
    stream.tokens.toList.drop place = TokenStream.textBetween start text.length := by
  have rest : (lexer.ahead place).rest = text.drop start := by rw [left, there]
  by_cases before : start < text.length
  · have goes (q : Nat) : ¬Scan.EndsRaw d.marks ((text.drop start).drop q) := by
      rw [List.drop_drop]
      exact none _ (Nat.le_add_right _ _)
    have stops := Scan.run_eq_length goes
    have some : text.drop start ≠ [] := by
      rw [ne_eq, List.drop_eq_nil_iff]
      exact Nat.not_le_of_lt before
    have here := none start (Nat.le_refl _)
    rw [List.length_drop] at stops
    rw [← rest] at stops some here
    obtain ⟨listed, -, last⟩ :=
      fills.raw_text marks there raw some here (Nat.le_of_lt before) stops
    have ended : (lexer.ahead (place + 1)).rest = [] := by rw [left, last, List.drop_length]
    rw [show TokenStream.textBetween start text.length = [_] from if_pos before]
    exact listed.trans (congrArg _ (fills.drop_of_nil ended))
  · have ended : (lexer.ahead place).rest = [] := by
      rw [rest, List.drop_eq_nil_iff]
      exact Nat.le_of_not_lt before
    rw [show TokenStream.textBetween start text.length = [] from if_neg before]
    exact fills.drop_of_nil ended

end

end Lexer

namespace TokenStream

/-- Raw content is verbatim. Behind a token that leads to raw content, as the end of a tag with the
word `raw` does, a stream has one text up to the first place where a tag that ends the content
stands, and then the start of that tag, of which `endraw` is the first token but space. If there is
no such place the text goes on to the end of the range. -/
theorem ofRange_verbatim {source : String} {first stop : Nat} {mode : Mode} {d : Delimiters}
    {limit : Nat} {stream : TokenStream}
    (read : ofRange source first stop mode d limit = .ok stream) {index : Nat} {closing : Token}
    (listed : stream.tokens[index]? = some closing)
    (raw : stream.modeAfter? index = some .raw) :
    let text := (Text.bytes source).take stop
    let onward := stream.tokens.toList.drop (index + 1)
    (∀ p, IsLeast {p | closing.stop ≤ p ∧ Scan.EndsRaw d.marks (text.drop p)} p →
      let content := textBetween closing.stop p
      ∃ rest, onward = content ++
          ⟨.delimiter .blockStart, p, p + d.blockStart.utf8ByteSize⟩ :: rest ∧
        stream.modeAfter? (index + 1 + content.length) = some .blockTag ∧
        ((∀ b ∈ (Text.bytes d.blockEnd).head?, Scan.isLetter b = false ∧
            b ∉ ([32, 9, 13, 10] : List UInt8)) →
          (rest.find? fun token => token.kind ≠ .whitespace).map (·.kind) =
            some (.keyword .endRaw))) ∧
    ((¬∃ p, closing.stop ≤ p ∧ Scan.EndsRaw d.marks (text.drop p)) →
      onward = textBetween closing.stop stop) := by
  obtain ⟨forward, within⟩ := range_of_ofRange read
  obtain ⟨-, -, fills⟩ := (ofRange_eq_ok_iff forward within).1 read
  have left (count : Nat) := Lexer.rest_ofRange_ahead mode d forward within count
  have marks : (Lexer.ofRange source first stop mode d).marks = d.marks := rfl
  generalize Lexer.ofRange source first stop mode d = lexer at fills left marks
  intro text onward
  have inside : index < stream.size := (Array.getElem?_eq_some_iff.1 listed).1
  have length : text.length = stop := by
    rw [List.length_take, Text.length_bytes, Nat.min_eq_left within]
  have there : (lexer.ahead (index + 1)).offset = closing.stop := by
    rw [fills.getElem?_tokens inside] at listed
    exact congrArg Token.stop (Option.some.inj listed)
  have here : (lexer.ahead (index + 1)).mode = .raw := by
    rw [fills.modeAfter?_eq inside] at raw
    exact Option.some.inj raw
  constructor
  · intro p least content
    obtain ⟨upTo, further, offset⟩ := fills.content_upTo marks left here there least
    obtain ⟨rest, opening, leads, word⟩ :=
      fills.endRaw_tag marks offset further (by rw [left, offset]; exact least.1.2)
    exact ⟨rest, upTo.trans (congrArg _ opening), leads, word⟩
  · intro none
    rw [← length]
    exact fills.content_toEnd marks left here there fun p after ends => none ⟨p, after, ends⟩

/-- A longer word does not end the content, nor does a brace that the next tag begins behind. -/
theorem ofRange_verbatim_longer_word :
    let source := "\x7b% raw %\x7d\x7b% endraws %\x7d\x7b\x7b% endraw %\x7d"
    ∃ stream, ofRange source 0 source.utf8ByteSize .template {} = .ok stream ∧
      ∃ rest, stream.tokens.toList.drop 5 =
          [⟨.text, 9, 23⟩, ⟨.delimiter .blockStart, 23, 25⟩] ++ rest ∧
        (rest.find? fun token => token.kind ≠ .whitespace).map (·.kind) =
          some (.keyword .endRaw) := by
  intro source
  have seen : (ofRange source 0 source.utf8ByteSize .template {}).map
      (fun stream => (stream.tokens[4]?, stream.modeAfter? 4)) =
        .ok (some ⟨.delimiter .blockEnd, 7, 9⟩, some .raw) := by decide +kernel
  cases read : ofRange source 0 source.utf8ByteSize .template {} with
  | error fault =>
    rw [read] at seen
    contradiction
  | ok stream =>
    rw [read] at seen
    obtain ⟨listed, raw⟩ := Prod.mk.inj (Except.ok.inj seen)
    have least : IsLeast {p | 9 ≤ p ∧ Scan.EndsRaw ({} : Delimiters).marks
        (((Text.bytes source).take source.utf8ByteSize).drop p)} 23 := by
      constructor
      · exact ⟨by decide, Scan.atEndRaw_iff.1 (by decide +kernel)⟩
      · rintro q ⟨after, stands⟩
        have none : ∀ q < 23, 9 ≤ q → Scan.atEndRaw ({} : Delimiters).marks
            (((Text.bytes source).take source.utf8ByteSize).drop q) = false := by decide +kernel
        apply Nat.le_of_not_lt
        intro before
        have here := none q before after
        rw [Scan.atEndRaw_iff.2 stands] at here
        contradiction
    have plain : ∀ b ∈ (Text.bytes ({} : Delimiters).blockEnd).head?, Scan.isLetter b = false ∧
        b ∉ ([32, 9, 13, 10] : List UInt8) := by decide +kernel
    obtain ⟨rest, onward, -, word⟩ := (ofRange_verbatim read listed raw).1 23 least
    exact ⟨stream, rfl, rest, onward, word plain⟩

end TokenStream
end Stencil
