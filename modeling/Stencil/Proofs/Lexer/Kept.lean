import Stencil.Proofs.Lexer.Layout
/-!
# What an edit leaves as it was

Two sources agree up to an edit. A lexer reads them in step up to a token before any token that
starts before the edit and does not lie in a block tag (`ahead_onto`, `token?_onto`). What a token
depends on lies before the edit then: the token after it, which ends text or a comment; the end of
the block tag that it stands in (`exists_blockEnd`); the tag that ends raw content, which is not
broken off at a token outside block tags (`endRaw_ahead`). Only the end of a variable tag may reach
over further tokens, which has to be ruled out.
-/

namespace Stencil
namespace Scan

/-! ### The tag that ends a raw block -/

variable {m : Marks} {rawPending : Bool}

/-- A mark does not lead bytes that begin otherwise. -/
theorem leads_of_head {mark : List UInt8} {first : UInt8} (other : mark.head? ≠ some first)
    (rest : List UInt8) : leads mark (first :: rest) = false := by
  rw [Bool.eq_false_iff]
  intro leading
  simp only [leads, Bool.and_eq_true, Bool.not_eq_true', List.isEmpty_eq_false_iff,
    List.isPrefixOf_iff_prefix] at leading
  obtain ⟨head, tail, spelled⟩ := List.exists_cons_of_ne_nil leading.1
  rw [spelled, List.cons_prefix_cons] at leading
  obtain ⟨-, rfl, -⟩ := leading
  exact other (by rw [spelled]; rfl)

/-- Where bytes begin otherwise than the closing delimiter a block tag goes on. -/
theorem blockTag_of_head {first : UInt8} (other : m.blockEnd.head? ≠ some first)
    (rest : List UInt8) :
    blockTag m rawPending (first :: rest) = expression .blockTag rawPending (first :: rest) :=
  if_neg (Bool.eq_false_iff.1 (leads_of_head other rest))

/-- Space in a block tag is a token of its own. -/
theorem blockTag_space {first : UInt8} (other : m.blockEnd.head? ≠ some first)
    (space : isInlineSpace first = true ∨ first = lineFeed) (rest : List UInt8) :
    blockTag m rawPending (first :: rest) =
      ⟨.whitespace, spanOf (isTagSpace .blockTag) (first :: rest), .blockTag, rawPending⟩ := by
  have blank : isTagSpace .blockTag first = true := by
    rcases space with inline | rfl
    · rw [isTagSpace, inline, Bool.true_or]
    · decide
  rw [blockTag_of_head other]
  unfold expression
  dsimp only
  rw [if_pos blank]

/-- Marks that are told apart do not close a block tag where there is space. -/
theorem head?_blockEnd_of_apart (apart : m.Apart) {first : UInt8}
    (space : isInlineSpace first = true ∨ first = lineFeed) : m.blockEnd.head? ≠ some first := by
  intro head
  have solid := apart.solid first (List.mem_of_head? head)
  rcases space with inline | feed
  · rw [solid.1] at inline
    contradiction
  · exact solid.2 feed

/-- The word that ends a raw block is a token of its own in expressions. -/
theorem expression_endRaw {tail : List UInt8} (closed : tail.head?.any inWord = false) :
    expression .blockTag rawPending (endRawWord ++ tail) =
      ⟨.keyword .endRaw, 6, .blockTag, rawPending⟩ := by
  rw [endRawWord_eq]
  have spelled : ([101, 110, 100, 114, 97, 119] ++ tail).takeWhile inWord =
      [101, 110, 100, 114, 97, 119] := by
    cases tail with
    | nil => decide
    | cons next rest =>
      have stop : inWord next = false := by simpa using closed
      have letters : ([101, 110, 100, 114, 97, 119] : List UInt8).all inWord = true := by decide
      rw [List.takeWhile_append_of_pos (List.all_eq_true.1 letters), List.takeWhile_cons, stop]
      rfl
  have single : pairOperator? ([101, 110, 100, 114, 97, 119] ++ tail) = none := by
    have agree : Agree 2 [101, 110] ([101, 110, 100, 114, 97, 119] ++ tail) := rfl
    rw [pairOperator?_of_agree agree (Nat.le_refl _)]
    decide +kernel
  have solid : ¬isTagSpace .blockTag 101 = true := by decide
  have letter : TokenKind.ofMark? (Char.ofNat (101 : UInt8).toNat) = none := by decide
  have reserved : TokenKind.ofWord? (asciiText [101, 110, 100, 114, 97, 119]) =
      some (.keyword .endRaw) := by decide
  rw [List.cons_append] at single spelled ⊢
  unfold expression
  dsimp only
  rw [if_neg solid, single]
  dsimp only
  rw [letter]
  dsimp only
  rw [if_neg (by decide), if_neg (by decide), if_pos (by decide), word, spelled, reserved]
  exact congrArg _ (Bool.or_false rawPending)

/-- In a block tag the word that ends a raw block is passed over at once, if not with more. -/
theorem blockTag_endRaw (apart : m.Apart) {tail : List UInt8}
    (closed : tail.head?.any inWord = false) :
    6 ≤ (blockTag m rawPending (endRawWord ++ tail)).width := by
  have size : endRawWord.length = 6 := by rw [endRawWord_eq]; rfl
  rw [blockTag]
  split
  next leading =>
    simp only [leads, Bool.and_eq_true, Bool.not_eq_true', List.isEmpty_eq_false_iff,
      List.isPrefixOf_iff_prefix] at leading
    dsimp only
    rw [← size]
    rcases List.prefix_or_prefix_of_prefix leading.2 (List.prefix_append _ _) with within | beyond
    · exact Nat.le_of_eq (congrArg List.length
        ((apart.endRaw within).resolve_left leading.1)).symm
    · exact beyond.length_le
  · exact Nat.le_of_eq (congrArg width (expression_endRaw closed)).symm

end Scan

namespace Lexer

variable {lexer : Lexer}

/-- In a block tag space is a token up to the word that ends a raw block. -/
theorem scan_space (mode : lexer.mode = .blockTag) {first : UInt8} {spaces tail : List UInt8}
    (other : lexer.marks.blockEnd.head? ≠ some first)
    (spelled : lexer.rest = first :: spaces ++ (Scan.endRawWord ++ tail))
    (blank : ∀ b ∈ first :: spaces, Scan.isInlineSpace b = true ∨ b = Scan.lineFeed) :
    lexer.scan = ⟨.whitespace, (first :: spaces).length, .blockTag, lexer.rawPending⟩ := by
  have width : Scan.spanOf (Scan.isTagSpace .blockTag) lexer.rest = (first :: spaces).length := by
    rw [Scan.spanOf, spelled, Scan.endRawWord_eq, List.takeWhile_append_of_pos]
    · have solid : ¬Scan.isTagSpace .blockTag 101 = true := by decide
      have stop (more : List UInt8) :
          ([101, 110, 100, 114, 97, 119] ++ more).takeWhile (Scan.isTagSpace .blockTag) = [] := by
        rw [List.cons_append, List.takeWhile_cons, if_neg solid]
      rw [stop, List.append_nil]
    · intro b member
      rcases blank b member with inline | rfl
      · rw [Scan.isTagSpace, inline, Bool.true_or]
      · decide
  rw [← width, scan, mode, Scan.next, spelled]
  exact Scan.blockTag_space other (blank first List.mem_cons_self) _

/-- In a block tag space is passed over to the word that ends a raw block. -/
theorem space_step (mode : lexer.mode = .blockTag) {first : UInt8} {spaces tail : List UInt8}
    (other : lexer.marks.blockEnd.head? ≠ some first)
    (spelled : lexer.rest = first :: spaces ++ (Scan.endRawWord ++ tail))
    (blank : ∀ b ∈ first :: spaces, Scan.isInlineSpace b = true ∨ b = Scan.lineFeed) :
    lexer.step.rest = Scan.endRawWord ++ tail ∧ lexer.step.mode = .blockTag ∧
      lexer.step.offset = lexer.offset + (first :: spaces).length := by
  rw [step_of_some (by rw [spelled]; exact List.cons_ne_nil _ _),
    scan_space mode other spelled blank, after]
  exact ⟨by rw [spelled, List.drop_left], rfl, rfl⟩

/-- In a block tag the word that ends a raw block is passed over at once. -/
theorem word_step (apart : lexer.marks.Apart) (mode : lexer.mode = .blockTag) {tail : List UInt8}
    (spelled : lexer.rest = Scan.endRawWord ++ tail)
    (closed : tail.head?.any Scan.inWord = false) : lexer.offset + 6 ≤ lexer.step.offset := by
  have scanned : lexer.scan = Scan.blockTag lexer.marks lexer.rawPending
      (Scan.endRawWord ++ tail) := by
    rw [scan, mode, Scan.next, spelled]
  have some : lexer.rest ≠ [] := by
    rw [spelled, Scan.endRawWord_eq]
    exact List.cons_ne_nil _ _
  rw [step_of_some some, scanned, after]
  exact Nat.add_le_add_left (Scan.blockTag_endRaw apart closed) lexer.offset

/-- The tokens after the start of a tag that ends a raw block reach the end of its word, and the
lexer is within the tag until then. -/
theorem endRaw_ahead (apart : lexer.marks.Apart) (mode : lexer.mode = .raw)
    (ends : Scan.atEndRaw lexer.marks lexer.rest = true) :
    ∃ count, lexer.offset + Scan.endRawWidth lexer.marks lexer.rest ≤
        (lexer.ahead count).offset ∧
      ∀ place, 0 < place → place < count → (lexer.ahead place).mode = .blockTag := by
  obtain ⟨spaces, tail, spelled, blank, width, closed⟩ := Scan.spelled_of_atEndRaw ends
  have opening : lexer.scan =
      ⟨.delimiter .blockStart, lexer.marks.blockStart.length, .blockTag, false⟩ := by
    rw [scan, mode, Scan.next, Scan.raw, if_pos ends]
  have some : lexer.rest ≠ [] := by
    rw [spelled, Scan.endRawWord_eq]
    simp
  have first : lexer.ahead 1 = lexer.after
      ⟨.delimiter .blockStart, lexer.marks.blockStart.length, .blockTag, false⟩ := by
    rw [ahead, ahead, step_of_some some, opening]
  have rest : (lexer.ahead 1).rest = spaces ++ (Scan.endRawWord ++ tail) := by
    rw [first, after, spelled]
    exact List.drop_left
  have within : (lexer.ahead 1).mode = .blockTag := by rw [first, after]
  have offset : (lexer.ahead 1).offset = lexer.offset + lexer.marks.blockStart.length := by
    rw [first, after]
  have marks (count : Nat) : (lexer.ahead count).marks.Apart := by
    rw [marks_ahead]
    exact apart
  rw [width]
  cases spaces with
  | nil =>
    refine ⟨2, ?_, fun place later before => ?_⟩
    · have whole := word_step (marks 1) within rest closed
      rw [offset] at whole
      exact whole
    · obtain rfl : place = 1 := by omega
      exact within
  | cons blankFirst spaces =>
    have other := Scan.head?_blockEnd_of_apart (marks 1) (blank blankFirst List.mem_cons_self)
    obtain ⟨restAfter, modeAfter, offsetAfter⟩ := space_step within other rest blank
    refine ⟨3, ?_, fun place later before => ?_⟩
    · have whole := word_step (marks 2) modeAfter restAfter closed
      rw [show (lexer.ahead 2).offset = (lexer.ahead 1).step.offset from rfl, offsetAfter,
        offset] at whole
      change _ ≤ (lexer.ahead 2).step.offset
      omega
    · obtain rfl | rfl : place = 1 ∨ place = 2 := by omega
      · exact within
      · exact modeAfter

/-! ### Two sources in step -/

/-- The same lexer over another source. -/
def onto (lexer : Lexer) (source : List UInt8) : Lexer :=
  { lexer with rest := source.drop lexer.offset }

/-- The end of a variable tag does not begin three bytes or more before an edit of a source and
reach over the edit. -/
def Unsplit (mark source : List UInt8) (edit : Nat) : Prop :=
  ∀ place, place + 3 ≤ edit → edit < place + mark.length →
    Scan.leads mark (source.drop place) = false

/-- A mark of three bytes does not reach as far. -/
theorem unsplit_of_short {mark : List UInt8} (short : mark.length ≤ 3) (source : List UInt8)
    (edit : Nat) : Unsplit mark source edit := fun place before beyond => by omega

section

variable {old new : List UInt8} {edit boundary : Nat} (apart : lexer.marks.Apart)
  (placed : lexer.Placed old) (closed : lexer.marks.Closed) (agree : Scan.Agree edit old new)
  (unsplit : Unsplit lexer.marks.variableEnd new edit)
  (outside : (lexer.ahead boundary).mode ≠ .blockTag) (some : (lexer.ahead boundary).rest ≠ [])
  (past : ∀ place < boundary, (lexer.ahead (place + 1)).offset < edit)

include past

/-- What is scanned at a token before the boundary lies before the edit. -/
theorem scan_before {place : Nat} (before : place < boundary)
    (current : (lexer.ahead place).rest ≠ []) :
    (lexer.ahead place).offset + (lexer.ahead place).scan.width < edit := by
  have ends := past place before
  rw [ahead, step_of_some current, after] at ends
  exact ends

include outside

/-- A block tag that a token before the boundary stands in is closed before the boundary. -/
theorem exists_blockEnd {place : Nat} (before : place < boundary)
    (mode : (lexer.ahead place).mode = .blockTag) (some : (lexer.ahead boundary).rest ≠ []) :
    ∃ later, place ≤ later ∧ later < boundary ∧
      Scan.leads lexer.marks.blockEnd (lexer.ahead later).rest = true ∧
      (lexer.ahead later).offset + lexer.marks.blockEnd.length < edit := by
  induction left : boundary - place generalizing place with
  | zero => omega
  | succ left ih =>
    have current : (lexer.ahead place).rest ≠ [] := rest_ne_nil_mono (Nat.le_of_lt before) some
    have marks : (lexer.ahead place).marks = lexer.marks := marks_ahead place
    have scanned : (lexer.ahead place).scan = Scan.blockTag lexer.marks
        (lexer.ahead place).rawPending (lexer.ahead place).rest := by
      rw [scan, mode, Scan.next, marks]
    by_cases ends : Scan.leads lexer.marks.blockEnd (lexer.ahead place).rest = true
    · have early := scan_before past before current
      rw [scanned, Scan.blockTag, if_pos ends] at early
      exact ⟨place, Nat.le_refl _, before, ends, early⟩
    · have onward : (lexer.ahead (place + 1)).mode = .blockTag := by
        rw [ahead, step_of_some current, after, scanned, Scan.blockTag, if_neg ends]
        exact Scan.expression_mode _ _ _
      have further : place + 1 < boundary := by
        apply Nat.lt_of_le_of_ne before
        rintro rfl
        exact outside onward
      obtain ⟨later, after, inside, closes⟩ := ih further onward (by omega)
      exact ⟨later, by omega, inside, closes⟩

include apart

/-- The tag that ends raw content lies before the edit with its word, if it starts before the
boundary. -/
theorem endRaw_before {place : Nat} (before : place < boundary)
    (mode : (lexer.ahead place).mode = .raw)
    (ends : Scan.atEndRaw lexer.marks (lexer.ahead place).rest = true) :
    (lexer.ahead place).offset + Scan.endRawWidth lexer.marks (lexer.ahead place).rest < edit := by
  have marks : (lexer.ahead place).marks = lexer.marks := marks_ahead place
  obtain ⟨count, offset, within⟩ := endRaw_ahead (marks.symm ▸ apart) mode (marks.symm ▸ ends)
  have whole : place + count ≤ boundary := by
    apply Nat.le_of_not_lt
    intro short
    have inner := within (boundary - place) (by omega) (by omega)
    rw [ahead_ahead, Nat.add_sub_cancel' (Nat.le_of_lt before)] at inner
    exact outside inner
  have last := past (boundary - 1) (by omega)
  rw [Nat.sub_add_cancel (by omega)] at last
  rw [ahead_ahead, marks] at offset
  exact Nat.lt_of_le_of_lt (Nat.le_trans offset (offset_le_offset whole)) last

include some

/-- What a token of raw content looks at lies before the edit, if it ends a whole token before the
boundary. -/
theorem raw_settled {place : Nat} (early : place + 2 ≤ boundary)
    (raw : (lexer.ahead place).mode = .raw) :
    Scan.run (Scan.atEndRaw lexer.marks) (lexer.ahead place).rest +
        Scan.endRawWidth lexer.marks ((lexer.ahead place).rest.drop
          (Scan.run (Scan.atEndRaw lexer.marks) (lexer.ahead place).rest)) <
      edit - (lexer.ahead place).offset := by
  have marks : (lexer.ahead place).marks = lexer.marks := marks_ahead place
  by_cases atEnd : Scan.atEndRaw lexer.marks (lexer.ahead place).rest = true
  · have whole := endRaw_before apart outside past (by omega) raw atEnd
    rw [Scan.run_of_stop atEnd, List.drop_zero]
    omega
  · have next : (lexer.ahead (place + 1)).rest ≠ [] := rest_ne_nil_mono (by omega) some
    have current : (lexer.ahead place).rest ≠ [] := rest_ne_nil_mono (by omega) some
    have text : (lexer.ahead place).scan =
        ⟨.text, Scan.run (Scan.atEndRaw lexer.marks) (lexer.ahead place).rest, .raw, false⟩ := by
      rw [scan, raw, Scan.next, Scan.raw, marks, if_neg atEnd]
    have step : lexer.ahead (place + 1) = (lexer.ahead place).after
        ⟨.text, Scan.run (Scan.atEndRaw lexer.marks) (lexer.ahead place).rest, .raw, false⟩ := by
      rw [ahead, step_of_some current, text]
    rw [step, after] at next
    have early : place + 1 < boundary := by omega
    have whole := endRaw_before apart outside past early
      (by rw [step, after])
      (by rw [step, after]; exact (Scan.stop_drop_run _ _).resolve_left next)
    rw [step, after] at whole
    dsimp only at whole
    omega

omit apart outside in
/-- What stops a text between tags lies before the edit, if the text ends a whole token before the
boundary. -/
theorem template_bounded {place : Nat} (early : place + 2 ≤ boundary)
    (template : (lexer.ahead place).mode = .template) :
    ∃ stop, stop < edit - (lexer.ahead place).offset ∧
      Scan.Bounded lexer.marks (lexer.ahead place).rest stop
        (edit - (lexer.ahead place).offset) ∧
      ((lexer.ahead place).scan.kind = .text → (lexer.ahead place).scan.width ≤ stop) := by
  have next : (lexer.ahead (place + 1)).rest ≠ [] := rest_ne_nil_mono (by omega) some
  have current : (lexer.ahead place).rest ≠ [] := rest_ne_nil_mono (by omega) some
  have marks (count : Nat) : (lexer.ahead count).marks = lexer.marks := marks_ahead count
  have first := scan_before past (show place < boundary by omega) current
  have second := scan_before past (show place + 1 < boundary by omega) next
  have scanned : (lexer.ahead place).scan = Scan.template lexer.marks
      (lexer.ahead place).lineStart (lexer.ahead place).rest := by
    rw [scan, template, Scan.next, marks]
  rcases Scan.template_cases lexer.marks (lexer.ahead place).lineStart (lexer.ahead place).rest with
    ⟨marked, bounded⟩ | ⟨text, -⟩
  · rw [← scanned] at marked bounded
    exact ⟨0, by omega, bounded.mono (by omega), fun same => absurd same marked⟩
  · rw [← scanned] at text
    have step : lexer.ahead (place + 1) = (lexer.ahead place).after (lexer.ahead place).scan := by
      rw [ahead, step_of_some current]
    have mode : (lexer.ahead (place + 1)).mode = .template := by rw [step, after, text]
    have rest : (lexer.ahead (place + 1)).rest =
        (lexer.ahead place).rest.drop (lexer.ahead place).scan.width := by rw [step, after]
    have offset : (lexer.ahead (place + 1)).offset =
        (lexer.ahead place).offset + (lexer.ahead place).scan.width := by rw [step, after]
    have later : (lexer.ahead (place + 1)).scan = Scan.template lexer.marks
        (lexer.ahead (place + 1)).lineStart (lexer.ahead (place + 1)).rest := by
      rw [scan, mode, Scan.next, marks]
    -- The text has stopped here, so no more text comes.
    have stops : (Scan.atLineFeed (lexer.ahead (place + 1)).rest ||
        Scan.atStart lexer.marks (lexer.ahead (place + 1)).rest) = true := by
      rw [rest, text] at next ⊢
      exact (Scan.stop_drop_run _ _).resolve_left next
    rcases Scan.template_cases lexer.marks (lexer.ahead (place + 1)).lineStart
      (lexer.ahead (place + 1)).rest with ⟨-, bounded⟩ | ⟨-, goes⟩
    · rw [← later, rest] at bounded
      exact ⟨_, by omega, bounded.of_drop.mono (by omega), fun _ => Nat.le_refl _⟩
    · rw [stops] at goes
      contradiction

omit apart outside in
/-- What ends a comment lies before the edit, if a token in it ends a whole token before the
boundary. -/
theorem comment_settled {place : Nat} (early : place + 2 ≤ boundary)
    (comment : (lexer.ahead place).mode = .comment) :
    Scan.run (Scan.leads lexer.marks.commentEnd) (lexer.ahead place).rest +
      lexer.marks.commentEnd.length < edit - (lexer.ahead place).offset := by
  have next : (lexer.ahead (place + 1)).rest ≠ [] := rest_ne_nil_mono (by omega) some
  have current : (lexer.ahead place).rest ≠ [] := rest_ne_nil_mono (by omega) some
  have marks (count : Nat) : (lexer.ahead count).marks = lexer.marks := marks_ahead count
  have first := scan_before past (show place < boundary by omega) current
  have second := scan_before past (show place + 1 < boundary by omega) next
  by_cases ends : Scan.leads lexer.marks.commentEnd (lexer.ahead place).rest = true
  · rw [scan, comment, Scan.next, Scan.comment, marks, if_pos ends] at first
    rw [Scan.run_of_stop ends]
    dsimp only at first
    omega
  · have text : (lexer.ahead place).scan = ⟨.text,
        Scan.run (Scan.leads lexer.marks.commentEnd) (lexer.ahead place).rest, .comment,
        false⟩ := by
      rw [scan, comment, Scan.next, Scan.comment, marks, if_neg ends]
    have step : lexer.ahead (place + 1) = (lexer.ahead place).after (lexer.ahead place).scan := by
      rw [ahead, step_of_some current]
    have mode : (lexer.ahead (place + 1)).mode = .comment := by rw [step, after, text]
    have rest : (lexer.ahead (place + 1)).rest = (lexer.ahead place).rest.drop
        (Scan.run (Scan.leads lexer.marks.commentEnd) (lexer.ahead place).rest) := by
      rw [step, after, text]
    have closing : Scan.leads lexer.marks.commentEnd (lexer.ahead (place + 1)).rest = true := by
      rw [rest] at next ⊢
      exact (Scan.stop_drop_run _ _).resolve_left next
    rw [scan, mode, Scan.next, Scan.comment, marks, if_pos closing, step, after, text] at second
    dsimp only at second
    omega

include placed closed agree unsplit

/-- A token that ends a whole token before the boundary is scanned alike in both sources. -/
theorem scan_onto {place : Nat} (early : place + 2 ≤ boundary) :
    ((lexer.ahead place).onto new).scan = (lexer.ahead place).scan := by
  have next : (lexer.ahead (place + 1)).rest ≠ [] := rest_ne_nil_mono (by omega) some
  have current : (lexer.ahead place).rest ≠ [] := rest_ne_nil_mono (by omega) some
  have marks : (lexer.ahead place).marks = lexer.marks := marks_ahead place
  have there := (placed.ahead closed place).rest
  have rests := agree.drop (lexer.ahead place).offset
  rw [← there] at rests
  have first := scan_before past (show place < boundary by omega) current
  have second := scan_before past (show place + 1 < boundary by omega) next
  have solid := (scan_fits next).1
  have width : (lexer.ahead place).scan.width + 1 < edit - (lexer.ahead place).offset := by
    rw [ahead, step_of_some current, after] at second
    rw [ahead, step_of_some current, after] at solid
    dsimp only at second
    omega
  have scanned : ((lexer.ahead place).onto new).scan = Scan.next lexer.marks
      (lexer.ahead place).mode (lexer.ahead place).lineStart (lexer.ahead place).rawPending
      (new.drop (lexer.ahead place).offset) := by
    rw [scan, show ((lexer.ahead place).onto new).marks = lexer.marks from marks]
    rfl
  rw [scanned]
  rw [scan, marks] at width first ⊢
  cases mode : (lexer.ahead place).mode with
  | template =>
    obtain ⟨stop, inside, bounded, upTo⟩ := template_bounded some past early mode
    rw [scan, marks, mode] at upTo
    exact Scan.template_of_agree apart _ rests inside bounded upTo
  | blockTag =>
    obtain ⟨later, after, before, closes, within⟩ :=
      exists_blockEnd outside past (show place < boundary by omega) mode some
    rw [mode] at width
    refine Scan.tag_of_agree rests (Scan.leads_of_agree rests ?_) width
    have forward : (lexer.ahead place).offset ≤ (lexer.ahead later).offset :=
      offset_le_offset after
    omega
  | variableTag =>
    rw [mode] at width first
    refine Scan.tag_of_agree rests ?_ width
    by_cases whole : lexer.marks.variableEnd.length ≤ edit - (lexer.ahead place).offset
    · exact Scan.leads_of_agree rests whole
    · have positive := (scan_fits current).1
      rw [scan, marks, mode] at positive
      rw [unsplit _ (by omega) (by omega)]
      by_cases ends : Scan.leads lexer.marks.variableEnd (lexer.ahead place).rest = true
      · rw [Scan.next, Scan.variableTag, if_pos ends] at first
        dsimp only at first
        omega
      · exact (eq_false_of_ne_true ends).symm
  | comment => exact Scan.comment_of_agree rests (comment_settled some past early mode)
  | raw =>
    have settled := raw_settled apart outside some past early mode
    refine Scan.raw_of_agree rests (fun empty => ?_) settled
    rw [ahead, step_of_some current, after, scan, marks, mode] at next
    exact next empty
  | lineStatement =>
    rw [mode] at width
    exact Scan.tag_of_agree rests (Scan.atLineFeed_of_agree rests (by omega)) width
  | lineComment =>
    rw [mode] at width
    exact Scan.lineComment_of_agree rests width

omit apart outside unsplit in
/-- Before the boundary bytes are left of both sources. -/
theorem rest_onto {place : Nat} (early : place < boundary) :
    ((lexer.ahead place).onto new).rest ≠ [] := by
  have current : (lexer.ahead place).rest ≠ [] := rest_ne_nil_mono (Nat.le_of_lt early) some
  have forward := offset_lt_offset_succ current
  have last := past place early
  have rests := agree.drop (lexer.ahead place).offset
  rw [← (placed.ahead closed place).rest] at rests
  intro empty
  rw [show new.drop (lexer.ahead place).offset = [] from empty] at rests
  exact current (rests.symm.of_nil (by omega))

/-- Up to a token before the boundary the two sources are read in step. -/
theorem ahead_onto {place : Nat} (early : place + 1 ≤ boundary) :
    (lexer.onto new).ahead place = (lexer.ahead place).onto new := by
  induction place with
  | zero => rfl
  | succ place ih =>
    have current : (lexer.ahead place).rest ≠ [] := rest_ne_nil_mono (by omega) some
    have left := rest_onto placed closed agree some past (show place < boundary by omega)
    have same := scan_onto apart placed closed agree unsplit outside some past early
    rw [ahead, ih (by omega), step_of_some left, same, ahead, step_of_some current]
    simp only [after, onto, List.drop_drop]

/-- The tokens that end a whole token before the boundary are the same in both sources. -/
theorem token?_onto {place : Nat} (early : place + 2 ≤ boundary) :
    (lexer.onto new).token? place = lexer.token? place := by
  have current : (lexer.ahead place).rest ≠ [] := rest_ne_nil_mono (by omega) some
  have left := rest_onto placed closed agree some past (show place < boundary by omega)
  have same := scan_onto apart placed closed agree unsplit outside some past early
  rw [token?, token?,
    ahead_onto apart placed closed agree unsplit outside some past (by omega),
    if_neg (by simpa using left), if_neg (by simpa using current), Lexer.current, Lexer.current,
    same]
  rfl

end

end Lexer

end Stencil
