import Stencil.Proofs.Lexer.Stability
/-!
# Resuming in the middle

A lexer that has read its way to a place knows two things that the place itself does not show:
whether a line starts there and whether raw content was announced. Between tags the byte before
tells the first, and outside block tags nothing is announced (`placed_ahead`). So a lexer that is
started there reads the same tokens (`Twins.ahead`).
-/

namespace Stencil

namespace Scan

/-- A number is followed by more of the tag it stands in. -/
theorem number_goes_on (mode : Mode) (rawPending : Bool) (rest : List UInt8) :
    (number mode rawPending rest).mode = mode ∧
      (number mode rawPending rest).rawPending = rawPending := by
  unfold number
  dsimp only
  split
  · split <;> exact ⟨rfl, rfl⟩
  · exact ⟨rfl, rfl⟩

/-- An expression token is followed by more of the tag it stands in. -/
theorem expression_mode (mode : Mode) (rawPending : Bool) (rest : List UInt8) :
    (expression mode rawPending rest).mode = mode := by
  have number := number_goes_on mode rawPending rest
  unfold expression
  repeat' split
  all_goals first | rfl | exact number.1

/-- Outside block tags no raw content is announced. -/
theorem expression_rawPending {mode : Mode} (outside : mode ≠ .blockTag) (rest : List UInt8) :
    (expression mode false rest).rawPending = false := by
  have number := number_goes_on mode false rest
  unfold expression
  repeat' split
  all_goals first | rfl | exact number.2 | simp [word, outside]

variable {m : Marks}

/-- Raw content is announced only within block tags. -/
theorem next_rawPending (mode : Mode) (lineStart rawPending : Bool) (rest : List UInt8)
    (outside : (next m mode lineStart rawPending rest).mode ≠ .blockTag) :
    (next m mode lineStart rawPending rest).rawPending = false := by
  cases mode with
  | template =>
    simp only [next, template]
    repeat' split
    all_goals rfl
  | blockTag =>
    simp only [next, blockTag] at outside ⊢
    split
    · rfl
    next within =>
      rw [if_neg within, expression_mode] at outside
      exact absurd rfl outside
  | variableTag =>
    simp only [next, variableTag]
    split
    · rfl
    · exact expression_rawPending (by decide) rest
  | comment =>
    simp only [next, comment]
    split <;> rfl
  | raw =>
    simp only [next, raw]
    split <;> rfl
  | lineStatement =>
    simp only [next, lineStatement]
    split
    · rfl
    · exact expression_rawPending (by decide) rest
  | lineComment =>
    simp only [next, lineComment]
    split <;> rfl

/-- A mark that leads ends with its last byte. -/
theorem getElem?_of_leads {mark rest : List UInt8} (leading : leads mark rest = true) :
    rest[mark.length - 1]? = mark.getLast? := by
  have some := (leads_length leading).1
  simp only [leads, Bool.and_eq_true, List.isPrefixOf_iff_prefix] at leading
  obtain ⟨_, tail, spelled⟩ := leading
  rw [← spelled, List.getElem?_append_left (by omega), List.getLast?_eq_getElem?]

/-- Text does not end with a line feed. -/
theorem text_end {rest : List UInt8} (some : rest ≠ [])
    (goes : (atLineFeed rest || atStart m rest) = false) :
    false = decide (rest[run (fun r => atLineFeed r || atStart m r) rest - 1]? =
      .some lineFeed) := by
  have start : 0 < run (fun r => atLineFeed r || atStart m r) rest := run_pos some goes
  have last := not_stop_before_run (Nat.sub_lt start Nat.one_pos)
  rw [Bool.or_eq_false_iff, atLineFeed, List.head?_drop] at last
  exact last.1.symm

/-- A token between tags after which text goes on is a line feed or text. -/
theorem template_of_leaving {lineStart : Bool} {rest : List UInt8}
    (leaving : (template m lineStart rest).mode = .template) :
    atLineFeed rest = true ∧ template m lineStart rest = ⟨.newline, 1, .template, false⟩ ∨
      (atLineFeed rest || atStart m rest) = false ∧ template m lineStart rest =
        ⟨.text, run (fun r => atLineFeed r || atStart m r) rest, .template, false⟩ := by
  unfold template at leaving ⊢
  split at leaving
  · contradiction
  next noStatement =>
    split at leaving
    · contradiction
    next noRemark =>
      rw [if_neg noStatement, if_neg noRemark]
      split at leaving
      · contradiction
      next noBlock =>
        split at leaving
        · contradiction
        next noValue =>
          split at leaving
          · contradiction
          next noComment =>
            rw [if_neg noBlock, if_neg noValue, if_neg noComment]
            by_cases feed : atLineFeed rest = true
            · exact .inl ⟨feed, if_pos feed⟩
            · simp only [atStart, Bool.or_eq_false_iff]
              exact .inr ⟨⟨eq_false_of_ne_true feed, ⟨eq_false_of_ne_true noBlock,
                eq_false_of_ne_true noValue⟩, eq_false_of_ne_true noComment⟩, if_neg feed⟩

/-- If only what ends a tag or a comment leads out of it, that has been read where text goes on. -/
theorem closing_of_leaving {closes : Bool} {closing other : Scan} (stays : other.mode ≠ .template)
    (leaving : (if closes then closing else other).mode = .template) :
    closes = true ∧ (if closes then closing else other) = closing := by
  split at leaving
  next ends => exact ⟨ends, if_pos ends⟩
  · exact absurd leaving stays

/-- A token after which text goes on starts a line exactly if it ends with a line feed. -/
theorem lineStart_after (closed : m.Closed) {mode : Mode} (lineStart rawPending : Bool)
    {rest : List UInt8} (some : rest ≠ [])
    (leaving : (next m mode lineStart rawPending rest).mode = .template) :
    Lexer.lineStartAfter (next m mode lineStart rawPending rest).kind lineStart =
      decide (rest[(next m mode lineStart rawPending rest).width - 1]? = .some lineFeed) := by
  have newline (feed : atLineFeed rest = true) : true = decide (rest[1 - 1]? = .some lineFeed) := by
    rw [Nat.sub_self, ← List.head?_eq_getElem?]
    exact feed.symm
  have ended {mark : List UInt8} (leading : leads mark rest = true)
      (member : mark ∈ [m.blockEnd, m.variableEnd, m.commentEnd]) :
      false = decide (rest[mark.length - 1]? = .some lineFeed) := by
    rw [getElem?_of_leads leading, eq_comm, decide_eq_false_iff_not]
    exact closed mark member
  have stays {mode : Mode} (inside : mode ≠ .template) (rawPending : Bool) :
      (expression mode rawPending rest).mode ≠ .template := by
    rw [expression_mode]
    exact inside
  have told {scan : Scan} (read : next m mode lineStart rawPending rest = scan)
      (last : Lexer.lineStartAfter scan.kind lineStart =
        decide (rest[scan.width - 1]? = .some lineFeed)) :
      Lexer.lineStartAfter (next m mode lineStart rawPending rest).kind lineStart =
        decide (rest[(next m mode lineStart rawPending rest).width - 1]? = .some lineFeed) := by
    subst read
    exact last
  cases mode with
  | template =>
    rcases template_of_leaving leaving with ⟨feed, read⟩ | ⟨goes, read⟩
    · exact told read (newline feed)
    · exact told read (text_end some goes)
  | blockTag =>
    obtain ⟨leading, read⟩ := closing_of_leaving (stays (by decide) rawPending) leaving
    exact told read (ended leading (by simp))
  | variableTag =>
    obtain ⟨leading, read⟩ := closing_of_leaving (stays (by decide) false) leaving
    exact told read (ended leading (by simp))
  | comment =>
    obtain ⟨leading, read⟩ := closing_of_leaving (by rintro ⟨⟩) leaving
    exact told read (ended leading (by simp))
  | raw =>
    simp only [next, raw] at leaving
    split at leaving <;> contradiction
  | lineStatement =>
    obtain ⟨feed, read⟩ := closing_of_leaving (stays (by decide) false) leaving
    exact told read (newline feed)
  | lineComment =>
    obtain ⟨feed, read⟩ := closing_of_leaving (by rintro ⟨⟩) leaving
    exact told read (newline feed)

end Scan

namespace Lexer

/-- A lexer stands in a source: what is left is the source from its offset on, between tags a line
starts where the source says so, and outside block tags no raw content is announced. -/
structure Placed (source : List UInt8) (lexer : Lexer) : Prop where
  rest : lexer.rest = source.drop lexer.offset
  inside : lexer.offset ≤ source.length
  lineStart : lexer.mode = .template → lexer.lineStart =
    (decide (lexer.offset = 0) || decide (source[lexer.offset - 1]? = some Scan.lineFeed))
  rawPending : lexer.mode ≠ .blockTag → lexer.rawPending = false

/-- A lexer of a range up to the end of a source stands in that source. -/
theorem placed_ofRange {source : String} {start : Nat} {mode : Mode} {d : Delimiters}
    (inside : start ≤ source.utf8ByteSize) :
    (ofRange source start source.utf8ByteSize mode d).Placed (Text.bytes source) := by
  have size := Text.length_bytes source
  simp only [ofRange, Nat.min_self, Nat.min_eq_left inside]
  refine ⟨?_, by dsimp only; omega, fun _ => rfl, fun _ => rfl⟩
  exact List.take_of_length_le (by rw [List.length_drop]; omega)

section

variable {source : List UInt8} {lexer : Lexer}

/-- A scan takes no more bytes than there are. -/
theorem scan_fits (some : lexer.rest ≠ []) : lexer.scan.Fits lexer.rest :=
  Scan.next_fits _ _ _ _ some

/-- Where bytes are left, a step takes what the lexer scans. -/
theorem step_of_some (some : lexer.rest ≠ []) : lexer.step = lexer.after lexer.scan :=
  if_neg (by simpa using some)

/-- After a token that leads between tags a line starts if the token ends with a line feed. -/
theorem lineStart_step (closed : lexer.marks.Closed) (some : lexer.rest ≠ [])
    (leaving : lexer.scan.mode = .template) : lineStartAfter lexer.scan.kind lexer.lineStart =
      decide (lexer.rest[lexer.scan.width - 1]? = .some Scan.lineFeed) :=
  Scan.lineStart_after closed lexer.lineStart lexer.rawPending some leaving

/-- A token further a lexer still stands in the source. -/
theorem Placed.step (placed : lexer.Placed source) (closed : lexer.marks.Closed) :
    lexer.step.Placed source := by
  by_cases empty : lexer.rest = []
  · rw [Lexer.step, if_pos (List.isEmpty_iff.2 empty)]
    exact placed
  rw [step_of_some empty]
  have fits := scan_fits empty
  have length : lexer.rest.length = source.length - lexer.offset := by
    rw [placed.rest, List.length_drop]
  have least := fits.1
  have most := fits.2
  refine ⟨?_, ?_, fun leaving => ?_, fun outside => ?_⟩
  · simp only [after, placed.rest, List.drop_drop]
  · simp only [after]
    omega
  · have last := lineStart_step closed empty leaving
    have place : lexer.offset + lexer.scan.width - 1 = lexer.offset + (lexer.scan.width - 1) := by
      omega
    have past : decide (lexer.offset + lexer.scan.width = 0) = false := by
      simp only [decide_eq_false_iff_not]
      omega
    change lineStartAfter lexer.scan.kind lexer.lineStart =
      (decide (lexer.offset + lexer.scan.width = 0) ||
        decide (source[lexer.offset + lexer.scan.width - 1]? = some Scan.lineFeed))
    rw [past, Bool.false_or, place, ← List.getElem?_drop, ← placed.rest]
    exact last
  · exact Scan.next_rawPending _ _ _ _ outside

/-- A step keeps the marks. -/
theorem marks_step : lexer.step.marks = lexer.marks := by
  rw [Lexer.step]
  split <;> rfl

/-- The lexer has the same marks ahead. -/
theorem marks_ahead (count : Nat) : (lexer.ahead count).marks = lexer.marks := by
  induction count with
  | zero => rfl
  | succ count ih => rw [ahead, marks_step, ih]

/-- A lexer stands in its source all the way. -/
theorem Placed.ahead (placed : lexer.Placed source) (closed : lexer.marks.Closed) (count : Nat) :
    (lexer.ahead count).Placed source := by
  induction count with
  | zero => exact placed
  | succ count ih => exact ih.step (by rw [marks_ahead]; exact closed)

end

/-- Two lexers that may differ only in a flag that is not looked at: inside tags, comments and raw
content it makes no difference whether a line starts. -/
structure Twins (left right : Lexer) : Prop where
  marks : right.marks = left.marks
  rest : right.rest = left.rest
  offset : right.offset = left.offset
  mode : right.mode = left.mode
  rawPending : right.rawPending = left.rawPending
  lineStart : left.mode = .template → right.lineStart = left.lineStart

variable {left right : Lexer}

/-- Twins scan alike. -/
theorem Twins.scan (twins : left.Twins right) : right.scan = left.scan := by
  rw [Lexer.scan, Lexer.scan, twins.marks, twins.rest, twins.mode, twins.rawPending]
  cases mode : left.mode with
  | template => rw [twins.lineStart mode]
  | _ => rfl

/-- A step takes twins to twins. -/
theorem Twins.step (twins : left.Twins right) (closed : left.marks.Closed) :
    left.step.Twins right.step := by
  by_cases empty : left.rest = []
  · rw [Lexer.step, Lexer.step, if_pos (List.isEmpty_iff.2 empty),
      if_pos (List.isEmpty_iff.2 (twins.rest.trans empty))]
    exact twins
  have also : right.rest ≠ [] := by rw [twins.rest]; exact empty
  rw [step_of_some empty, step_of_some also, twins.scan]
  refine ⟨twins.marks, ?_, ?_, rfl, rfl, fun leaving => ?_⟩
  · simp only [after, twins.rest]
  · simp only [after, twins.offset]
  · have first := lineStart_step closed empty leaving
    have second := lineStart_step (twins.marks ▸ closed) also (twins.scan ▸ leaving)
    rw [twins.scan, twins.rest] at second
    exact second.trans first.symm

/-- Twins stay twins. -/
theorem Twins.ahead (twins : left.Twins right) (closed : left.marks.Closed) (count : Nat) :
    (left.ahead count).Twins (right.ahead count) := by
  induction count with
  | zero => exact twins
  | succ count ih => exact ih.step (by rw [marks_ahead]; exact closed)

/-- Twins read the same tokens. -/
theorem Twins.token? (twins : left.Twins right) (closed : left.marks.Closed) (place : Nat) :
    right.token? place = left.token? place := by
  have there := twins.ahead closed place
  rw [Lexer.token?, Lexer.token?, there.rest, current, current, there.scan, there.offset,
    there.mode]

/-- Two lexers that stand at the same place of a source in the same mode, and not in a block tag,
are twins. -/
theorem twins_of_placed {source : List UInt8} (first : left.Placed source)
    (second : right.Placed source) (marks : right.marks = left.marks)
    (offset : right.offset = left.offset) (mode : right.mode = left.mode)
    (outside : left.mode ≠ .blockTag) : left.Twins right where
  marks := marks
  rest := by rw [first.rest, second.rest, offset]
  offset := offset
  mode := mode
  rawPending := by rw [first.rawPending outside, second.rawPending (mode ▸ outside)]
  lineStart between := by
    rw [first.lineStart between, second.lineStart (mode.trans between), offset]

end Lexer
end Stencil
