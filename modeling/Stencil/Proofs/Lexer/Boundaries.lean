import Stencil.Proofs.Lexer.Table
import Stencil.Proofs.Text.Whole
/-!
# Tokens end at character boundaries

A source is a sequence of whole characters, and every scanning rule leaves whole characters behind
(`next_whole`): it takes a delimiter, ASCII bytes, a character, or bytes up to one that begins a
character. So tokens start and end at character boundaries (`isValid_of_ofSource`), whatever the
delimiters are.
-/

namespace Stencil
namespace Scan

open Text

variable {rest : List UInt8}

/-- What comes after a mark at the head of whole characters is whole. -/
theorem whole_leads {mark : String} (leading : leads (bytes mark) rest = true)
    (whole : Whole rest) : Whole (rest.drop (bytes mark).length) := by
  simp only [leads, Bool.and_eq_true, List.isPrefixOf_iff_prefix] at leading
  obtain ⟨-, more, rfl⟩ := leading
  rw [List.drop_left]
  exact whole.after (whole_bytes mark)

/-- A mark that leads begins with a character's first byte. -/
theorem begins_of_leads {mark : String} (leading : leads (bytes mark) rest = true) :
    ∃ first tail, rest = first :: tail ∧ first.IsUTF8FirstByte := by
  simp only [leads, Bool.and_eq_true, Bool.not_eq_true', List.isEmpty_eq_false_iff,
    List.isPrefixOf_iff_prefix] at leading
  obtain ⟨some, more, rfl⟩ := leading
  rw [bytes_eq] at some ⊢
  cases text : mark.toList with
  | nil => exact absurd (by rw [text]; rfl) some
  | cons c chars =>
    obtain ⟨first, tail, encoded, begins⟩ := utf8EncodeChar_eq_cons c
    exact ⟨first, tail ++ chars.flatMap String.utf8EncodeChar ++ more,
      by rw [List.flatMap_cons, encoded]; simp, begins⟩

/-- A line feed is the first byte of a character. -/
theorem begins_of_atLineFeed (feed : atLineFeed rest = true) :
    ∃ first tail, rest = first :: tail ∧ first.IsUTF8FirstByte := by
  cases rest with
  | nil => contradiction
  | cons first tail =>
    obtain rfl : first = lineFeed := by simpa [atLineFeed] using feed
    exact ⟨_, tail, rfl, begins_of_ascii (by decide)⟩

/-- A run that stops where characters begin leaves whole characters. -/
theorem whole_run {stop : List UInt8 → Bool} (whole : Whole rest)
    (begins : ∀ rest, stop rest = true →
      ∃ first tail, rest = first :: tail ∧ first.IsUTF8FirstByte) :
    Whole (rest.drop (run stop rest)) := by
  rcases stop_drop_run stop rest with ends | stops
  · rw [ends]
    exact whole_nil
  · obtain ⟨first, tail, left, start⟩ := begins _ stops
    rw [← List.take_append_drop (run stop rest) rest, left] at whole
    rw [left]
    exact whole.of_begins start

/-- After ASCII bytes of a class characters are whole. -/
theorem whole_span {inClass : UInt8 → Bool} (ascii : ∀ b, inClass b = true → b < 128)
    (whole : Whole rest) : Whole (rest.drop (spanOf inClass rest)) := by
  induction rest with
  | nil => exact whole
  | cons b rest ih =>
    rw [spanOf_cons]
    split
    next member =>
      exact ih (whole.tail (ascii b member))
    · exact whole

/-- Digits are ASCII. -/
theorem lt_of_isDigit (b : UInt8) (digit : isDigit b = true) : b < 128 := by
  grind [isDigit]

/-- What stands in a word is ASCII. -/
theorem lt_of_inWord (b : UInt8) (inside : inWord b = true) : b < 128 := by
  grind [inWord, isLetter, isDigit]

/-- Space in a tag is ASCII. -/
theorem lt_of_isTagSpace (mode : Mode) (b : UInt8) (space : isTagSpace mode b = true) :
    b < 128 := by
  grind [isTagSpace, isInlineSpace, lineFeed]

/-- A mark is an ASCII character. -/
theorem ascii_of_ofMark? {c : Char} {kind : TokenKind}
    (listed : TokenKind.ofMark? c = some kind) : c.toNat < 128 := by
  unfold TokenKind.ofMark? at listed
  split at listed
  all_goals first | contradiction | decide

/-- A line feed at the head is a character. -/
theorem whole_lineFeed (feed : atLineFeed rest = true) (whole : Whole rest) :
    Whole (rest.drop 1) := by
  cases rest with
  | nil => contradiction
  | cons first tail =>
    obtain rfl : first = lineFeed := by simpa [atLineFeed] using feed
    exact whole.tail (by decide)

/-- A string literal goes to the end or ends with its quote. -/
theorem stringFrom_ends (quote : UInt8) (pending count : Nat) (rest : List UInt8) :
    ∃ taken after, rest = taken ++ after ∧
      stringFrom quote pending count rest = count + taken.length ∧
      (after = [] ∨ ∃ before, taken = before ++ [quote]) := by
  induction rest generalizing pending count with
  | nil => exact ⟨[], [], rfl, rfl, .inl rfl⟩
  | cons b rest ih =>
    have further (pending : Nat) : ∃ taken after, b :: rest = taken ++ after ∧
        stringFrom quote pending (count + 1) rest = count + taken.length ∧
        (after = [] ∨ ∃ before, taken = before ++ [quote]) := by
      obtain ⟨taken, after, rfl, width, ends⟩ := ih pending (count + 1)
      refine ⟨b :: taken, after, rfl, by rw [width, List.length_cons]; omega, ?_⟩
      exact ends.imp_right fun ⟨before, split⟩ => ⟨b :: before, by rw [split]; rfl⟩
    cases pending with
    | succ pending => exact further pending
    | zero =>
      rw [stringFrom]
      split
      next closes => exact ⟨[b], rest, rfl, rfl, .inr ⟨[], by rw [closes]; rfl⟩⟩
      split
      · exact further _
      · exact further 0

/-- After a string literal characters are whole. -/
theorem whole_string {quote : UInt8} (ascii : quote < 128) {tail : List UInt8}
    (whole : Whole (quote :: tail)) :
    Whole ((quote :: tail).drop (stringFrom quote 0 1 tail)) := by
  obtain ⟨taken, after, rfl, width, ends⟩ := stringFrom_ends quote 0 1 tail
  rw [width, Nat.add_comm, List.drop_succ_cons, List.drop_left]
  rcases ends with rfl | ⟨before, rfl⟩
  · exact whole_nil
  · have closed : Whole ((quote :: before) ++ quote :: after) := by simpa using whole
    exact closed.after_ascii ascii

/-- After a number characters are whole. -/
theorem whole_number (mode : Mode) (rawPending : Bool) (whole : Whole rest) :
    Whole (rest.drop (number mode rawPending rest).width) := by
  have integer := whole_span lt_of_isDigit whole
  unfold number
  dsimp only
  split
  next point fraction left =>
    split
    next decimal =>
      obtain rfl : point = 46 := by simp_all
      rw [left] at integer
      have digits := whole_span lt_of_isDigit (integer.tail (by decide))
      have after : rest.drop (spanOf isDigit rest + 1) = fraction := by
        rw [← List.drop_drop, left, List.drop_succ_cons, List.drop_zero]
      rw [← after, List.drop_drop] at digits
      rwa [after] at digits
    · exact integer
  next => exact integer

/-- After a token of the expression language characters are whole. -/
theorem whole_expression (mode : Mode) (rawPending : Bool) (whole : Whole rest) :
    Whole (rest.drop (expression mode rawPending rest).width) := by
  unfold expression
  split
  · exact whole
  next b tail =>
    split
    · exact whole_span (lt_of_isTagSpace mode) whole
    split
    next operator found =>
      obtain ⟨entry, first, -⟩ := Option.map_eq_some_iff.1 found
      have listed := List.mem_of_find?_eq_some first
      have leading := List.find?_some first
      rw [List.isPrefixOf_iff_prefix] at leading
      obtain ⟨more, left⟩ := leading
      obtain ⟨mark, -, rfl⟩ := List.mem_map.1 listed
      rw [← left] at whole ⊢
      rw [← length_of_pairMarks _ listed, List.drop_left]
      exact whole.after (whole_bytes mark.1)
    next =>
      split
      next kind found =>
        have small := ascii_of_ofMark? found
        have valid : b.toNat.isValidChar := .inl (Nat.lt_trans b.toNat_lt (by decide))
        rw [Char.ofNat, dif_pos valid] at small
        have ascii : b < 128 := UInt8.lt_iff_toNat_lt.2 small
        exact whole.tail ascii
      next =>
        split
        next quote =>
          have ascii : b < 128 := by
            rcases (Bool.or_eq_true _ _).mp quote with double | single
            · rw [of_decide_eq_true double]; decide
            · rw [of_decide_eq_true single]; decide
          exact whole_string ascii whole
        split
        · exact whole_number mode rawPending whole
        split
        · exact whole_span lt_of_inWord whole
        · dsimp only
          rcases Nat.le_total (charWidth b) (b :: tail).length with fits | short
          · rw [Nat.min_eq_left fits]
            exact whole.drop_charWidth
          · rw [Nat.min_eq_right short, List.drop_length]
            exact whole_nil

/-- Every scan of whole characters leaves whole characters. -/
theorem next_whole (d : Delimiters) (mode : Mode) (lineStart rawPending : Bool)
    (whole : Whole rest) :
    Whole (rest.drop (next d.marks mode lineStart rawPending rest).width) := by
  cases mode with
  | template =>
    simp only [next, template]
    split
    next line => exact whole_leads ((Bool.and_eq_true _ _).mp line).2 whole
    split
    next line => exact whole_leads ((Bool.and_eq_true _ _).mp line).2 whole
    split
    next leading => exact whole_leads leading whole
    split
    next leading => exact whole_leads leading whole
    split
    next leading => exact whole_leads leading whole
    split
    next feed => exact whole_lineFeed feed whole
    · refine whole_run whole fun left stops => ?_
      rcases (Bool.or_eq_true _ _).mp stops with feed | start
      · exact begins_of_atLineFeed feed
      · simp only [atStart, Bool.or_eq_true] at start
        rcases start with (leading | leading) | leading <;> exact begins_of_leads leading
  | blockTag =>
    simp only [next, blockTag]
    split
    next leading => exact whole_leads leading whole
    · exact whole_expression _ _ whole
  | variableTag =>
    simp only [next, variableTag]
    split
    next leading => exact whole_leads leading whole
    · exact whole_expression _ _ whole
  | comment =>
    simp only [next, comment]
    split
    next leading => exact whole_leads leading whole
    · exact whole_run whole fun left stops => begins_of_leads stops
  | raw =>
    simp only [next, raw]
    split
    next ends => exact whole_leads ((Bool.and_eq_true _ _).mp ends).1 whole
    · exact whole_run whole fun left stops =>
        begins_of_leads ((Bool.and_eq_true _ _).mp stops).1
  | lineStatement =>
    simp only [next, lineStatement]
    split
    next feed => exact whole_lineFeed feed whole
    · exact whole_expression _ _ whole
  | lineComment =>
    simp only [next, lineComment]
    split
    next feed => exact whole_lineFeed feed whole
    · exact whole_run whole fun left stops => begins_of_atLineFeed stops

end Scan

namespace Lexer

variable {lexer : Lexer} {d : Delimiters}

/-- Whole characters are left all the way. -/
theorem whole_ahead (marks : lexer.marks = d.marks) (whole : Text.Whole lexer.rest) (count : Nat) :
    Text.Whole (lexer.ahead count).rest := by
  induction count with
  | zero => exact whole
  | succ count ih =>
    rw [ahead]
    by_cases empty : (lexer.ahead count).rest = []
    · rw [Lexer.step, if_pos (List.isEmpty_iff.2 empty)]
      exact ih
    · have scanned := Scan.next_whole d (lexer.ahead count).mode (lexer.ahead count).lineStart
        (lexer.ahead count).rawPending ih
      rw [← marks, ← marks_ahead count] at scanned
      rw [step_of_some empty]
      exact scanned

/-- What is read and what is left are the source all the way. -/
theorem offset_add_length_ahead (lexer : Lexer) (count : Nat) :
    (lexer.ahead count).offset + (lexer.ahead count).rest.length =
      lexer.offset + lexer.rest.length := by
  induction count with
  | zero => rfl
  | succ count ih =>
    rw [ahead]
    by_cases empty : (lexer.ahead count).rest = []
    · rw [Lexer.step, if_pos (List.isEmpty_iff.2 empty)]
      exact ih
    · have fits := (scan_fits empty).2
      rw [step_of_some empty]
      simp only [after, List.length_drop]
      omega

/-- The lexer of a range between boundaries is at a boundary all the way, from any mode. -/
theorem isValid_offset_ahead {source : String} {start stop : Nat} (mode : Mode) (d : Delimiters)
    (begins : (⟨start⟩ : String.Pos.Raw).IsValid source)
    (ends : (⟨stop⟩ : String.Pos.Raw).IsValid source) (count : Nat) :
    (⟨((ofRange source start stop mode d).ahead count).offset⟩ : String.Pos.Raw).IsValid
      source := by
  have last : min stop source.utf8ByteSize = stop := Nat.min_eq_left ends.le_rawEndPos
  obtain ⟨first, place, order, valid⟩ : ∃ first, first = min start stop ∧ first ≤ stop ∧
      (⟨first⟩ : String.Pos.Raw).IsValid source := by
    refine ⟨_, rfl, Nat.min_le_right _ _, ?_⟩
    rcases Nat.le_total start stop with forward | backward
    · rwa [Nat.min_eq_left forward]
    · rwa [Nat.min_eq_right backward]
  have offset : (ofRange source start stop mode d).offset = first := by
    rw [ofRange, last, place]
  have rest : (ofRange source start stop mode d).rest =
      ((Text.bytes source).drop first).take (stop - first) := by
    rw [ofRange, last, place]
  have length : (ofRange source start stop mode d).rest.length = stop - first := by
    rw [length_rest_ofRange, last, place]
  have whole : Text.Whole ((ofRange source start stop mode d).ahead count).rest := by
    apply whole_ahead rfl
    rw [rest, ← Text.bytes_slice order valid ends]
    exact Text.whole_bytes _
  have total := (ofRange source start stop mode d).offset_add_length_ahead count
  have before : (ofRange source start stop mode d).offset ≤
      ((ofRange source start stop mode d).ahead count).offset := offset_le_offset (Nat.zero_le _)
  rw [rest_ahead, rest, offset] at whole
  rw [offset] at before
  exact Text.isValid_between before (by omega) ends whole

end Lexer

namespace TokenStream

/-- The tokens of a source start and end at character boundaries, whatever the delimiters are. -/
theorem isValid_of_ofSource {source : String} {d : Delimiters} {limit : Nat} {stream : TokenStream}
    (read : ofSource source d limit = .ok stream) {index : Nat} {token : Token}
    (found : stream.tokens[index]? = some token) :
    (⟨token.start⟩ : String.Pos.Raw).IsValid source ∧
      (⟨token.stop⟩ : String.Pos.Raw).IsValid source := by
  obtain ⟨-, -, fills⟩ := (ofRange_eq_ok_iff (Nat.zero_le _) (Nat.le_refl _)).1 read
  have inside : index < stream.size := (Array.getElem?_eq_some_iff.1 found).1
  obtain rfl := Option.some.inj (found.symm.trans (fills.getElem?_tokens inside))
  have begins : (⟨0⟩ : String.Pos.Raw).IsValid source := String.Pos.Raw.isValid_zero
  have ends : (⟨source.utf8ByteSize⟩ : String.Pos.Raw).IsValid source :=
    String.Pos.Raw.isValid_rawEndPos
  exact ⟨Lexer.isValid_offset_ahead .template d begins ends index,
    Lexer.isValid_offset_ahead .template d begins ends (index + 1)⟩

end TokenStream
end Stencil
