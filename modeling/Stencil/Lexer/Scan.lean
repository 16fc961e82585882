import Stencil.Delimiters.Basic
import Stencil.Lexer.Mode
import Stencil.Token.Basic
/-!
# Scanning one token

What the next token is depends on the mode and on the bytes that are left, so scanning is a
function of these two. Each rule answers with a kind, a width in bytes, and the mode that follows.
The main statement is `Scan.next_fits`: as long as bytes are left, a token takes at least one of
them and no more than there are.
-/

namespace Stencil

/-- The delimiter strings as bytes. -/
structure Marks where
  blockStart : List UInt8
  blockEnd : List UInt8
  variableStart : List UInt8
  variableEnd : List UInt8
  commentStart : List UInt8
  commentEnd : List UInt8
  lineStatement : List UInt8
  lineComment : List UInt8

/-- The delimiter strings of a dialect as bytes. -/
def Delimiters.marks (d : Delimiters) : Marks where
  blockStart := Text.bytes d.blockStart
  blockEnd := Text.bytes d.blockEnd
  variableStart := Text.bytes d.variableStart
  variableEnd := Text.bytes d.variableEnd
  commentStart := Text.bytes d.commentStart
  commentEnd := Text.bytes d.commentEnd
  lineStatement := Text.bytes d.lineStatement
  lineComment := Text.bytes d.lineComment

/-- The next token, without its position, and how reading goes on after it. -/
structure Scan where
  kind : TokenKind
  width : Nat
  mode : Mode
  /-- The block tag being read has the word `raw` in it. -/
  rawPending : Bool := false

namespace Scan

/-! ### Classes of bytes -/

/-- The line feed. -/
def lineFeed : UInt8 := 10

/-- A decimal digit. -/
def isDigit (b : UInt8) : Bool := 48 ≤ b && b ≤ 57

/-- An ASCII letter. -/
def isLetter (b : UInt8) : Bool := (65 ≤ b && b ≤ 90) || (97 ≤ b && b ≤ 122)

/-- A byte that may begin a word. -/
def startsWord (b : UInt8) : Bool := isLetter b || b = 95

/-- A byte that may go on in a word. -/
def inWord (b : UInt8) : Bool := isLetter b || isDigit b || b = 95

/-- Space within a tag that is not a line end. -/
def isInlineSpace (b : UInt8) : Bool := b = 32 || b = 9 || b = 13

/-- Space within a tag: line ends too, except where the line end closes the tag. -/
def isTagSpace (mode : Mode) (b : UInt8) : Bool :=
  isInlineSpace b || (b = lineFeed && mode ≠ .lineStatement)

/-- The number of bytes in the character that a byte begins. -/
def charWidth (b : UInt8) : Nat :=
  if b < 0xC0 then 1 else if b < 0xE0 then 2 else if b < 0xF0 then 3
  else if b < 0xF8 then 4 else 1

/-- Every character has at least one byte. -/
theorem charWidth_pos (b : UInt8) : 0 < charWidth b := by
  unfold charWidth
  repeat' split
  all_goals omega

/-! ### Runs -/

/-- A mark leads the bytes when it is not empty and they begin with it. -/
def leads (mark rest : List UInt8) : Bool := !mark.isEmpty && mark.isPrefixOf rest

/-- The number of bytes before the first place where `stop` holds, added to `count`. -/
def runFrom (stop : List UInt8 → Bool) (count : Nat) : List UInt8 → Nat
  | [] => count
  | b :: rest => if stop (b :: rest) then count else runFrom stop (count + 1) rest

/-- The number of bytes before the first place where `stop` holds. -/
def run (stop : List UInt8 → Bool) (rest : List UInt8) : Nat := runFrom stop 0 rest

/-- The number of leading bytes of a class. -/
def spanOf (inClass : UInt8 → Bool) (rest : List UInt8) : Nat := (rest.takeWhile inClass).length

/-- The bytes begin with a line feed. -/
def atLineFeed (rest : List UInt8) : Bool := rest.head? = some lineFeed

/-- Counting on from a number adds to it. -/
theorem runFrom_eq (stop : List UInt8 → Bool) (count : Nat) (rest : List UInt8) :
    runFrom stop count rest = count + run stop rest := by
  induction rest generalizing count with
  | nil => rfl
  | cons b rest ih =>
    unfold run
    rw [runFrom, runFrom]
    split
    · rfl
    · rw [ih, ih (0 + 1)]; omega

/-- A run stops at once where `stop` holds and takes a byte where it does not. -/
theorem run_cons (stop : List UInt8 → Bool) (b : UInt8) (rest : List UInt8) :
    run stop (b :: rest) = if stop (b :: rest) then 0 else run stop rest + 1 := by
  rw [run, runFrom]
  split
  · rfl
  · rw [runFrom_eq]; omega

/-- A run stays within the bytes. -/
theorem run_le (stop : List UInt8 → Bool) (rest : List UInt8) : run stop rest ≤ rest.length := by
  induction rest with
  | nil => simp [run, runFrom]
  | cons b rest ih =>
    rw [run_cons, List.length_cons]
    split <;> omega

/-- A run ends at the end of the bytes or where `stop` holds. -/
theorem stop_drop_run (stop : List UInt8 → Bool) (rest : List UInt8) :
    rest.drop (run stop rest) = [] ∨ stop (rest.drop (run stop rest)) = true := by
  induction rest with
  | nil => simp
  | cons b rest ih =>
    rw [run_cons]
    split
    · right; simpa
    · simpa using ih

/-- No more bytes are in a class than there are. -/
theorem spanOf_le (inClass : UInt8 → Bool) (rest : List UInt8) :
    spanOf inClass rest ≤ rest.length := (List.takeWhile_prefix _).length_le

/-- The first byte counts if it is in the class, and otherwise nothing does. -/
theorem spanOf_cons (inClass : UInt8 → Bool) (b : UInt8) (rest : List UInt8) :
    spanOf inClass (b :: rest) = if inClass b then spanOf inClass rest + 1 else 0 := by
  unfold spanOf
  rw [List.takeWhile_cons]
  split <;> simp

/-! ### Template text, comments and raw content -/

/-- A tag or comment starts here. -/
def atStart (m : Marks) (rest : List UInt8) : Bool :=
  leads m.blockStart rest || leads m.variableStart rest || leads m.commentStart rest

/-- Between tags: the line forms at the start of a line, then the three start delimiters, then a
line feed, then text up to the next of these. -/
def template (m : Marks) (lineStart : Bool) (rest : List UInt8) : Scan :=
  if lineStart && leads m.lineStatement rest then
    ⟨.delimiter .blockStart, m.lineStatement.length, .lineStatement, false⟩
  else if lineStart && leads m.lineComment rest then
    ⟨.delimiter .commentStart, m.lineComment.length, .lineComment, false⟩
  else if leads m.blockStart rest then
    ⟨.delimiter .blockStart, m.blockStart.length, .blockTag, false⟩
  else if leads m.variableStart rest then
    ⟨.delimiter .variableStart, m.variableStart.length, .variableTag, false⟩
  else if leads m.commentStart rest then
    ⟨.delimiter .commentStart, m.commentStart.length, .comment, false⟩
  else if atLineFeed rest then
    ⟨.newline, 1, .template, false⟩
  else
    ⟨.text, run (fun r => atLineFeed r || atStart m r) rest, .template, false⟩

/-- Inside a comment: its closing delimiter, or text up to it. -/
def comment (m : Marks) (rest : List UInt8) : Scan :=
  if leads m.commentEnd rest then
    ⟨.delimiter .commentEnd, m.commentEnd.length, .template, false⟩
  else
    ⟨.text, run (leads m.commentEnd) rest, .comment, false⟩

/-- Inside a line comment: the line feed that ends it, or text up to it. -/
def lineComment (rest : List UInt8) : Scan :=
  if atLineFeed rest then ⟨.newline, 1, .template, false⟩
  else ⟨.text, run atLineFeed rest, .lineComment, false⟩

/-- The word that ends a raw block. -/
def endRawWord : List UInt8 := Text.bytes "endraw"

/-- A tag that ends a raw block starts here: the block start, space, and the whole word. -/
def atEndRaw (m : Marks) (rest : List UInt8) : Bool :=
  leads m.blockStart rest &&
    let word := (rest.drop m.blockStart.length).dropWhile fun b => isInlineSpace b || b = lineFeed
    endRawWord.isPrefixOf word && !((word.drop endRawWord.length).head?.any inWord)

/-- Inside a raw block: the tag that ends it, or text up to that tag. -/
def raw (m : Marks) (rest : List UInt8) : Scan :=
  if atEndRaw m rest then
    ⟨.delimiter .blockStart, m.blockStart.length, .blockTag, false⟩
  else
    ⟨.text, run (atEndRaw m) rest, .raw, false⟩

/-! ### Inside tags -/

/-- The bytes of a string literal after its opening quote, added to `count`: up to the closing
quote or to the end. A backslash takes the whole character after it, of which `pending` bytes are
still to come. -/
def stringFrom (quote : UInt8) (pending count : Nat) : List UInt8 → Nat
  | [] => count
  | b :: rest =>
    match pending with
    | pending + 1 => stringFrom quote pending (count + 1) rest
    | 0 =>
      if b = quote then count + 1
      else if b = 92 then stringFrom quote ((rest.head?.map charWidth).getD 0) (count + 1) rest
      else stringFrom quote 0 (count + 1) rest

/-- Digits, and a point with digits after it when there is a digit after the point. -/
def number (mode : Mode) (rawPending : Bool) (rest : List UInt8) : Scan :=
  let whole := spanOf isDigit rest
  match rest.drop whole with
  | point :: fraction =>
    if point = 46 && fraction.head?.any isDigit then
      ⟨.literal .float, whole + 1 + spanOf isDigit fraction, mode, rawPending⟩
    else
      ⟨.literal .integer, whole, mode, rawPending⟩
  | [] => ⟨.literal .integer, whole, mode, rawPending⟩

/-- The text of ASCII bytes. -/
def asciiText (ascii : List UInt8) : String :=
  String.ofList (ascii.map fun b => Char.ofNat b.toNat)

/-- A word is reserved, a literal, or a name. The word `raw` in a block tag announces raw content
after the tag. -/
def word (mode : Mode) (rawPending : Bool) (rest : List UInt8) : Scan :=
  let spelling := rest.takeWhile inWord
  let kind := (TokenKind.ofWord? (asciiText spelling)).getD .identifier
  ⟨kind, spelling.length, mode, rawPending || (kind = .keyword .rawKw && mode = .blockTag)⟩

/-- The operators of two characters as bytes. -/
def pairMarks : List (List UInt8 × Operator) :=
  Operator.pairs.map fun entry => (Text.bytes entry.1, entry.2)

/-- An operator of two characters is two bytes. -/
theorem length_of_pairMarks : ∀ entry ∈ pairMarks, entry.1.length = 2 := by decide +kernel

/-- The operator of two characters at the head of the bytes. -/
def pairOperator? (rest : List UInt8) : Option Operator :=
  (pairMarks.find? fun entry => entry.1.isPrefixOf rest).map (·.2)

/-- A token of the expression language: space, an operator of two characters, a mark of one, a
string, a number, a word, or a character that can be none of these. -/
def expression (mode : Mode) (rawPending : Bool) (rest : List UInt8) : Scan :=
  match rest with
  | [] => ⟨.whitespace, 0, mode, rawPending⟩
  | b :: tail =>
    if isTagSpace mode b then
      ⟨.whitespace, spanOf (isTagSpace mode) rest, mode, rawPending⟩
    else match pairOperator? rest with
    | some operator => ⟨.operator operator, 2, mode, rawPending⟩
    | none => match TokenKind.ofMark? (Char.ofNat b.toNat) with
      | some kind => ⟨kind, 1, mode, rawPending⟩
      | none =>
        if b = 34 || b = 39 then ⟨.literal .string, stringFrom b 0 1 tail, mode, rawPending⟩
        else if isDigit b then number mode rawPending rest
        else if startsWord b then word mode rawPending rest
        else ⟨.badCharacter, min (charWidth b) rest.length, mode, rawPending⟩

/-- Inside a block tag: its closing delimiter, which leads to raw content if the tag announced it,
or a token of the expression language. -/
def blockTag (m : Marks) (rawPending : Bool) (rest : List UInt8) : Scan :=
  if leads m.blockEnd rest then
    ⟨.delimiter .blockEnd, m.blockEnd.length, if rawPending then .raw else .template, false⟩
  else
    expression .blockTag rawPending rest

/-- Inside a variable tag: its closing delimiter or a token of the expression language. -/
def variableTag (m : Marks) (rest : List UInt8) : Scan :=
  if leads m.variableEnd rest then
    ⟨.delimiter .variableEnd, m.variableEnd.length, .template, false⟩
  else
    expression .variableTag false rest

/-- Inside a line statement: the line feed that ends it or a token of the expression language. -/
def lineStatement (rest : List UInt8) : Scan :=
  if atLineFeed rest then ⟨.newline, 1, .template, false⟩
  else expression .lineStatement false rest

/-- The next token in each mode. -/
def next (m : Marks) (mode : Mode) (lineStart rawPending : Bool) (rest : List UInt8) : Scan :=
  match mode with
  | .template => template m lineStart rest
  | .blockTag => blockTag m rawPending rest
  | .variableTag => variableTag m rest
  | .comment => comment m rest
  | .raw => raw m rest
  | .lineStatement => lineStatement rest
  | .lineComment => lineComment rest

/-! ### Every token takes at least one byte -/

/-- A mark that leads is not empty, and there are enough bytes for it. -/
theorem leads_length {mark rest : List UInt8} (h : leads mark rest = true) :
    0 < mark.length ∧ mark.length ≤ rest.length := by
  simp only [leads, Bool.and_eq_true, Bool.not_eq_true', List.isEmpty_eq_false_iff,
    List.isPrefixOf_iff_prefix] at h
  exact ⟨List.length_pos_iff.2 h.1, h.2.length_le⟩

/-- Where the text does not stop at once, a run has bytes. -/
theorem run_pos {stop : List UInt8 → Bool} {rest : List UInt8} (hr : rest ≠ [])
    (h : stop rest = false) : 0 < run stop rest := by
  cases rest with
  | nil => exact absurd rfl hr
  | cons b rest => rw [run_cons, h]; simp

/-- A string literal ends between where the scan is and the end of the bytes. -/
theorem stringFrom_bounds (quote : UInt8) (pending count : Nat) (rest : List UInt8) :
    count ≤ stringFrom quote pending count rest ∧
      stringFrom quote pending count rest ≤ count + rest.length := by
  induction rest generalizing pending count with
  | nil => simp [stringFrom]
  | cons b rest ih =>
    unfold stringFrom
    cases pending with
    | succ pending => have := ih pending (count + 1); simp only [List.length_cons]; omega
    | zero =>
      simp only [List.length_cons]
      split
      · omega
      · split
        · have := ih ((rest.head?.map charWidth).getD 0) (count + 1); omega
        · have := ih 0 (count + 1); omega

/-- The width of a scan is that of a token: at least one byte, and no more than are left. -/
def Fits (scan : Scan) (rest : List UInt8) : Prop := 0 < scan.width ∧ scan.width ≤ rest.length

/-- A number takes a byte at least, and no more than there are. -/
theorem number_fits (mode : Mode) (rawPending : Bool) (b : UInt8) (tail : List UInt8)
    (h : isDigit b = true) : (number mode rawPending (b :: tail)).Fits (b :: tail) := by
  have hw : spanOf isDigit (b :: tail) ≤ (b :: tail).length := spanOf_le _ _
  have hp : 0 < spanOf isDigit (b :: tail) := by rw [spanOf_cons, h]; simp
  unfold number Fits
  dsimp only
  split
  next point fraction hd =>
    have hl : (b :: tail).length - spanOf isDigit (b :: tail) = fraction.length + 1 := by
      rw [← List.length_drop, hd]; rfl
    have hf := spanOf_le isDigit fraction
    split <;> simp only <;> omega
  next => exact ⟨hp, hw⟩

/-- A word takes a byte at least, and no more than there are. -/
theorem word_fits (mode : Mode) (rawPending : Bool) (b : UInt8) (tail : List UInt8)
    (h : startsWord b = true) : (word mode rawPending (b :: tail)).Fits (b :: tail) := by
  have hi : inWord b = true := by
    simp only [startsWord, Bool.or_eq_true, decide_eq_true_eq] at h
    rcases h with h | h <;> simp [inWord, h]
  refine ⟨?_, (List.takeWhile_prefix _).length_le⟩
  simp [word, hi]

/-- A token inside a tag takes a byte at least, and no more than there are. -/
theorem expression_fits (mode : Mode) (rawPending : Bool) {rest : List UInt8} (hr : rest ≠ []) :
    (expression mode rawPending rest).Fits rest := by
  cases rest with
  | nil => exact absurd rfl hr
  | cons b tail =>
    unfold expression
    simp only
    split
    next h =>
      refine ⟨?_, spanOf_le _ _⟩
      simp only [spanOf_cons, h, if_true]; omega
    · split
      next operator h =>
        unfold pairOperator? at h
        obtain ⟨entry, he, -⟩ := Option.map_eq_some_iff.1 h
        have hp := List.find?_some he
        have hm := List.mem_of_find?_eq_some he
        have h2 : entry.1.length = 2 := length_of_pairMarks entry hm
        have := (List.isPrefixOf_iff_prefix.1 hp).length_le
        exact ⟨by simp, by rw [← h2]; exact this⟩
      next =>
        split
        · exact ⟨by simp, by simp⟩
        · split
          · have := stringFrom_bounds b 0 1 tail
            exact ⟨by simp only; omega, by simp only [List.length_cons]; omega⟩
          · split
            next h => exact number_fits mode rawPending b tail h
            · split
              next h => exact word_fits mode rawPending b tail h
              · have := charWidth_pos b
                refine ⟨?_, Nat.min_le_right _ _⟩
                simp only [List.length_cons]; omega

/-- As long as bytes are left, a token takes at least one of them and no more than there are. -/
theorem next_fits (m : Marks) (mode : Mode) (lineStart rawPending : Bool) {rest : List UInt8}
    (hr : rest ≠ []) : (next m mode lineStart rawPending rest).Fits rest := by
  have hl : 0 < rest.length := List.length_pos_iff.2 hr
  cases mode with
  | template =>
    simp only [next, template]
    split
    next h => exact leads_length (by simp only [Bool.and_eq_true] at h; exact h.2)
    split
    next h => exact leads_length (by simp only [Bool.and_eq_true] at h; exact h.2)
    split
    next h => exact leads_length h
    split
    next h => exact leads_length h
    split
    next h => exact leads_length h
    split
    next h => exact ⟨by simp, hl⟩
    next hb hv hc hn =>
      refine ⟨run_pos hr ?_, run_le _ _⟩
      simp only [atStart]
      simp_all
  | blockTag =>
    simp only [next, blockTag]
    split
    next h => exact leads_length h
    · exact expression_fits _ _ hr
  | variableTag =>
    simp only [next, variableTag]
    split
    next h => exact leads_length h
    · exact expression_fits _ _ hr
  | comment =>
    simp only [next, comment]
    split
    next h => exact leads_length h
    next h => exact ⟨run_pos hr (by simpa using h), run_le _ _⟩
  | raw =>
    simp only [next, raw]
    split
    next h => exact leads_length (by simp only [atEndRaw, Bool.and_eq_true] at h; exact h.1)
    next h => exact ⟨run_pos hr (by simpa using h), run_le _ _⟩
  | lineStatement =>
    simp only [next, lineStatement]
    split
    · exact ⟨by simp, hl⟩
    · exact expression_fits _ _ hr
  | lineComment =>
    simp only [next, lineComment]
    split
    · exact ⟨by simp, hl⟩
    next h => exact ⟨run_pos hr (by simpa using h), run_le _ _⟩

end Scan
end Stencil
