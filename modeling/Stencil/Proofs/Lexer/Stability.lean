import Stencil.Proofs.Delimiters.Usable
import Stencil.Proofs.Lexer.Agreement
import Stencil.Proofs.Lexer.Reading
/-!
# How far a token looks ahead

A token of the expression language depends on its own bytes and on two bytes more. Text, comments
and raw content depend on what ends them, and a tag on whether its closing delimiter comes next. If
delimiters are told apart (`Marks.Apart`), so that none hides another, then scans of rests that
agree as far as that are the same: `template_of_agree`, `comment_of_agree`, `raw_of_agree`,
`tag_of_agree`.
-/

namespace Stencil

/-- The marks that begin a tag or a comment, in the order in which they are tried. -/
def Marks.openers (m : Marks) : List (List UInt8) :=
  [m.lineStatement, m.lineComment, m.blockStart, m.variableStart, m.commentStart]

/-- Marks that are told apart: none of those that begin a tag occurs in another or holds a line
feed, and the one that ends a block tag holds no space and cuts no word that ends a raw block. -/
structure Marks.Apart (m : Marks) : Prop where
  openers : ∀ inner ∈ m.openers, ∀ outer ∈ m.openers, inner ≠ [] → inner <:+: outer →
    inner = outer
  feeds : ∀ opener ∈ m.openers, Scan.lineFeed ∉ opener
  solid : ∀ b ∈ m.blockEnd, Scan.isInlineSpace b = false ∧ b ≠ Scan.lineFeed
  endRaw : m.blockEnd <+: Scan.endRawWord → m.blockEnd = [] ∨ m.blockEnd = Scan.endRawWord

/-- No mark that closes a tag or a comment ends with a line feed. -/
def Marks.Closed (m : Marks) : Prop :=
  ∀ mark ∈ [m.blockEnd, m.variableEnd, m.commentEnd], mark.getLast? ≠ some Scan.lineFeed

/-- Marks with which what comes before an edit is read as it was: they are told apart, and the one
that ends a variable tag does not reach over two tokens and the byte after them. -/
structure Marks.Steady (m : Marks) : Prop where
  apart : m.Apart
  closed : m.Closed
  short : m.variableEnd.length ≤ 3

/-- The word that ends a raw block, byte by byte. -/
theorem Scan.endRawWord_eq : endRawWord = [101, 110, 100, 114, 97, 119] := by
  rw [endRawWord, Text.bytes_eq]
  rfl

namespace Delimiters

/-- A text without a character of one byte does not have that byte. -/
theorem not_mem_bytes {text : String} {c : Char} {b : UInt8}
    (single : String.utf8EncodeChar c = [b]) (plain : c ∉ text.toList) :
    b ∉ Text.bytes text := by
  intro member
  obtain ⟨before, more, split⟩ := List.append_of_mem member
  have spelled : [b] = [c].flatMap String.utf8EncodeChar := by
    rw [List.flatMap_singleton, single]
  rw [Text.bytes_eq, List.append_cons, spelled, List.append_assoc] at split
  have occurs := Text.infix_of_bytes_infix split
  exact plain (occurs.subset (List.mem_singleton.2 rfl))

/-- A text without a line feed has none among its bytes. -/
theorem lineFeed_not_mem_bytes {text : String} (plain : '\n' ∉ text.toList) :
    Scan.lineFeed ∉ Text.bytes text := not_mem_bytes (by decide) plain

/-- The settings whose marks begin a tag or a comment. -/
def Field.openers : List Field :=
  [.lineStatement, .lineComment, .blockStart, .variableStart, .commentStart]

/-- In a usable dialect no mark that begins a tag occurs in another. -/
theorem eq_of_infix_openers {d : Delimiters} (valid : d.isValid = true) {inner outer : List UInt8}
    (one : inner ∈ d.marks.openers) (other : outer ∈ d.marks.openers) (some : inner ≠ [])
    (occurs : inner <:+: outer) : inner = outer := by
  have fields : d.marks.openers = Field.openers.map fun field => Text.bytes (d.get field) := rfl
  rw [fields] at one other
  obtain ⟨f, -, rfl⟩ := List.mem_map.1 one
  obtain ⟨g, -, rfl⟩ := List.mem_map.1 other
  by_cases same : f = g
  · rw [same]
  · have text : d.get f ≠ "" := fun empty => some (Text.bytes_eq_nil_iff.2 empty)
    exact absurd occurs (not_infix_of_isValid valid (Ne.symm same) text)

/-- The stock dialect with line prefixes of its own. -/
def stock (lineStatement lineComment : String) : Delimiters := { lineStatement, lineComment }

/-- A usable dialect with the stock delimiters and prefixes within a line has steady marks. -/
theorem marks_stock {lineStatement lineComment : String}
    (valid : (stock lineStatement lineComment).isValid = true)
    (statement : '\n' ∉ lineStatement.toList) (comment : '\n' ∉ lineComment.toList) :
    (stock lineStatement lineComment).marks.Steady := by
  have blockEnd : (stock lineStatement lineComment).marks.blockEnd = [37, 125] := by
    change Text.bytes "%\x7d" = _
    rw [Text.bytes_eq]
    rfl
  have variableEnd : (stock lineStatement lineComment).marks.variableEnd = [125, 125] := by
    change Text.bytes "\x7d\x7d" = _
    rw [Text.bytes_eq]
    rfl
  have commentEnd : (stock lineStatement lineComment).marks.commentEnd = [35, 125] := by
    change Text.bytes "#\x7d" = _
    rw [Text.bytes_eq]
    rfl
  refine ⟨⟨fun _ one _ other => eq_of_infix_openers valid one other, ?_, ?_, ?_⟩, ?_, ?_⟩
  · have blocks : '\n' ∉ "\x7b%".toList := by decide
    have values : '\n' ∉ "\x7b\x7b".toList := by decide
    have remarks : '\n' ∉ "\x7b#".toList := by decide
    simp only [Marks.openers, List.forall_mem_cons]
    exact ⟨lineFeed_not_mem_bytes statement, lineFeed_not_mem_bytes comment,
      lineFeed_not_mem_bytes blocks, lineFeed_not_mem_bytes values,
      lineFeed_not_mem_bytes remarks, nofun⟩
  · rw [blockEnd]
    simp only [List.forall_mem_cons]
    exact ⟨⟨rfl, by decide⟩, ⟨rfl, by decide⟩, nofun⟩
  · rw [blockEnd, Scan.endRawWord_eq]
    decide
  · rw [Marks.Closed, blockEnd, variableEnd, commentEnd]
    decide
  · rw [variableEnd]
    decide

end Delimiters

namespace Scan

variable {m : Marks} {size : Nat} {left right : List UInt8}

/-! ### Text between tags -/

/-- A mark that leads some bytes holds a mark that leads them further on, within its length. -/
theorem infix_of_leads {outer inner rest : List UInt8} {place : Nat}
    (leading : leads outer rest = true) (further : leads inner (rest.drop place) = true)
    (within : place + inner.length ≤ outer.length) : inner <:+: outer := by
  simp only [leads, Bool.and_eq_true, List.isPrefixOf_iff_prefix] at leading further
  obtain ⟨-, tail, rfl⟩ := leading
  obtain ⟨-, later⟩ := further
  rw [List.drop_append_of_le_length (by omega)] at later
  have inside : inner <+: outer.drop place := by
    refine List.prefix_of_prefix_length_le later (List.prefix_append _ _) ?_
    rw [List.length_drop]
    omega
  exact inside.isInfix.trans (List.drop_suffix place outer).isInfix

/-- Text stops at a place: at a line feed, or at a mark that begins a tag and lies within so many
bytes. -/
def Bounded (m : Marks) (rest : List UInt8) (place size : Nat) : Prop :=
  atLineFeed (rest.drop place) = true ∨
    ∃ opener ∈ m.openers, leads opener (rest.drop place) = true ∧ place + opener.length ≤ size

/-- Up to a place where text stops a mark leads both or none of two rests that agree beyond what
stops it, for no mark goes beyond that. -/
theorem leads_opener_of_agree (apart : m.Apart) (agree : Agree size left right) {start place : Nat}
    (inside : place < size) (bounded : Bounded m left place size) (before : start ≤ place)
    {opener : List UInt8} (member : opener ∈ m.openers) :
    leads opener (right.drop start) = leads opener (left.drop start) := by
  by_cases short : start + opener.length ≤ size
  · exact leads_of_agree (agree.drop start) (by omega)
  -- A longer mark would hold what stops the text.
  have none (rest : List UInt8) (same : Agree size left rest) :
      leads opener (rest.drop start) = false := by
    rw [Bool.eq_false_iff]
    intro leading
    rcases bounded with feed | ⟨other, listed, stops, ends⟩
    · rw [← atLineFeed_of_agree (same.drop place) (by omega), atLineFeed, decide_eq_true_iff,
        List.head?_drop] at feed
      simp only [leads, Bool.and_eq_true, List.isPrefixOf_iff_prefix] at leading
      obtain ⟨-, tail, spelled⟩ := leading
      have there := congrArg (fun bytes => bytes[place - start]?) spelled
      simp only [List.getElem?_drop, Nat.add_sub_cancel' before] at there
      rw [feed, List.getElem?_append_left (by omega)] at there
      exact apart.feeds opener member (List.mem_of_getElem? there)
    · rw [← leads_of_agree (same.drop place) (by omega)] at stops
      have further : leads other ((rest.drop start).drop (place - start)) = true := by
        rw [List.drop_drop, Nat.add_sub_cancel' before]
        exact stops
      have solid := leads_length stops
      have equal := apart.openers other listed opener member
        (List.ne_nil_of_length_pos solid.1) (infix_of_leads leading further (by omega))
      rw [equal] at ends
      omega
  rw [none right agree, none left rfl]

/-- A token between tags is a line feed or a mark that begins a tag, or it is text up to one. -/
theorem template_cases (m : Marks) (lineStart : Bool) (rest : List UInt8) :
    (template m lineStart rest).kind ≠ .text ∧
        Bounded m rest 0 (template m lineStart rest).width ∨
      template m lineStart rest =
          ⟨.text, run (fun r => atLineFeed r || atStart m r) rest, .template, false⟩ ∧
        (atLineFeed rest || atStart m rest) = false := by
  have begins {opener : List UInt8} (listed : opener ∈ m.openers)
      (leading : leads opener rest = true) : Bounded m rest 0 opener.length :=
    .inr ⟨opener, listed, leading, Nat.le_of_eq (Nat.zero_add _)⟩
  unfold template
  split
  next line =>
    exact .inl ⟨nofun, begins (by simp [Marks.openers]) (Bool.and_eq_true_iff.1 line).2⟩
  split
  next line =>
    exact .inl ⟨nofun, begins (by simp [Marks.openers]) (Bool.and_eq_true_iff.1 line).2⟩
  split
  next leading => exact .inl ⟨nofun, begins (by simp [Marks.openers]) leading⟩
  next noBlock =>
    split
    next leading => exact .inl ⟨nofun, begins (by simp [Marks.openers]) leading⟩
    next noValue =>
      split
      next leading => exact .inl ⟨nofun, begins (by simp [Marks.openers]) leading⟩
      next noComment =>
        split
        next feed => exact .inl ⟨nofun, .inl feed⟩
        next noFeed =>
          refine .inr ⟨rfl, ?_⟩
          simp only [atStart, Bool.or_eq_false_iff]
          exact ⟨eq_false_of_ne_true noFeed, ⟨eq_false_of_ne_true noBlock,
            eq_false_of_ne_true noValue⟩, eq_false_of_ne_true noComment⟩

/-- What stops text within some bytes stops it within more. -/
theorem Bounded.mono {rest : List UInt8} {place small large : Nat}
    (bounded : Bounded m rest place small) (more : small ≤ large) : Bounded m rest place large := by
  rcases bounded with feed | ⟨opener, listed, leading, within⟩
  · exact .inl feed
  · exact .inr ⟨opener, listed, leading, Nat.le_trans within more⟩

/-- What stops text where some bytes are dropped stops it as far on. -/
theorem Bounded.of_drop {rest : List UInt8} {place size : Nat}
    (bounded : Bounded m (rest.drop place) 0 size) : Bounded m rest place (place + size) := by
  rcases bounded with feed | ⟨opener, listed, leading, within⟩
  · exact .inl (List.drop_zero ▸ feed)
  · exact .inr ⟨opener, listed, List.drop_zero ▸ leading, by omega⟩

/-- A token between tags is the same in rests that agree beyond a place where text stops. -/
theorem template_of_agree (apart : m.Apart) (lineStart : Bool) (agree : Agree size left right)
    {place : Nat} (inside : place < size) (bounded : Bounded m left place size)
    (upTo : (template m lineStart left).kind = .text →
      (template m lineStart left).width ≤ place) :
    template m lineStart right = template m lineStart left := by
  have same (start : Nat) (before : start ≤ place) (opener : List UInt8)
      (member : opener ∈ m.openers) :
      leads opener (right.drop start) = leads opener (left.drop start) :=
    leads_opener_of_agree apart agree inside bounded before member
  have here (opener : List UInt8) (member : opener ∈ m.openers) :
      leads opener right = leads opener left := same 0 (Nat.zero_le _) opener member
  unfold template at upTo ⊢
  rw [here m.lineStatement (by simp [Marks.openers]), here m.lineComment (by simp [Marks.openers]),
    here m.blockStart (by simp [Marks.openers]), here m.variableStart (by simp [Marks.openers]),
    here m.commentStart (by simp [Marks.openers]), atLineFeed_of_agree agree (by omega)]
  refine ite_congr rfl (fun _ => rfl) fun noLine => ite_congr rfl (fun _ => rfl) fun noRemark =>
    ite_congr rfl (fun _ => rfl) fun noBlock => ite_congr rfl (fun _ => rfl) fun noValue =>
    ite_congr rfl (fun _ => rfl) fun noComment => ite_congr rfl (fun _ => rfl) fun noFeed => ?_
  rw [if_neg noLine, if_neg noRemark, if_neg noBlock, if_neg noValue, if_neg noComment,
    if_neg noFeed] at upTo
  have long := upTo rfl
  dsimp only at long
  rw [run_of_agree agree (by omega) fun start before => ?_]
  rw [atLineFeed_of_agree (agree.drop start) (by omega), atStart, atStart,
    same start (by omega) m.blockStart (by simp [Marks.openers]),
    same start (by omega) m.variableStart (by simp [Marks.openers]),
    same start (by omega) m.commentStart (by simp [Marks.openers])]

/-! ### Comments -/

/-- A token of a comment is the same if what ends the comment is. -/
theorem comment_of_agree (agree : Agree size left right)
    (short : run (leads m.commentEnd) left + m.commentEnd.length < size) :
    comment m right = comment m left := by
  unfold comment
  rw [leads_of_agree agree (by omega)]
  apply ite_congr rfl (fun _ => rfl)
  intro within
  rw [run_of_agree agree (by omega) fun place before => ?_]
  exact leads_of_agree (agree.drop place) (by omega)

/-- A token of a line comment is the same if the byte beyond the one after it is. -/
theorem lineComment_of_agree (agree : Agree size left right)
    (short : (lineComment left).width + 1 < size) : lineComment right = lineComment left := by
  unfold lineComment at short ⊢
  rw [atLineFeed_of_agree agree (by omega)]
  apply ite_congr rfl (fun _ => rfl)
  intro within
  rw [if_neg within] at short
  dsimp only at short
  rw [run_of_agree agree (by omega) fun place before => ?_]
  exact atLineFeed_of_agree (agree.drop place) (by omega)

/-! ### Raw content -/

/-- The bytes up to the end of the word in a tag that ends a raw block. -/
def endRawWidth (m : Marks) (rest : List UInt8) : Nat :=
  m.blockStart.length + spanOf (fun b => isInlineSpace b || b = lineFeed)
    (rest.drop m.blockStart.length) + endRawWord.length

/-- What follows a span is the rest without it. -/
theorem dropWhile_eq_drop (inClass : UInt8 → Bool) (rest : List UInt8) :
    rest.dropWhile inClass = rest.drop (spanOf inClass rest) := by
  have split := List.takeWhile_append_dropWhile (p := inClass) (l := rest)
  have rest' := congrArg (List.drop (spanOf inClass rest)) split
  rw [spanOf, List.drop_left] at rest'
  exact rest'

/-- A tag that ends a raw block is told by the bytes up to the one after its word. -/
theorem atEndRaw_of_agree (agree : Agree size left right) (ends : atEndRaw m left = true)
    (short : endRawWidth m left < size) :
    atEndRaw m right = true ∧ endRawWidth m right = endRawWidth m left := by
  have inner := agree.drop m.blockStart.length
  unfold endRawWidth at short ⊢
  have span := spanOf_of_agree (fun b => isInlineSpace b || b = lineFeed) inner (by omega)
  have word := inner.drop (spanOf (fun b => isInlineSpace b || b = lineFeed)
    (left.drop m.blockStart.length))
  rw [span]
  refine ⟨?_, rfl⟩
  unfold atEndRaw at ends ⊢
  dsimp only at ends ⊢
  rw [dropWhile_eq_drop] at ends ⊢
  rw [span, leads_of_agree agree (by omega), isPrefixOf_of_agree word (by omega),
    ← (word.drop endRawWord.length).head? (by omega)]
  exact ends

/-- The parts of a tag that ends a raw block. -/
theorem spelled_of_atEndRaw {rest : List UInt8} (ends : atEndRaw m rest = true) :
    ∃ spaces tail, rest = m.blockStart ++ (spaces ++ (endRawWord ++ tail)) ∧
      (∀ b ∈ spaces, isInlineSpace b = true ∨ b = lineFeed) ∧
      endRawWidth m rest = m.blockStart.length + spaces.length + 6 ∧
      tail.head?.any inWord = false := by
  simp only [atEndRaw, leads, Bool.and_eq_true, List.isPrefixOf_iff_prefix,
    Bool.not_eq_true'] at ends
  obtain ⟨⟨-, opening, rfl⟩, ⟨tail, word⟩, closed⟩ := ends
  rw [List.drop_left] at word closed
  have split := List.takeWhile_append_dropWhile (p := fun b => isInlineSpace b || b = lineFeed)
    (l := opening)
  rw [← word] at split closed
  refine ⟨_, tail, by rw [split], fun b member => ?_, ?_, ?_⟩
  · have blank := List.all_eq_true.1 List.all_takeWhile b member
    simpa using blank
  · rw [endRawWidth, List.drop_left, endRawWord_eq]
    rfl
  · rw [List.drop_left] at closed
    exact closed

/-- Before the end of a run nothing stops it. -/
theorem not_stop_before_run {stop : List UInt8 → Bool} {rest : List UInt8} {place : Nat}
    (before : place < run stop rest) : stop (rest.drop place) = false := by
  induction rest generalizing place with
  | nil => exact absurd before (Nat.not_lt_zero _)
  | cons first rest ih =>
    rw [run_cons] at before
    by_cases stops : stop (first :: rest) = true
    · rw [if_pos stops] at before
      omega
    · rw [if_neg stops] at before
      cases place with
      | zero => simpa using stops
      | succ place => exact ih (by omega)

/-- A run that may not go on where it starts is empty. -/
theorem run_of_stop {stop : List UInt8 → Bool} {rest : List UInt8} (stops : stop rest = true) :
    run stop rest = 0 := by
  cases rest with
  | nil => rfl
  | cons first rest => rw [run_cons, if_pos stops]

/-- The word of a tag that ends a raw block is not behind that of another one that begins later. -/
theorem endRawWidth_le {rest : List UInt8} {place : Nat} (ends : atEndRaw m rest = true)
    (later : atEndRaw m (rest.drop place) = true) :
    endRawWidth m rest ≤ place + endRawWidth m (rest.drop place) := by
  obtain ⟨spaces, tail, spelled, blank, width, -⟩ := spelled_of_atEndRaw ends
  obtain ⟨spaces', tail', spelled', -, width', -⟩ := spelled_of_atEndRaw later
  rw [width, width']
  apply Nat.le_of_not_lt
  intro long
  -- The word of the other tag would begin in the space of this one.
  have word : rest[place + (m.blockStart.length + spaces'.length)]? = some 101 := by
    rw [← List.getElem?_drop, spelled', ← List.append_assoc, ← List.length_append,
      List.getElem?_append_right (Nat.le_refl _), Nat.sub_self, endRawWord_eq]
    rfl
  rw [spelled, List.getElem?_append_right (by omega),
    List.getElem?_append_left (by omega)] at word
  exact absurd (blank 101 (List.mem_of_getElem? word)) (by decide)

/-- A token of raw content is the same if the whole tag that ends the content is, and one byte
after its word. -/
theorem raw_of_agree (agree : Agree size left right)
    (more : left.drop (raw m left).width ≠ [])
    (short : run (atEndRaw m) left + endRawWidth m (left.drop (run (atEndRaw m) left)) < size) :
    raw m right = raw m left := by
  unfold raw at more ⊢
  by_cases ends : atEndRaw m left = true
  · rw [run_of_stop ends, List.drop_zero, Nat.zero_add] at short
    rw [if_pos ends, if_pos (atEndRaw_of_agree agree ends short).1]
  · rw [if_neg ends] at more
    have closing := (stop_drop_run _ left).resolve_left more
    have there := agree.drop (run (atEndRaw m) left)
    have closed := atEndRaw_of_agree there closing (by omega)
    -- A tag that stood earlier in the other rest would end before this one and so stand here too.
    have earlier (place : Nat) (before : place < run (atEndRaw m) left) :
        atEndRaw m (right.drop place) = atEndRaw m (left.drop place) := by
      rw [not_stop_before_run before, Bool.eq_false_iff]
      intro stands
      have further :
          atEndRaw m ((right.drop place).drop (run (atEndRaw m) left - place)) = true := by
        rw [List.drop_drop, Nat.add_sub_cancel' (Nat.le_of_lt before)]
        exact closed.1
      have within := endRawWidth_le stands further
      rw [List.drop_drop, Nat.add_sub_cancel' (Nat.le_of_lt before), closed.2] at within
      have also := atEndRaw_of_agree (agree.drop place).symm stands (by omega)
      rw [not_stop_before_run before] at also
      exact Bool.false_ne_true also.1
    have start : 0 < run (atEndRaw m) left := by
      refine run_pos (fun empty => ?_) (by simpa using ends)
      rw [empty] at more
      exact more List.drop_nil
    have here := earlier 0 start
    rw [List.drop_zero, List.drop_zero] at here
    rw [here, if_neg ends, if_neg ends, run_of_agree agree (by omega) fun place before => ?_]
    rcases Nat.lt_or_eq_of_le before with earlier' | rfl
    · exact earlier place earlier'
    · rw [closed.1, closing]

/-! ### Tags -/

/-- A token in a tag is the same if the byte beyond the one after it is. -/
theorem tag_of_agree {closes : List UInt8 → Bool} {closing : Scan} {mode : Mode}
    {rawPending : Bool} (agree : Agree size left right) (same : closes right = closes left)
    (short : (if closes left then closing else expression mode rawPending left).width + 1 < size) :
    (if closes right then closing else expression mode rawPending right) =
      if closes left then closing else expression mode rawPending left := by
  rw [same]
  apply ite_congr rfl (fun _ => rfl)
  intro within
  rw [if_neg within] at short
  exact expression_of_agree mode rawPending agree (by omega) fun _ => short

end Scan
end Stencil
