import Stencil.Proofs.Source.Positions
/-!
# Marks under a span

A message is drawn with the line on which a span starts and marks under the span. Columns are
counted on the whole line, but the line is shown without carriage returns at its end, so that a
column can lie beyond what is shown. This is no harm to a span that stays on its line. One that goes
on below is marked up to the end of what is shown, and there is no picture if it starts beyond
(`Text.SplitsEnd`). In all other cases the first mark is under the first character of the span
(`SourceMap.Underlines`).
-/

namespace Stencil
namespace Text

/-- The characters from an offset on that come before the next line feed. -/
def untilFeed (text : String) (offset : Nat) : List Char :=
  (slice text offset text.utf8ByteSize).toList.takeWhile (· ≠ '\n')

/-- A line without carriage returns at its end. -/
def shown (line : List Char) : List Char := line.rdropWhile (· = '\r')

/-- A range begins among the carriage returns before a line feed, behind the first of them, and goes
on over the line feed. -/
def SplitsEnd (text : String) (start stop : Nat) : Prop :=
  ∃ before count after, (slice text 0 start).toList = before ++ ['\r'] ∧
    (slice text start stop).toList = List.replicate count '\r' ++ '\n' :: after

/-! ### Ends of lists -/

section

variable {α : Type} {p : α → Bool} {before last : List α}

/-- A last part that is in a run at the end is dropped with it. -/
theorem rdropWhile_append_of_all (all : ∀ a ∈ last, p a = true) :
    (before ++ last).rdropWhile p = before.rdropWhile p := by
  rw [List.rdropWhile, List.reverse_append,
    List.dropWhile_append_of_pos fun a member => all a (List.mem_reverse.1 member),
    List.rdropWhile]

/-- Dropping at the end of two lists reaches into the first if it drops all of the second and the
last of the first. -/
theorem length_rdropWhile_append_lt_iff :
    ((before ++ last).rdropWhile p).length < before.length ↔
      (∀ a ∈ last, p a = true) ∧ ∃ front a, before = front ++ [a] ∧ p a = true := by
  constructor
  · intro shorter
    have parts := List.rdropWhile_append_rtakeWhile (p := p) (l := before ++ last)
    have dropped : ∀ a ∈ (before ++ last).rtakeWhile p, p a = true :=
      fun a member => List.mem_rtakeWhile_imp member
    generalize (before ++ last).rdropWhile p = kept at shorter parts
    generalize (before ++ last).rtakeWhile p = gone at parts dropped
    obtain ⟨between, rfl, rfl⟩ | ⟨between, rfl, rfl⟩ := List.append_eq_append_iff.1 parts
    · rcases List.eq_nil_or_concat' between with rfl | ⟨front, a, rfl⟩
      · rw [List.append_nil] at shorter
        exact absurd shorter (Nat.lt_irrefl _)
      · refine ⟨fun a member => dropped a (List.mem_append_right _ member), kept ++ front, a,
          (List.append_assoc ..).symm, dropped a ?_⟩
        exact List.mem_append_left _ (List.mem_append_right _ (List.mem_singleton_self a))
    · rw [List.length_append] at shorter
      omega
  · rintro ⟨all, front, a, rfl, drops⟩
    rw [rdropWhile_append_of_all all, List.rdropWhile_concat_pos _ _ _ drops, List.length_append]
    have fewer := (List.rdropWhile_prefix p front).length_le
    exact Nat.lt_succ_of_le fewer

end

/-- What is not dropped at the end stays in its place. -/
theorem shown_getElem? {before rest : List Char} {c : Char} (solid : c ≠ '\r') :
    (shown (before ++ c :: rest))[before.length]? = some c := by
  have inside : ¬(shown (before ++ c :: rest)).length < (before ++ [c]).length := by
    rw [shown, List.append_cons before, length_rdropWhile_append_lt_iff]
    rintro ⟨-, front, a, same, drops⟩
    obtain rfl := (List.append_singleton_inj.1 same).2
    exact solid (of_decide_eq_true drops)
  rw [List.length_append, List.length_singleton, Nat.not_lt] at inside
  obtain ⟨gone, parts⟩ : shown (before ++ c :: rest) <+: before ++ c :: rest :=
    List.rdropWhile_prefix _ _
  calc (shown (before ++ c :: rest))[before.length]?
    _ = (shown (before ++ c :: rest) ++ gone)[before.length]? :=
      (List.getElem?_append_left inside).symm
    _ = (before ++ c :: rest)[before.length]? := by rw [parts]
    _ = some c := by
      rw [List.getElem?_append_right (Nat.le_refl _), Nat.sub_self]
      rfl

/-- Dropping characters at the end of a text drops them from its list of characters. -/
theorem toList_dropEndWhile (text : String) (P : Char → Prop) [DecidablePred P] :
    (text.dropEndWhile P).toString.toList = text.toList.rdropWhile (fun c => decide (P c)) := by
  have parts : (text.toSlice.dropEndWhile P).copy ++ (text.toSlice.takeEndWhile P).copy =
      text.toSlice.copy := String.Slice.dropEndWhile_append_takeEndWhile
  have dropped : (text.toSlice.takeEndWhile P).revAll P = true := String.Slice.revAll_takeEndWhile
  have kept : (text.toSlice.dropEndWhile P).endsWith P = false := String.Slice.endsWith_dropEndWhile
  rw [String.Slice.revAll_prop_eq, List.all_eq_true] at dropped
  rw [String.Slice.endsWith_prop_eq_getLast?] at kept
  rw [String.copy_toSlice] at parts
  change (text.toSlice.dropEndWhile P).copy.toList = _
  generalize (text.toSlice.dropEndWhile P).copy = left at parts kept
  rw [← parts, String.toList_append, rdropWhile_append_of_all dropped, eq_comm,
    List.rdropWhile_eq_self_iff]
  intro some drops
  rw [List.getLast?_eq_some_getLast some, Option.any_some] at kept
  rw [kept] at drops
  contradiction

/-! ### The rest of a line -/

variable {text : String}

/-- What stands between two boundaries, if no line feed does and one follows or nothing, is what
stands before the next line feed. -/
theorem untilFeed_eq {first second : Nat} (order : first ≤ second)
    (begins : isBoundary text first = true) (ends : isBoundary text second = true)
    (same : feedsBefore text first = feedsBefore text second)
    (stops : ∀ b, (bytes text)[second]? = some b → b = Scan.lineFeed) :
    untilFeed text first = (slice text first second).toList := by
  have size := le_size_of_isBoundary ends
  have whole : isBoundary text text.utf8ByteSize = true :=
    isBoundary_iff.2 String.Pos.Raw.isValid_rawEndPos
  have plain := plain_of_feedsBefore_eq order begins ends same
  rw [untilFeed, ← slice_append order size (isBoundary_iff.1 begins) (isBoundary_iff.1 ends)
    (isBoundary_iff.1 whole), String.toList_append,
    List.takeWhile_append_of_pos fun c member => decide_eq_true (plain c member)]
  cases next : (bytes text)[second]? with
  | none =>
    rw [List.getElem?_eq_none_iff, length_bytes] at next
    rw [Nat.le_antisymm size next, slice_self]
    exact List.append_nil _
  | some b =>
    rw [stops b next] at next
    obtain ⟨-, after, alone⟩ := around_feed next
    rw [← slice_append (Nat.le_succ second) (le_size_of_isBoundary after) (isBoundary_iff.1 ends)
      (isBoundary_iff.1 after) (isBoundary_iff.1 whole), alone, String.toList_append,
      show "\n".toList = ['\n'] from rfl, List.singleton_append,
      List.takeWhile_cons_of_neg (by decide), List.append_nil]

end Text

namespace SourceMap

/-- The line of a boundary stops at the next line feed, or with the source. -/
theorem lineStop_spec (source : String) (offset : Nat) (inside : offset ≤ source.utf8ByteSize) :
    ∃ stop, (match (ofSource source).lineStarts[Text.feedsBefore source offset + 1]? with
        | some next => next - 1
        | none => source.utf8ByteSize) = stop ∧
      offset ≤ stop ∧ Text.feedsBefore source stop = Text.feedsBefore source offset ∧
      Text.isBoundary source stop = true ∧
      ∀ b, (Text.bytes source)[stop]? = some b → b = Scan.lineFeed := by
  have indexes := indexes_ofSource source
  cases found : (ofSource source).lineStarts[Text.feedsBefore source offset + 1]? with
  | none =>
    rw [Array.getElem?_eq_none_iff] at found
    have most := indexes.listed source.utf8ByteSize
    refine ⟨_, rfl, inside, ?_, Text.isBoundary_iff.2 String.Pos.Raw.isValid_rawEndPos, ?_⟩
    · have more := Text.feedsBefore_mono source inside
      change Text.feedsBefore source source.utf8ByteSize < _ at most
      change Text.feedsBefore source source.utf8ByteSize = _
      omega
    · intro b beyond
      rw [List.getElem?_eq_none (Nat.le_of_eq (Text.length_bytes source))] at beyond
      contradiction
  | some next =>
    have listed := (Array.getElem?_eq_some_iff.1 found).1
    have next_le_iff (other : Nat) : next ≤ other ↔
        Text.feedsBefore source offset + 1 ≤ Text.feedsBefore source other := by
      have starts := indexes.le_iff _ listed other
      rwa [found, Option.getD_some] at starts
    have beyond := (next_le_iff offset).not.2 (Nat.not_succ_le_self _)
    obtain ⟨stop, rfl⟩ : ∃ stop, next = stop + 1 := ⟨next - 1, by omega⟩
    have order : offset ≤ stop := by omega
    have less := (next_le_iff stop).not.1 (Nat.not_succ_le_self stop)
    have more := (next_le_iff (stop + 1)).1 (Nat.le_refl _)
    have same : Text.feedsBefore source stop = Text.feedsBefore source offset := by
      have before := Text.feedsBefore_mono source order
      omega
    have rises : Text.feedsBefore source stop < Text.feedsBefore source (stop + 1) := by omega
    have feed := Text.feed_of_feedsBefore_lt rises
    refine ⟨stop, rfl, order, same, (Text.around_feed feed).1, fun b here => ?_⟩
    exact Option.some.inj (here.symm.trans feed)

/-- The line of a boundary is shown with what stands before and behind the boundary. -/
theorem line?_counted {source : String} {offset : Nat}
    (boundary : Text.isBoundary source offset = true) :
    ∃ line, (ofSource source).line? (Position.counted source offset).line = some line ∧
      line.toList = Text.shown (Text.sinceFeed source offset ++ Text.untilFeed source offset) := by
  obtain ⟨start, begins, before, same, startValid, nothing⟩ := lineStart_spec source offset
  obtain ⟨stop, ends, after, also, stopValid, stops⟩ :=
    lineStop_spec source offset (Text.le_size_of_isBoundary boundary)
  have since := Text.sinceFeed_append before startValid boundary same
  rw [nothing, List.nil_append] at since
  have listed : Text.feedsBefore source offset < (ofSource source).lineStarts.size :=
    (indexes_ofSource source).listed offset
  have found : (ofSource source).lineStarts[Text.feedsBefore source offset]? = some start := by
    rw [Array.getElem?_eq_getElem listed] at begins ⊢
    exact congrArg some begins
  refine ⟨((Text.slice source start stop).dropEndWhile (· = '\r')).toString, ?_, ?_⟩
  · rw [Position.counted, Nat.add_comm 1, line?]
    simp only [found, Option.map_some, Option.some_inj]
    rw [← ends]
    rfl
  · rw [Text.toList_dropEndWhile, Text.untilFeed_eq after boundary stopValid also.symm stops, since,
      ← String.toList_append, Text.slice_append before after (Text.isBoundary_iff.1 startValid)
        (Text.isBoundary_iff.1 boundary) (Text.isBoundary_iff.1 stopValid)]
    rfl

/-! ### Spans over line feeds -/

variable {source : String} {start stop : Nat}

/-- A range of boundaries with a line feed in it begins with the rest of its first line. -/
theorem slice_of_feeds (begins : Text.isBoundary source start = true)
    (ends : Text.isBoundary source stop = true)
    (apart : Text.feedsBefore source start < Text.feedsBefore source stop) :
    ∃ after, (Text.slice source start stop).toList =
      Text.untilFeed source start ++ '\n' :: after := by
  obtain ⟨feed, -, order, same, valid, stops⟩ :=
    lineStop_spec source start (Text.le_size_of_isBoundary begins)
  have before : feed < stop := by
    by_contra beyond
    have more := Text.feedsBefore_mono source (Nat.not_lt.1 beyond)
    omega
  have size := Text.le_size_of_isBoundary ends
  have inside : feed < (Text.bytes source).length := by
    rw [Text.length_bytes]
    omega
  have here : (Text.bytes source)[feed]? = some Scan.lineFeed := by
    rw [List.getElem?_eq_getElem inside, stops _ (List.getElem?_eq_getElem inside)]
  obtain ⟨-, after, alone⟩ := Text.around_feed here
  refine ⟨(Text.slice source (feed + 1) stop).toList, ?_⟩
  rw [Text.untilFeed_eq order begins valid same.symm stops,
    ← Text.slice_append order (Nat.le_of_lt before) (Text.isBoundary_iff.1 begins)
      (Text.isBoundary_iff.1 valid) (Text.isBoundary_iff.1 ends),
    ← Text.slice_append (Nat.le_succ feed) before (Text.isBoundary_iff.1 valid)
      (Text.isBoundary_iff.1 after) (Text.isBoundary_iff.1 ends), alone, String.toList_append,
    String.toList_append]
  rfl

/-- A span splits the end of its first line exactly if it goes on below and starts beyond what is
shown of that line. -/
theorem splitsEnd_iff (order : start ≤ stop) (begins : Text.isBoundary source start = true)
    (ends : Text.isBoundary source stop = true) :
    Text.SplitsEnd source start stop ↔
      Text.feedsBefore source start ≠ Text.feedsBefore source stop ∧
        (Text.shown (Text.sinceFeed source start ++ Text.untilFeed source start)).length <
          (Text.sinceFeed source start).length := by
  rw [Text.shown, Text.length_rdropWhile_append_lt_iff]
  constructor
  · rintro ⟨before, count, after, ahead, within⟩
    refine ⟨fun same => ?_, ?_, ?_⟩
    · refine Text.plain_of_feedsBefore_eq order begins ends same '\n' ?_ rfl
      rw [within]
      exact List.mem_append_right _ List.mem_cons_self
    · have whole : Text.isBoundary source source.utf8ByteSize = true :=
        Text.isBoundary_iff.2 String.Pos.Raw.isValid_rawEndPos
      have rest : Text.untilFeed source start = List.replicate count '\r' := by
        rw [Text.untilFeed, ← Text.slice_append order (Text.le_size_of_isBoundary ends)
          (Text.isBoundary_iff.1 begins) (Text.isBoundary_iff.1 ends) (Text.isBoundary_iff.1 whole),
          String.toList_append, within, List.append_assoc, List.takeWhile_append_of_pos,
          List.cons_append, List.takeWhile_cons_of_neg (by decide), List.append_nil]
        intro c member
        rw [List.eq_of_mem_replicate member]
        rfl
      intro c member
      rw [rest] at member
      rw [List.eq_of_mem_replicate member]
      rfl
    · rw [Text.sinceFeed, ahead, List.rtakeWhile_concat_pos _ _ _ (by decide)]
      exact ⟨_, _, rfl, rfl⟩
  · rintro ⟨apart, all, front, c, since, returns⟩
    obtain rfl : c = '\r' := of_decide_eq_true returns
    have less := Nat.lt_of_le_of_ne (Text.feedsBefore_mono source order) apart
    obtain ⟨after, within⟩ := slice_of_feeds begins ends less
    obtain ⟨earlier, ahead⟩ : Text.sinceFeed source start <:+ (Text.slice source 0 start).toList :=
      List.rtakeWhile_suffix _ _
    refine ⟨earlier ++ front, (Text.untilFeed source start).length, after, ?_, ?_⟩
    · rw [← ahead, since, List.append_assoc]
    · rw [within, ← List.eq_replicate_of_mem fun c member => of_decide_eq_true (all c member)]

/-! ### The picture -/

/-- A row with the line on which a span starts, and so many marks in the row below. -/
structure Underlines (source : String) (span : Span) (row marks : String) (width : Nat) :
    Prop where
  row_eq : row.toList = (toString span.start.line).toList ++ [' ', '|', ' '] ++
    Text.shown (Text.sinceFeed source span.start.offset ++ Text.untilFeed source span.start.offset)
  /-- The marks begin after as many blanks as characters come before the span on its line. -/
  marks_eq : marks.toList =
    List.replicate (toString span.start.line).length ' ' ++ [' ', '|', ' '] ++
      List.replicate (Text.sinceFeed source span.start.offset).length ' ' ++
      List.replicate width '^'
  marked : 0 < width
  /-- The first mark is under the character at which the span starts, where that is shown. -/
  under : ∀ c, (Text.untilFeed source span.start.offset).head? = some c → c ≠ '\r' →
    row.toList[marks.toList.idxOf '^']? = some c
  /-- A span on one line has a mark for each of its characters. -/
  within : span.start.line = span.stop.line →
    width = max 1 (Text.slice source span.start.offset span.stop.offset).toList.length
  /-- One that goes on below has a mark for each character that is shown from its start on. -/
  below : span.start.line ≠ span.stop.line → width = max 1
    ((Text.shown (Text.sinceFeed source span.start.offset ++
      Text.untilFeed source span.start.offset)).length -
      (Text.sinceFeed source span.start.offset).length)

/-- The marks under a line that shows what it does: none if the span splits the end of its line. -/
theorem underlineWidth?_counted {line : String} (order : start ≤ stop)
    (begins : Text.isBoundary source start = true) (ends : Text.isBoundary source stop = true)
    (shows : line.toList =
      Text.shown (Text.sinceFeed source start ++ Text.untilFeed source start)) :
    (Text.SplitsEnd source start stop ∧
      underlineWidth? line ⟨.counted source start, .counted source stop⟩ = none) ∨
    (¬Text.SplitsEnd source start stop ∧
      underlineWidth? line ⟨.counted source start, .counted source stop⟩ = some (max 1
        (if Text.feedsBefore source start = Text.feedsBefore source stop then
          (Text.slice source start stop).toList.length
        else line.toList.length - (Text.sinceFeed source start).length))) := by
  have splits := splitsEnd_iff order begins ends
  rw [← shows] at splits
  rw [underlineWidth?]
  simp only [Position.counted, Nat.add_left_cancel_iff]
  by_cases same : Text.feedsBefore source start = Text.feedsBefore source stop
  · have further := congrArg List.length (Text.sinceFeed_append order begins ends same)
    rw [List.length_append] at further
    refine .inr ⟨fun split => (splits.1 split).1 same, ?_⟩
    rw [if_pos same, if_pos same, if_neg (by omega)]
    congr 2
    omega
  · rw [if_neg same, if_neg same, ← String.length_toList]
    by_cases beyond : line.toList.length < (Text.sinceFeed source start).length
    · exact .inl ⟨splits.2 ⟨same, beyond⟩, if_pos (by omega)⟩
    · refine .inr ⟨fun split => beyond (splits.1 split).2, ?_⟩
      rw [if_neg (by omega)]
      congr 2
      omega

/-- The first mark is under the character that follows as many characters as there are blanks before
it, both behind a margin of one width. -/
theorem getElem?_idxOf_mark {digits before rest : List Char} {c : Char} {width : Nat}
    (solid : c ≠ '\r') (marked : 0 < width) :
    (digits ++ [' ', '|', ' '] ++ Text.shown (before ++ c :: rest))[
      (List.replicate digits.length ' ' ++ [' ', '|', ' '] ++ List.replicate before.length ' ' ++
        List.replicate width '^').idxOf '^']? = some c := by
  obtain ⟨more, rfl⟩ := Nat.exists_eq_succ_of_ne_zero (Nat.ne_of_gt marked)
  have free : '^' ∉ List.replicate digits.length ' ' ++ [' ', '|', ' '] ++
      List.replicate before.length ' ' := by simp
  have place : (List.replicate digits.length ' ' ++ [' ', '|', ' '] ++
      List.replicate before.length ' ').length =
      (digits ++ [' ', '|', ' ']).length + before.length := by
    simp only [List.length_append, List.length_replicate]
  rw [List.idxOf_append_of_notMem free, List.replicate_succ, List.idxOf_cons_self, Nat.add_zero,
    place, List.getElem?_append_right (Nat.le_add_right _ _), Nat.add_sub_cancel_left]
  exact Text.shown_getElem? solid

/-- Marks are drawn under the line that a span starts on, from its start on. -/
theorem underlines_drawn {line : String} {width : Nat}
    (shows : line.toList =
      Text.shown (Text.sinceFeed source start ++ Text.untilFeed source start))
    (spread : width = max 1
      (if Text.feedsBefore source start = Text.feedsBefore source stop then
        (Text.slice source start stop).toList.length
      else line.toList.length - (Text.sinceFeed source start).length)) :
    Underlines source ⟨.counted source start, .counted source stop⟩
      (toString (Position.counted source start).line ++ " | " ++ line)
      (copies (toString (Position.counted source start).line).length ' ' ++ " | " ++
        copies (Text.sinceFeed source start).length ' ' ++ copies width '^') width := by
  have bar : " | ".toList = [' ', '|', ' '] := rfl
  have row : (toString (Position.counted source start).line ++ " | " ++ line).toList =
      (toString (Position.counted source start).line).toList ++ [' ', '|', ' '] ++
        Text.shown (Text.sinceFeed source start ++ Text.untilFeed source start) := by
    rw [String.toList_append, String.toList_append, shows, bar]
  have marks : (copies (toString (Position.counted source start).line).length ' ' ++ " | " ++
      copies (Text.sinceFeed source start).length ' ' ++ copies width '^').toList =
      List.replicate (toString (Position.counted source start).line).length ' ' ++
        [' ', '|', ' '] ++ List.replicate (Text.sinceFeed source start).length ' ' ++
        List.replicate width '^' := by
    simp only [String.toList_append, toList_copies, bar]
  have marked : 0 < width := spread ▸ Nat.le_max_left 1 _
  have line_eq_iff : (Position.counted source start).line = (Position.counted source stop).line ↔
      Text.feedsBefore source start = Text.feedsBefore source stop := Nat.add_left_cancel_iff
  refine ⟨row, marks, marked, fun c first solid => ?_, fun same => ?_, fun apart => ?_⟩
  · obtain ⟨rest, further⟩ := List.head?_eq_some_iff.1 first
    have further : Text.untilFeed source start = c :: rest := further
    rw [row, marks, further, ← String.length_toList]
    exact getElem?_idxOf_mark solid marked
  · rw [if_pos (line_eq_iff.1 same)] at spread
    exact spread
  · rw [if_neg (line_eq_iff.not.1 apart), shows] at spread
    exact spread

/-- There is no picture of a range that splits the end of its first line, and one with marks of any
other. -/
theorem render?_counted (file message : String) (order : start ≤ stop)
    (begins : Text.isBoundary source start = true) (ends : Text.isBoundary source stop = true) :
    let span : Span := ⟨.counted source start, .counted source stop⟩
    (Text.SplitsEnd source start stop ∧ (ofSource source).render? file span message = none) ∨
    (¬Text.SplitsEnd source start stop ∧
      ∃ row marks width, Underlines source span row marks width ∧
        (ofSource source).render? file span message = some ("error: " ++ message ++ "\n  --> " ++
          file ++ ":" ++ span.start.label ++ "\n" ++
          (copies (toString span.start.line).length ' ' ++ " |\n" ++ row ++ "\n" ++ marks ++
            "\n"))) := by
  obtain ⟨line, found, shows⟩ := line?_counted begins
  have column : (Position.counted source start).column =
      (Text.sinceFeed source start).length + 1 := Nat.add_comm 1 _
  dsimp only
  rw [render?, found, column]
  dsimp only
  rcases underlineWidth?_counted order begins ends shows with ⟨splits, none⟩ | ⟨whole, some⟩
  · rw [none]
    exact .inl ⟨splits, rfl⟩
  · rw [some]
    refine .inr ⟨whole, _, _, _, underlines_drawn shows rfl, ?_⟩
    simp only [String.append_assoc]

/-- Where a span begins and ends: counted, if 32 bits can count up to its end. -/
theorem span_eq_counted (source : String) (first second : Nat)
    (small : ((ofSource source).span first second).stop.offset + 1 < 2 ^ 32) :
    ∃ start stop, (ofSource source).span first second =
        ⟨.counted source start, .counted source stop⟩ ∧ start ≤ stop ∧
      Text.isBoundary source start = true ∧ Text.isBoundary source stop = true := by
  obtain ⟨begins, ends, order⟩ := offsets_span source first second
  rw [span, positionAt_eq, positionAt_eq] at begins ends order small ⊢
  generalize Text.boundaryBefore source (min first source.utf8ByteSize) = start at *
  generalize Text.boundaryBefore source (min (max second first) source.utf8ByteSize) = stop at *
  change start ≤ stop at order
  change stop + 1 < 2 ^ 32 at small
  refine ⟨start, stop, ?_, order, begins, ends⟩
  have exactStart : (Position.counted source start).narrowed = .counted source start :=
    Position.narrowed_counted begins (by omega)
  have exactStop : (Position.counted source stop).narrowed = .counted source stop :=
    Position.narrowed_counted ends small
  rw [exactStart, exactStop]

/-- There is a picture for every span but those that split the end of their first line, as long as
32 bits can count up to the end of the span. A picture shows the line on which the span starts and
has marks under it, one at least, of which the first is under the first character of the span. -/
theorem render?_underlines (source file message : String) (first second : Nat)
    (small : ((ofSource source).span first second).stop.offset + 1 < 2 ^ 32) :
    let map := ofSource source
    let span := map.span first second
    ((map.render? file span message).isSome ↔
      ¬Text.SplitsEnd source span.start.offset span.stop.offset) ∧
    (∀ picture, map.render? file span message = some picture →
      ∃ row marks width, Underlines source span row marks width ∧
        picture = "error: " ++ message ++ "\n  --> " ++ file ++ ":" ++ span.start.label ++ "\n" ++
          (copies (toString span.start.line).length ' ' ++ " |\n" ++ row ++ "\n" ++ marks ++
            "\n")) ∧
    ∀ place ∈ [span.start, span.stop], place = .counted source place.offset := by
  obtain ⟨start, stop, spanned, order, begins, ends⟩ := span_eq_counted source first second small
  dsimp only
  rw [spanned]
  refine and_assoc.1 ⟨?_, fun place member => ?_⟩
  · rcases render?_counted file message order begins ends with
      ⟨splits, none⟩ | ⟨whole, row, marks, width, underlines, some⟩
    · rw [none]
      exact ⟨iff_of_false Bool.false_ne_true fun whole => whole splits, nofun⟩
    · rw [some]
      refine ⟨iff_of_true rfl whole, fun picture drawn => ?_⟩
      exact ⟨row, marks, width, underlines, (Option.some.inj drawn).symm⟩
  · rcases List.mem_pair.1 member with rfl | rfl <;> rfl

/-- A span that goes on below its line is drawn if it starts before the carriage return. -/
theorem render?_underlines_below :
    (((ofSource "a\r\nb").span 1 4).stop.offset + 1 < 2 ^ 32 ∧
      ¬Text.SplitsEnd "a\r\nb" 1 4) ∧
    ((ofSource "a\r\nb").render? "t" ((ofSource "a\r\nb").span 1 4) "m").isSome := by
  have small : ((ofSource "a\r\nb").span 1 4).stop.offset + 1 < 2 ^ 32 := by decide
  have whole : ¬Text.SplitsEnd "a\r\nb" 1 4 := by
    rintro ⟨before, -, -, ahead, -⟩
    have first : (Text.slice "a\r\nb" 0 1).toList = ['a'] := by decide
    have last := congrArg List.getLast? ahead
    rw [first, List.getLast?_concat] at last
    exact absurd last (by decide)
  have here : ((ofSource "a\r\nb").span 1 4).start.offset = 1 := by decide
  have there : ((ofSource "a\r\nb").span 1 4).stop.offset = 4 := by decide
  have drawn := (render?_underlines "a\r\nb" "t" "m" 1 4 small).1
  rw [here, there] at drawn
  exact ⟨⟨small, whole⟩, drawn.2 whole⟩

/-- A span from behind a carriage return over the line feed has no picture. -/
theorem render?_of_splitsEnd : ¬∀ (source file message : String) (first second : Nat),
    source.utf8ByteSize < 2 ^ 32 →
      ((ofSource source).render? file ((ofSource source).span first second) message).isSome := by
  intro every
  have drawn := every "a\r\nb" "" "" 2 4 (by decide)
  have begins : Text.isBoundary "a\r\nb" 2 = true := by decide
  have ends : Text.isBoundary "a\r\nb" 4 = true := by decide
  have splits : Text.SplitsEnd "a\r\nb" 2 4 :=
    ⟨['a'], 0, ['b'], by decide, by decide⟩
  rw [span, Nat.max_eq_left (by decide), positionAt_of_isBoundary begins,
    positionAt_of_isBoundary ends, Position.narrowed_counted begins (by decide),
    Position.narrowed_counted ends (by decide)] at drawn
  rcases render?_counted "" "" (by decide) begins ends with ⟨-, none⟩ | ⟨whole, -⟩
  · rw [none] at drawn
    contradiction
  · exact whole splits

end SourceMap
end Stencil
