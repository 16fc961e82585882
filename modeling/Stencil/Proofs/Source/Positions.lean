import Mathlib.Algebra.BigOperators.Group.List.Basic
import Mathlib.Data.List.DropRight
import Mathlib.Data.Prod.Lex
import Mathlib.Order.Bounds.Basic
import Stencil.Proofs.Text.Whole
import Stencil.Source.Map
/-!
# Lines and columns of offsets

A position is found by a binary search over line starts and by the length of a slice. What it comes
to is said here by counting: the line feeds before it, and the characters since the last of them.
The starts are tied to the counts by one equivalence (`SourceMap.Indexes`): a line starts at or
before an offset exactly if enough line feeds come before the offset.

Of the counts a position keeps what 32 bits hold. Nothing is lost of them before offset
`2 ^ 32 - 1`, since line and column together are no more than the bytes before. From there on a
source of a single line shows that a column can be zero (`positionAt_wraps`).
-/

namespace Stencil

/-- The number of line feeds among the bytes before an offset. -/
def Text.feedsBefore (text : String) (offset : Nat) : Nat :=
  ((Text.bytes text).take offset).count Scan.lineFeed

/-- The characters before an offset that come after the last line feed before it. -/
def Text.sinceFeed (text : String) (offset : Nat) : List Char :=
  (Text.slice text 0 offset).toList.rtakeWhile (· ≠ '\n')

/-- What a position has to be for an offset into a source. -/
structure Position.Resolves (place : Position) (source : String) (offset : Nat) : Prop where
  /-- Offsets go back to a character boundary, those beyond the end to the end. -/
  greatest : IsGreatest {boundary | Text.isBoundary source boundary = true ∧
    boundary ≤ min offset source.utf8ByteSize} place.offset
  line : place.line = (1 + Text.feedsBefore source place.offset) % 2 ^ 32
  column : place.column = (1 + (Text.sinceFeed source place.offset).length) % 2 ^ 32
  /-- Neither number is cut off but at the end of what 32 bits can count, or beyond it. -/
  whole : place.offset + 1 < 2 ^ 32 → place.line = 1 + Text.feedsBefore source place.offset ∧
    place.column = 1 + (Text.sinceFeed source place.offset).length

/-! ### Boundaries -/

namespace Text

variable {text : String}

/-- A boundary of characters is a valid position in the text. -/
theorem isBoundary_iff {offset : Nat} :
    isBoundary text offset = true ↔ (⟨offset⟩ : String.Pos.Raw).IsValid text := decide_eq_true_iff

/-- A text begins at a boundary. -/
theorem isBoundary_zero : isBoundary text 0 = true :=
  isBoundary_iff.2 String.Pos.Raw.isValid_zero

/-- No boundary lies beyond the end of a text. -/
theorem le_size_of_isBoundary {offset : Nat} (boundary : isBoundary text offset = true) :
    offset ≤ text.utf8ByteSize := (isBoundary_iff.1 boundary).le_rawEndPos

/-- Going back from an offset stops at the greatest boundary. -/
theorem isGreatest_boundaryBefore (text : String) (offset : Nat) :
    IsGreatest {boundary | isBoundary text boundary = true ∧ boundary ≤ offset}
      (boundaryBefore text offset) := by
  induction offset with
  | zero => exact ⟨⟨isBoundary_zero, Nat.le_refl 0⟩, fun _ member => member.2⟩
  | succ offset ih =>
    rw [boundaryBefore]
    split
    next here => exact ⟨⟨here, Nat.le_refl _⟩, fun _ member => member.2⟩
    next within =>
      obtain ⟨⟨boundary, inside⟩, greatest⟩ := ih
      refine ⟨⟨boundary, Nat.le_succ_of_le inside⟩, ?_⟩
      rintro other ⟨valid, below⟩
      rcases Nat.le_succ_iff.1 below with below | rfl
      · exact greatest ⟨valid, below⟩
      · exact absurd valid within

/-- A boundary is the last boundary up to itself. -/
theorem boundaryBefore_of_isBoundary {offset : Nat} (boundary : isBoundary text offset = true) :
    boundaryBefore text offset = offset :=
  Nat.le_antisymm (boundaryBefore_le text offset)
    ((isGreatest_boundaryBefore text offset).2 ⟨boundary, Nat.le_refl offset⟩)

/-- A later offset has no earlier last boundary. -/
theorem boundaryBefore_mono (text : String) {first second : Nat} (order : first ≤ second) :
    boundaryBefore text first ≤ boundaryBefore text second :=
  (isGreatest_boundaryBefore text first).mono (isGreatest_boundaryBefore text second)
    fun _ member => ⟨member.1, Nat.le_trans member.2 order⟩

/-! ### Line feeds between boundaries -/

/-- A later offset has no fewer line feeds before it. -/
theorem feedsBefore_mono (text : String) {first second : Nat} (order : first ≤ second) :
    feedsBefore text first ≤ feedsBefore text second :=
  (List.take_sublist_take_left order).count_le _

/-- There are no more line feeds before an offset than bytes. -/
theorem feedsBefore_le (text : String) (offset : Nat) : feedsBefore text offset ≤ offset :=
  Nat.le_trans List.count_le_length (List.length_take_le _ _)

/-- Between boundaries with the same line feeds before them there is none. -/
theorem plain_of_feedsBefore_eq {first second : Nat} (order : first ≤ second)
    (begins : isBoundary text first = true) (ends : isBoundary text second = true)
    (same : feedsBefore text first = feedsBefore text second) :
    ∀ c ∈ (slice text first second).toList, c ≠ '\n' := by
  rintro c member rfl
  have spelled := bytes_slice order (isBoundary_iff.1 begins) (isBoundary_iff.1 ends)
  have listed : Scan.lineFeed ∈ bytes (slice text first second) := by
    rw [bytes_eq]
    exact List.mem_flatMap.2 ⟨'\n', member, by decide⟩
  rw [spelled, ← List.count_pos_iff] at listed
  have place : second = first + (second - first) := by omega
  rw [feedsBefore, feedsBefore, place, List.take_add, List.count_append] at same
  omega

/-- The characters before a boundary, cut at an earlier one. -/
theorem toList_slice_zero {first second : Nat} (order : first ≤ second)
    (begins : isBoundary text first = true) (ends : isBoundary text second = true) :
    (slice text 0 second).toList =
      (slice text 0 first).toList ++ (slice text first second).toList := by
  rw [← String.toList_append, slice_append (Nat.zero_le _) order String.Pos.Raw.isValid_zero
    (isBoundary_iff.1 begins) (isBoundary_iff.1 ends)]

/-- Between two boundaries there are no more characters than bytes, and some if there are bytes. -/
theorem length_slice {first second : Nat} (order : first ≤ second)
    (begins : isBoundary text first = true) (ends : isBoundary text second = true) :
    (slice text first second).toList.length ≤ second - first ∧
      (first < second → 0 < (slice text first second).toList.length) := by
  have spelled := congrArg List.length
    (bytes_slice order (isBoundary_iff.1 begins) (isBoundary_iff.1 ends))
  rw [List.length_take, List.length_drop, length_bytes text,
    Nat.min_eq_left (Nat.sub_le_sub_right (le_size_of_isBoundary ends) first), bytes_eq,
    List.length_flatMap] at spelled
  constructor
  · rw [← spelled, ← List.length_map]
    refine List.length_le_sum_of_one_le _ fun width member => ?_
    obtain ⟨c, -, rfl⟩ := List.mem_map.1 member
    exact List.length_pos_iff.2 String.utf8EncodeChar_ne_nil
  · intro apart
    refine List.length_pos_iff.2 fun empty => ?_
    rw [empty] at spelled
    exact Nat.sub_ne_zero_of_lt apart spelled.symm

/-- The longest run at the end goes on through a last part that is in it. -/
theorem rtakeWhile_append_of_all {α : Type} {p : α → Bool} {before last : List α}
    (all : ∀ a ∈ last, p a = true) :
    (before ++ last).rtakeWhile p = before.rtakeWhile p ++ last := by
  rw [List.rtakeWhile, List.reverse_append,
    List.takeWhile_append_of_pos fun a member => all a (List.mem_reverse.1 member),
    List.reverse_append, List.reverse_reverse, List.rtakeWhile]

/-- Without a line feed between two boundaries the characters between them are further ones since
the last line feed. -/
theorem sinceFeed_append {first second : Nat} (order : first ≤ second)
    (begins : isBoundary text first = true) (ends : isBoundary text second = true)
    (same : feedsBefore text first = feedsBefore text second) :
    sinceFeed text second = sinceFeed text first ++ (slice text first second).toList := by
  rw [sinceFeed, toList_slice_zero order begins ends, rtakeWhile_append_of_all, sinceFeed]
  intro c member
  exact decide_eq_true (plain_of_feedsBefore_eq order begins ends same c member)

/-- A line feed, which is a character of its own, stands between boundaries. -/
theorem around_feed {offset : Nat} (feed : (bytes text)[offset]? = some Scan.lineFeed) :
    isBoundary text offset = true ∧ isBoundary text (offset + 1) = true ∧
      slice text offset (offset + 1) = "\n" := by
  obtain ⟨inside, here⟩ := List.getElem?_eq_some_iff.1 feed
  have later : (bytes text).drop offset = Scan.lineFeed :: (bytes text).drop (offset + 1) := by
    rw [List.drop_eq_getElem_cons inside, here]
  have ascii : Scan.lineFeed < 128 := by decide
  have whole :
      Whole ((bytes text).take offset ++ Scan.lineFeed :: (bytes text).drop (offset + 1)) := by
    rw [← later, List.take_append_drop]
    exact whole_bytes text
  rw [length_bytes] at inside
  have begins : isBoundary text offset = true := by
    refine isBoundary_iff.2 (isValid_of_whole (Nat.le_of_lt inside) ?_)
    rw [later]
    exact whole.of_begins (begins_of_ascii ascii)
  have ends : isBoundary text (offset + 1) = true :=
    isBoundary_iff.2 (isValid_of_whole inside (whole.after_ascii ascii))
  refine ⟨begins, ends, ?_⟩
  rw [← bytes_inj, bytes_slice (Nat.le_add_right offset 1) (isBoundary_iff.1 begins)
    (isBoundary_iff.1 ends), later, Nat.add_sub_cancel_left, bytes_eq "\n"]
  rfl

/-- After a line feed there is nothing since a line feed. -/
theorem sinceFeed_after {offset : Nat} (feed : (bytes text)[offset]? = some Scan.lineFeed) :
    sinceFeed text (offset + 1) = [] := by
  obtain ⟨begins, ends, alone⟩ := around_feed feed
  rw [sinceFeed, toList_slice_zero (Nat.le_succ offset) begins ends, alone]
  exact List.rtakeWhile_concat_neg _ _ _ (by decide)

/-- The byte by which there are more line feeds is one. -/
theorem feed_of_feedsBefore_lt {offset : Nat}
    (more : feedsBefore text offset < feedsBefore text (offset + 1)) :
    (bytes text)[offset]? = some Scan.lineFeed := by
  rw [feedsBefore, feedsBefore, List.take_add_one, List.count_append] at more
  cases here : (bytes text)[offset]? with
  | none =>
    rw [here] at more
    exact absurd more (Nat.lt_irrefl _)
  | some b =>
    by_contra other
    have none : (some b).toList.count Scan.lineFeed = 0 :=
      List.count_eq_zero.2 fun member => other (congrArg some (List.mem_singleton.1 member).symm)
    rw [here, none] at more
    exact absurd more (Nat.lt_irrefl _)

end Text

/-! ### Line starts -/

namespace SourceMap

/-- Line starts tell how many line feeds come before an offset: a line starts there or before
exactly if there are as many as its number, counted from zero. -/
structure Indexes (starts : Array Nat) (read : List UInt8) : Prop where
  size : starts.size = read.count Scan.lineFeed + 1
  le_iff : ∀ line < starts.size, ∀ offset : Nat,
    starts[line]?.getD 0 ≤ offset ↔ line ≤ (read.take offset).count Scan.lineFeed

variable {starts : Array Nat} {read : List UInt8}

/-- There is a line for any number of line feeds before an offset. -/
theorem Indexes.listed (indexes : Indexes starts read) (offset : Nat) :
    (read.take offset).count Scan.lineFeed < starts.size := by
  rw [indexes.size]
  exact Nat.lt_succ_of_le ((List.take_sublist _ _).count_le _)

/-- One byte more is one line feed more at most, for the offsets beyond it. -/
theorem count_take_snoc (read : List UInt8) (b : UInt8) (offset : Nat) :
    ((read ++ [b]).take offset).count Scan.lineFeed =
      (read.take offset).count Scan.lineFeed + if b = 10 ∧ read.length < offset then 1 else 0 := by
  rw [List.take_append, List.count_append]
  congr 1
  by_cases beyond : read.length < offset
  · obtain ⟨more, same⟩ := Nat.exists_eq_succ_of_ne_zero (Nat.sub_ne_zero_of_lt beyond)
    simp [same, beyond, Scan.lineFeed, List.count_singleton]
  · simp [beyond, Nat.sub_eq_zero_of_le (Nat.not_lt.1 beyond)]

/-- The line starts of one byte more. -/
theorem Indexes.snoc (indexes : Indexes starts read) (b : UInt8) :
    Indexes (if b = 10 then starts.push (read.length + 1) else starts) (read ++ [b]) := by
  have all {offset : Nat} (beyond : read.length < offset) :
      (read.take offset).count Scan.lineFeed + 1 = starts.size := by
    rw [List.take_of_length_le (Nat.le_of_lt beyond), indexes.size]
  by_cases feed : b = 10
  · rw [if_pos feed]
    refine ⟨?_, fun line below offset => ?_⟩
    · rw [Array.size_push, indexes.size, feed, List.count_append]
      rfl
    · rw [count_take_snoc]
      simp only [feed, true_and]
      rw [Array.size_push] at below
      rcases Nat.lt_succ_iff_lt_or_eq.1 below with below | rfl
      · rw [Array.getElem?_push_lt below, ← Array.getElem?_eq_getElem below,
          indexes.le_iff line below offset]
        split
        next beyond => have := all beyond; omega
        next => rfl
      · rw [Array.getElem?_push_size, Option.getD_some]
        have few := indexes.listed offset
        split
        next beyond => have := all beyond; omega
        next before => omega
  · rw [if_neg feed]
    refine ⟨?_, fun line below offset => ?_⟩
    · have other : [b].count Scan.lineFeed = 0 :=
        List.count_eq_zero.2 fun member => feed (List.mem_singleton.1 member).symm
      rw [indexes.size, List.count_append, other, Nat.add_zero]
    · rw [count_take_snoc, indexes.le_iff line below offset]
      simp [feed]

/-- The starts found so far are those of the bytes read, and reading on keeps them so. -/
theorem indexes_startsFrom {source : String} {offset : Nat}
    (indexes : Indexes starts ((Text.bytes source).take offset))
    (within : offset ≤ source.utf8ByteSize) :
    Indexes (startsFrom source offset starts) (Text.bytes source) := by
  induction offset, starts using startsFrom.induct source with
  | case1 offset found inside next ih =>
    rw [startsFrom, dif_pos inside]
    have listed : offset < (Text.bytes source).length := by rwa [Text.length_bytes]
    have read : (Text.bytes source)[offset] = source.getUTF8Byte ⟨offset⟩ inside := by
      simp only [Text.bytes_eq_data]
      rfl
    have further := indexes.snoc (source.getUTF8Byte ⟨offset⟩ inside)
    rw [List.length_take_of_le (Nat.le_of_lt listed), ← read,
      List.take_concat_get' _ _ listed, read] at further
    exact ih further inside
  | case2 offset found beyond =>
    rw [startsFrom, dif_neg beyond]
    rwa [List.take_of_length_le (by rw [Text.length_bytes]; omega)] at indexes

/-- The line starts of a source are told by its line feeds. -/
theorem indexes_ofSource (source : String) :
    Indexes (ofSource source).lineStarts (Text.bytes source) := by
  have first : Indexes #[0] ((Text.bytes source).take 0) := by
    refine ⟨rfl, fun line below offset => ?_⟩
    obtain rfl : line = 0 := Nat.lt_one_iff.1 below
    simp
  exact indexes_startsFrom first (Nat.zero_le _)

/-- The search finds the last index that it is allowed to find and whose start is not beyond. -/
theorem lastStart_eq {offset last low high : Nat}
    (starts_iff : ∀ line < high, starts[line]?.getD 0 ≤ offset ↔ line ≤ last)
    (from_low : low ≤ last) (below : last < high) : lastStart starts offset low high = last := by
  induction low, high using lastStart.induct starts offset with
  | case1 low high apart middle before ih =>
    rw [lastStart, dif_pos apart, if_pos before]
    exact ih starts_iff ((starts_iff middle (by omega)).1 before) below
  | case2 low high apart middle beyond ih =>
    rw [lastStart, dif_pos apart, if_neg beyond]
    have inside : middle < high := by omega
    rw [starts_iff middle inside, Nat.not_le] at beyond
    exact ih (fun line less => starts_iff line (Nat.lt_trans less inside)) from_low beyond
  | case3 low high apart =>
    rw [lastStart, dif_neg apart]
    omega

/-- The line of an offset starts at the last boundary before which there are as many line feeds
and since which there is nothing. -/
theorem lineStart_spec (source : String) (offset : Nat) :
    ∃ start, (ofSource source).lineStarts[Text.feedsBefore source offset]?.getD 0 = start ∧
      start ≤ offset ∧ Text.feedsBefore source start = Text.feedsBefore source offset ∧
      Text.isBoundary source start = true ∧ Text.sinceFeed source start = [] := by
  refine ⟨_, rfl, ?_⟩
  generalize place : (ofSource source).lineStarts[Text.feedsBefore source offset]?.getD 0 = start
  have indexes := indexes_ofSource source
  have start_le_iff (other : Nat) :
      start ≤ other ↔ Text.feedsBefore source offset ≤ Text.feedsBefore source other := by
    rw [← place]
    exact indexes.le_iff _ (indexes.listed offset) other
  have before : start ≤ offset := (start_le_iff offset).2 (Nat.le_refl _)
  have same : Text.feedsBefore source start = Text.feedsBefore source offset :=
    Nat.le_antisymm (Text.feedsBefore_mono source before) ((start_le_iff start).1 (Nat.le_refl _))
  refine ⟨before, same, ?_⟩
  cases start with
  | zero =>
    refine ⟨Text.isBoundary_zero, ?_⟩
    rw [Text.sinceFeed, Text.slice_self]
    rfl
  | succ earlier =>
    -- there are fewer line feeds before the byte ahead of the start, so that this is one
    have less := (start_le_iff earlier).not.1 (by omega)
    rw [← same, Nat.not_le] at less
    have feed := Text.feed_of_feedsBefore_lt less
    exact ⟨(Text.around_feed feed).2.1, Text.sinceFeed_after feed⟩

end SourceMap

/-- The position of a boundary by counting. -/
def Position.counted (source : String) (boundary : Nat) : Position :=
  ⟨boundary, 1 + Text.feedsBefore source boundary, 1 + (Text.sinceFeed source boundary).length⟩

/-- What 32 bits hold of a number is its remainder. -/
theorem Position.held_eq (number : Nat) : held number = number % 2 ^ 32 := rfl

namespace SourceMap

/-- The search and the slice come to what counting gives, of which 32 bits are kept. -/
theorem positionAt_eq (source : String) (offset : Nat) :
    (ofSource source).positionAt offset = (Position.counted source
      (Text.boundaryBefore source (min offset source.utf8ByteSize))).narrowed := by
  have boundary := (Text.isGreatest_boundaryBefore source (min offset source.utf8ByteSize)).1.1
  have name : (ofSource source).source = source := rfl
  rw [positionAt, name]
  generalize Text.boundaryBefore source (min offset source.utf8ByteSize) = place at boundary
  have indexes := indexes_ofSource source
  have line : lastStart (ofSource source).lineStarts place 0 (ofSource source).lineStarts.size =
      Text.feedsBefore source place :=
    lastStart_eq (fun line below => indexes.le_iff line below place) (Nat.zero_le _)
      (indexes.listed place)
  obtain ⟨start, here, before, same, begins, nothing⟩ := lineStart_spec source place
  have since := Text.sinceFeed_append before begins boundary same
  rw [nothing, List.nil_append] at since
  simp only [line, here]
  rw [Position.counted, since, String.length_toList, Nat.add_comm 1, Nat.add_comm 1]

/-- A boundary is its own place. -/
theorem positionAt_of_isBoundary {source : String} {offset : Nat}
    (boundary : Text.isBoundary source offset = true) :
    (ofSource source).positionAt offset = (Position.counted source offset).narrowed := by
  rw [positionAt_eq, Nat.min_eq_left (Text.le_size_of_isBoundary boundary),
    Text.boundaryBefore_of_isBoundary boundary]

end SourceMap

namespace Position

/-- Further boundaries have later positions: a line feed between them makes for another line, and
without one there are more characters since the last. -/
theorem counted_lt {source : String} {first second : Nat}
    (begins : Text.isBoundary source first = true) (ends : Text.isBoundary source second = true)
    (order : first < second) :
    toLex ((counted source first).line, (counted source first).column) <
      toLex ((counted source second).line, (counted source second).column) := by
  rw [Prod.Lex.toLex_lt_toLex]
  have before := Nat.le_of_lt order
  rcases Nat.lt_or_eq_of_le (Text.feedsBefore_mono source before) with more | same
  · exact .inl (Nat.add_lt_add_left more 1)
  · refine .inr ⟨congrArg (1 + ·) same, ?_⟩
    have further := (Text.length_slice before begins ends).2 order
    simp only [counted, Text.sinceFeed_append before begins ends same, List.length_append]
    omega

/-- Line feeds and characters take a byte each, so that line and column together are no more than
the bytes before, both being counted from one. -/
theorem counted_fits {source : String} {boundary : Nat}
    (valid : Text.isBoundary source boundary = true) :
    (counted source boundary).line + (counted source boundary).column ≤ boundary + 2 := by
  obtain ⟨start, -, before, same, begins, nothing⟩ := SourceMap.lineStart_spec source boundary
  have since := (Text.length_slice before begins valid).1
  have feeds := Text.feedsBefore_le source start
  simp only [counted, Text.sinceFeed_append before begins valid same, nothing, List.nil_append]
  omega

/-- Nothing is lost of a line and a column before the last offset that 32 bits can count. -/
theorem narrowed_counted {source : String} {boundary : Nat}
    (valid : Text.isBoundary source boundary = true) (small : boundary + 1 < 2 ^ 32) :
    (counted source boundary).narrowed = counted source boundary := by
  have fits := counted_fits valid
  rw [narrowed, held_eq, held_eq]
  simp only [counted] at fits ⊢
  rw [Nat.mod_eq_of_lt (by omega), Nat.mod_eq_of_lt (by omega)]

end Position

namespace SourceMap

/-- Every offset has the position it should have. -/
theorem resolves_positionAt (source : String) (offset : Nat) :
    ((ofSource source).positionAt offset).Resolves source offset := by
  rw [positionAt_eq]
  have greatest := Text.isGreatest_boundaryBefore source (min offset source.utf8ByteSize)
  refine ⟨greatest, rfl, rfl, fun small => ?_⟩
  rw [Position.narrowed_counted greatest.1.1 small]
  exact ⟨rfl, rfl⟩

/-- Line and column of an offset, ordered by line first. -/
def cell (source : String) (offset : Nat) : ℕ ×ₗ ℕ :=
  toLex (((ofSource source).positionAt offset).line, ((ofSource source).positionAt offset).column)

/-- On boundaries that 32 bits can count later offsets have later lines, or later columns on the
same line. -/
theorem strictMonoOn_cell (source : String) :
    StrictMonoOn (cell source)
      {offset | Text.isBoundary source offset = true ∧ offset + 1 < 2 ^ 32} := by
  rintro first ⟨begins, firstSmall⟩ second ⟨ends, secondSmall⟩ order
  rw [cell, cell, positionAt_of_isBoundary begins, positionAt_of_isBoundary ends,
    Position.narrowed_counted begins firstSmall, Position.narrowed_counted ends secondSmall]
  exact Position.counted_lt begins ends order

/-- The ends of a span are boundaries in order. -/
theorem offsets_span (source : String) (start stop : Nat) :
    Text.isBoundary source ((ofSource source).span start stop).start.offset = true ∧
      Text.isBoundary source ((ofSource source).span start stop).stop.offset = true ∧
      ((ofSource source).span start stop).start.offset ≤
        ((ofSource source).span start stop).stop.offset := by
  rw [span, positionAt_eq, positionAt_eq]
  refine ⟨(Text.isGreatest_boundaryBefore source _).1.1,
    (Text.isGreatest_boundaryBefore source _).1.1, Text.boundaryBefore_mono source ?_⟩
  omega

/-- The text of a span is there, and has the bytes between its ends. -/
theorem spanText?_span (source : String) (start stop : Nat) :
    ∃ text, (ofSource source).spanText? ((ofSource source).span start stop) = some text ∧
      Text.bytes text = ((Text.bytes source).drop
        ((ofSource source).span start stop).start.offset).take
          (((ofSource source).span start stop).stop.offset -
            ((ofSource source).span start stop).start.offset) := by
  obtain ⟨begins, ends, order⟩ := offsets_span source start stop
  rw [Text.isBoundary_iff] at begins ends
  rw [← Text.bytes_slice order begins ends, Text.slice]
  refine ⟨_, ?_, rfl⟩
  rw [spanText?]
  change Text.slice? source _ _ = _
  rw [Text.slice?, dif_pos ⟨order, begins, ends⟩]
  rfl

/-- Offsets are resolved by counting, the order of boundaries is that of their lines and columns up
to where 32 bits cannot count them, and a span has text between its ends. -/
theorem positionAt_resolves (source : String) :
    (∀ offset, ((ofSource source).positionAt offset).Resolves source offset) ∧
    StrictMonoOn (cell source)
      {offset | Text.isBoundary source offset = true ∧ offset + 1 < 2 ^ 32} ∧
    Set.InjOn (cell source)
      {offset | Text.isBoundary source offset = true ∧ offset + 1 < 2 ^ 32} ∧
    ∀ start stop,
      let span := (ofSource source).span start stop
      span.start.offset ≤ span.stop.offset ∧
      ∃ text, (ofSource source).spanText? span = some text ∧
        Text.bytes text = ((Text.bytes source).drop span.start.offset).take
          (span.stop.offset - span.start.offset) :=
  ⟨resolves_positionAt source, strictMonoOn_cell source, (strictMonoOn_cell source).injOn,
    fun start stop => ⟨(offsets_span source start stop).2.2, spanText?_span source start stop⟩⟩

/-- A line feed ends its own line, and the end of the source after one is a line without text. -/
example : (ofSource "ab\ncd\n").positionAt 2 = ⟨2, 1, 3⟩ ∧
    (ofSource "ab\ncd\n").positionAt 99 = ⟨6, 3, 1⟩ := by
  decide +kernel

/-! ### Where the numbers are cut off -/

/-- So many copies of a character are a list of them. -/
theorem toList_copies (count : Nat) (c : Char) :
    (copies count c).toList = List.replicate count c := by
  rw [copies, String.pushn_eq_repeat_push]
  induction count with
  | zero => rfl
  | succ count ih =>
    rw [Nat.repeat, String.toList_push, ih, ← List.replicate_succ']

/-- The end of a line of so many letters, counted. -/
theorem counted_copies (count : Nat) : (copies count 'a').utf8ByteSize = count ∧
    Position.counted (copies count 'a') count = ⟨count, 1, 1 + count⟩ := by
  have spelled : Text.bytes (copies count 'a') = List.replicate count 97 := by
    rw [Text.bytes_eq, toList_copies, List.flatMap_replicate, show String.utf8EncodeChar 'a' = [97]
      by decide, List.flatten_replicate_singleton]
  have size : (copies count 'a').utf8ByteSize = count := by
    rw [← Text.length_bytes, spelled, List.length_replicate]
  have feeds : Text.feedsBefore (copies count 'a') count = 0 := by
    rw [Text.feedsBefore, spelled]
    exact List.count_eq_zero.2 fun member =>
      absurd (List.eq_of_mem_replicate (List.mem_of_mem_take member)) (by decide)
  have since : Text.sinceFeed (copies count 'a') count = List.replicate count 'a' := by
    have whole := Text.slice_all (copies count 'a')
    rw [size] at whole
    rw [Text.sinceFeed, whole, toList_copies]
    refine List.rtakeWhile_eq_self_iff.2 fun c member => ?_
    rw [List.eq_of_mem_replicate member]
    rfl
  refine ⟨size, ?_⟩
  rw [Position.counted, feeds, since, List.length_replicate]

/-- A line of one letter fewer than 32 bits can count ends in a column of zero, before its start. -/
theorem cell_copies {count : Nat} (most : 1 + count = 2 ^ 32) :
    ((ofSource (copies count 'a')).positionAt count).offset = count ∧
      (Text.sinceFeed (copies count 'a') count).length = count ∧
      ((ofSource (copies count 'a')).positionAt count).column = 0 ∧
      cell (copies count 'a') count < cell (copies count 'a') 0 ∧
      Text.isBoundary (copies count 'a') count = true := by
  obtain ⟨size, counted⟩ := counted_copies count
  have boundary : Text.isBoundary (copies count 'a') count = true := by
    have ends : (⟨(copies count 'a').utf8ByteSize⟩ : String.Pos.Raw).IsValid (copies count 'a') :=
      String.Pos.Raw.isValid_rawEndPos
    rw [size] at ends
    exact Text.isBoundary_iff.2 ends
  have since : 1 + (Text.sinceFeed (copies count 'a') count).length = 1 + count :=
    congrArg Position.column counted
  have last : (ofSource (copies count 'a')).positionAt count = ⟨count, 1, 0⟩ := by
    rw [positionAt_of_isBoundary boundary, counted, Position.narrowed, Position.held_eq,
      Position.held_eq, most, Nat.mod_self]
    rfl
  have first : (ofSource (copies count 'a')).positionAt 0 = ⟨0, 1, 1⟩ := by
    rw [positionAt_of_isBoundary Text.isBoundary_zero,
      Position.narrowed_counted Text.isBoundary_zero (by decide), Position.counted,
      Text.feedsBefore, Text.sinceFeed, Text.slice_self]
    rfl
  refine ⟨congrArg Position.offset last, Nat.add_left_cancel since,
    congrArg Position.column last, ?_, boundary⟩
  rw [cell, cell, last, first]
  exact Prod.Lex.toLex_lt_toLex.2 (.inr ⟨rfl, Nat.zero_lt_one⟩)

/-- A source of `2 ^ 32 - 1` letters has fewer than `2 ^ 32` bytes. Its end is in column zero, which
is not counted, and comes before its start. -/
theorem positionAt_wraps :
    let source := copies (2 ^ 32 - 1) 'a'
    let place := (ofSource source).positionAt (2 ^ 32 - 1)
    source.utf8ByteSize < 2 ^ 32 ∧
      place.column ≠ 1 + (Text.sinceFeed source place.offset).length ∧
      ¬StrictMonoOn (cell source) {offset | Text.isBoundary source offset = true} := by
  dsimp only
  obtain ⟨here, since, none, before, ends⟩ := cell_copies (show 1 + (2 ^ 32 - 1) = 2 ^ 32 by decide)
  rw [here, since, none, (counted_copies _).1]
  refine ⟨by decide, by decide, fun increasing => ?_⟩
  exact absurd (increasing Text.isBoundary_zero ends (by decide)) (lt_asymm before)

end SourceMap
end Stencil
