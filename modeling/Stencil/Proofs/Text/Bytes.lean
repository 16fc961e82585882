import Stencil.Text.Slice
/-!
# Bytes of texts

The bytes of a text are those of its characters one after another, and no character's bytes begin
inside another's. So a text whose bytes occur among the bytes of another occurs in it
(`infix_of_bytes_infix`).
-/

namespace Stencil.Text

/-- The list of a byte array, from a place on, onto what was listed before. -/
theorem toList_loop (bytes : ByteArray) (place : Nat) (listed : List UInt8) :
    ByteArray.toList.loop bytes place listed = listed.reverse ++ bytes.data.toList.drop place := by
  by_cases inside : place < bytes.size
  · have member : place < bytes.data.toList.length := by simpa using inside
    have found : bytes.get! place = bytes.data.toList[place] := by
      rw [Array.getElem_toList]
      exact getElem!_pos bytes.data place inside
    rw [ByteArray.toList.loop, if_pos inside, toList_loop bytes (place + 1), found,
      List.drop_eq_getElem_cons member, List.reverse_cons, List.append_assoc,
      List.singleton_append]
  · rw [ByteArray.toList.loop, if_neg inside, List.drop_eq_nil_of_le, List.append_nil]
    simpa using inside
termination_by bytes.size - place

/-- The list of a byte array is that of its data. -/
theorem toList_eq_data (bytes : ByteArray) : bytes.toList = bytes.data.toList := by
  rw [ByteArray.toList, toList_loop, List.reverse_nil, List.nil_append, List.drop_zero]

/-- The bytes of a text are those of its characters one after another. -/
theorem bytes_eq (text : String) : bytes text = text.toList.flatMap String.utf8EncodeChar := by
  have spelled : text.toByteArray = text.toList.utf8Encode := by
    rw [← String.toByteArray_ofList, String.ofList_toList]
  rw [bytes, String.toUTF8_eq_toByteArray, spelled, toList_eq_data, List.utf8Encode,
    List.data_toByteArray]

/-- The bytes of texts in a row come in a row. -/
theorem bytes_append (left right : String) : bytes (left ++ right) = bytes left ++ bytes right := by
  rw [bytes_eq, bytes_eq, bytes_eq, String.toList_append, List.flatMap_append]

/-- The bytes of a text are counted by its size. -/
theorem length_bytes (text : String) : (bytes text).length = text.utf8ByteSize := by
  rw [bytes, String.toUTF8_eq_toByteArray, toList_eq_data, ← String.size_toByteArray]
  rfl

/-- A text without bytes is empty. -/
theorem bytes_eq_nil_iff {text : String} : bytes text = [] ↔ text = "" := by
  rw [← List.length_eq_zero_iff, length_bytes, String.utf8ByteSize_eq_zero_iff]

/-- The bytes of a text are those it is stored as. -/
theorem bytes_eq_data (text : String) : bytes text = text.toByteArray.data.toList := by
  rw [bytes, String.toUTF8_eq_toByteArray, toList_eq_data]

/-- Texts of the same bytes are the same. -/
theorem bytes_inj {left right : String} : bytes left = bytes right ↔ left = right := by
  rw [bytes_eq_data, bytes_eq_data, Array.toList_inj, ← ByteArray.ext_iff,
    String.toByteArray_inj]

/-- Characters whose bytes come first come first. -/
theorem isPrefix_of_bytes {inner outer : List Char} {more : List UInt8}
    (same : inner.flatMap String.utf8EncodeChar ++ more =
      outer.flatMap String.utf8EncodeChar) : inner <+: outer := by
  apply List.isPrefix_of_utf8Encode_append_eq_utf8Encode more.toByteArray
  rw [List.utf8Encode, List.utf8Encode, ← List.toByteArray_append, same]

/-- A character has a first byte, which begins a character. -/
theorem utf8EncodeChar_eq_cons (c : Char) :
    ∃ first rest, String.utf8EncodeChar c = first :: rest ∧ first.IsUTF8FirstByte := by
  cases encoded : String.utf8EncodeChar c with
  | nil => exact absurd encoded String.utf8EncodeChar_ne_nil
  | cons first rest =>
    have inside : 0 < (String.utf8EncodeChar c).length := by rw [encoded]; exact Nat.succ_pos _
    have begins := (@UInt8.isUTF8FirstByte_getElem_utf8EncodeChar c 0 inside).2 rfl
    simp only [encoded, List.getElem_cons_zero] at begins
    exact ⟨first, rest, rfl, begins⟩

/-- No later byte of a character begins one. -/
theorem not_begins_within {c : Char} {before after : List UInt8} {later : UInt8}
    (encoded : String.utf8EncodeChar c = before ++ later :: after) (past : before ≠ []) :
    ¬later.IsUTF8FirstByte := by
  have inside : before.length < (String.utf8EncodeChar c).length := by
    rw [encoded, List.length_append, List.length_cons]
    omega
  have place := @UInt8.isUTF8FirstByte_getElem_utf8EncodeChar c before.length inside
  simp only [encoded, List.getElem_append_right (Nat.le_refl _), Nat.sub_self,
    List.getElem_cons_zero] at place
  rw [place]
  exact Nat.ne_of_gt (List.length_pos_iff.2 past)

/-- Characters whose bytes occur among others' stand there among these: what comes before them are
whole characters too. -/
theorem exists_split_of_bytes {first : Char} {rest outer : List Char} {before more : List UInt8}
    (same : outer.flatMap String.utf8EncodeChar =
      before ++ ((first :: rest).flatMap String.utf8EncodeChar ++ more)) :
    ∃ left right, outer = left ++ (first :: rest ++ right) ∧
      left.flatMap String.utf8EncodeChar = before := by
  obtain ⟨head, tail, encoded, begins⟩ := utf8EncodeChar_eq_cons first
  induction outer generalizing before with
  | nil =>
    rw [List.flatMap_cons, encoded] at same
    simp at same
  | cons c outer ih =>
    by_cases start : before = []
    · rw [start, List.nil_append] at same
      obtain ⟨right, split⟩ := isPrefix_of_bytes same.symm
      exact ⟨[], right, split.symm, start.symm⟩
    · rw [List.flatMap_cons] at same
      obtain ⟨skipped, rfl, later⟩ | ⟨left, within, later⟩ := List.append_eq_append_iff.1 same
      · obtain ⟨left, right, rfl, spelled⟩ := ih later
        exact ⟨c :: left, right, rfl, by rw [List.flatMap_cons, spelled]⟩
      · cases left with
        | nil =>
          obtain ⟨left, right, rfl, spelled⟩ := @ih [] later.symm
          refine ⟨c :: left, right, rfl, ?_⟩
          rw [List.flatMap_cons, spelled, within]
          simp
        | cons next left =>
          rw [List.flatMap_cons, encoded, List.cons_append, List.cons_append,
            List.cons_append] at later
          obtain ⟨rfl, _⟩ := List.cons.inj later
          exact absurd begins (not_begins_within within start)

/-- Characters whose bytes occur among others' occur among these. -/
theorem infix_of_bytes_infix {first : Char} {rest outer : List Char} {before more : List UInt8}
    (same : outer.flatMap String.utf8EncodeChar =
      before ++ ((first :: rest).flatMap String.utf8EncodeChar ++ more)) :
    (first :: rest) <:+: outer := by
  obtain ⟨left, right, split, -⟩ := exists_split_of_bytes same
  exact ⟨left, right, by rw [split, List.append_assoc]⟩

/-- A range of the bytes of a text that spells another text is a slice of whole characters. -/
theorem slice_of_bytes {text part : String} {start : Nat} (solid : part ≠ "")
    (spelled : bytes part <+: (bytes text).drop start) :
    slice text start (start + (bytes part).length) = part := by
  obtain ⟨more, spelled⟩ := spelled
  cases chars : part.toList with
  | nil => exact absurd (String.toList_eq_nil_iff.1 chars) solid
  | cons first rest =>
    have same : text.toList.flatMap String.utf8EncodeChar = (bytes text).take start ++
        ((first :: rest).flatMap String.utf8EncodeChar ++ more) := by
      rw [← chars, ← bytes_eq, ← bytes_eq, spelled, List.take_append_drop]
    obtain ⟨left, right, split, before⟩ := exists_split_of_bytes same
    have inside : start < (bytes text).length := by
      apply Nat.lt_of_not_le
      intro beyond
      rw [List.drop_eq_nil_of_le beyond, List.append_eq_nil_iff, bytes_eq_nil_iff] at spelled
      exact solid spelled.1
    have width : (String.ofList left).utf8ByteSize = start := by
      rw [← length_bytes, bytes_eq, String.toList_ofList, before, List.length_take]
      omega
    have further : (String.ofList (left ++ (first :: rest))).utf8ByteSize =
        start + (bytes part).length := by
      rw [String.ofList_append, String.utf8ByteSize_append, width, ← chars, String.ofList_toList,
        length_bytes]
    have begins : (⟨start⟩ : String.Pos.Raw).IsValid text := by
      refine String.Pos.Raw.isValid_iff_exists_take_toList.2 ⟨left.length, ?_⟩
      rw [split, List.take_left, width]
    have ends : (⟨start + (bytes part).length⟩ : String.Pos.Raw).IsValid text := by
      refine String.Pos.Raw.isValid_iff_exists_take_toList.2
        ⟨(left ++ (first :: rest)).length, ?_⟩
      rw [split, ← List.append_assoc, List.take_left, further]
    cases cut : slice? text start (start + (bytes part).length) with
    | none =>
      rw [slice?, dif_pos ⟨Nat.le_add_right _ _, begins, ends⟩] at cut
      contradiction
    | some found =>
      rw [slice, cut, Option.getD_some]
      have listed : bytes found = ((bytes text).drop start).take (bytes part).length := by
        rw [bytes_eq_data found, toByteArray_of_slice? cut, ByteArray.data_extract,
          Array.toList_extract, List.extract, Nat.add_sub_cancel_left, bytes_eq_data text]
      rw [← spelled, List.take_left] at listed
      exact bytes_inj.1 listed

end Stencil.Text
