import Stencil.Lexer.Scan
import Stencil.Proofs.Text.Bytes
/-!
# Whole characters

Bytes that are left of a text at a character boundary are those of whole characters. They are so
again wherever a byte begins a character, after an ASCII byte, and after a text that they begin
with. Slices between boundaries may be put together (`slice_append`).
-/

namespace Stencil.Text

/-- Bytes of whole characters. -/
def Whole (bytes : List UInt8) : Prop :=
  ∃ chars : List Char, bytes = chars.flatMap String.utf8EncodeChar

/-- The bytes of a text are whole characters. -/
theorem whole_bytes (text : String) : Whole (bytes text) := ⟨text.toList, bytes_eq text⟩

/-- No bytes are whole characters. -/
theorem whole_nil : Whole [] := ⟨[], rfl⟩

/-- Whole characters side by side are whole characters. -/
theorem Whole.append {left right : List UInt8} (first : Whole left) (second : Whole right) :
    Whole (left ++ right) := by
  obtain ⟨chars, rfl⟩ := first
  obtain ⟨more, rfl⟩ := second
  exact ⟨chars ++ more, List.flatMap_append.symm⟩

/-- An ASCII byte is a character of its own. -/
theorem charWidth_of_ascii {b : UInt8} (ascii : b < 128) : Scan.charWidth b = 1 := by
  have low : b < 0xC0 := UInt8.lt_trans ascii (by decide)
  rw [Scan.charWidth, if_pos low]

/-- A byte of one-byte characters begins a character. -/
theorem begins_of_ascii {b : UInt8} (ascii : b < 128) : b.IsUTF8FirstByte := by
  have each : ∀ n < 128, (UInt8.ofNat n).IsUTF8FirstByte := by decide
  rw [← UInt8.ofNat_toNat (x := b)]
  exact each b.toNat (UInt8.lt_iff_toNat_lt.1 ascii)

/-- The first byte of a character tells how many bytes it has. -/
theorem charWidth_head {c : Char} {first : UInt8} {rest : List UInt8}
    (encoded : String.utf8EncodeChar c = first :: rest) :
    Scan.charWidth first = (String.utf8EncodeChar c).length := by
  have two : ∀ n < 256, Scan.charWidth (UInt8.ofNat n &&& 0x1f ||| 0xc0) = 2 := by decide +kernel
  have three : ∀ n < 256, Scan.charWidth (UInt8.ofNat n &&& 0x0f ||| 0xe0) = 3 := by
    decide +kernel
  have four : ∀ n < 256, Scan.charWidth (UInt8.ofNat n &&& 0x07 ||| 0xf0) = 4 := by decide +kernel
  rw [String.length_utf8EncodeChar]
  rcases c.utf8Size_eq with size | size | size | size
  · rw [String.utf8EncodeChar_eq_singleton size] at encoded
    rw [size, ← (List.cons.inj encoded).1]
    have small := UInt32.le_iff_toNat_le.1 (Char.utf8Size_eq_one_iff.1 size)
    apply charWidth_of_ascii
    rw [UInt8.lt_iff_toNat_lt, UInt32.toNat_toUInt8]
    exact Nat.lt_of_le_of_lt (Nat.mod_le _ _) (Nat.lt_succ_of_le small)
  · rw [String.utf8EncodeChar_eq_cons_cons size] at encoded
    have told := two _ (c.val >>> 6).toUInt8.toNat_lt
    rwa [UInt8.ofNat_toNat, (List.cons.inj encoded).1, ← size] at told
  · rw [String.utf8EncodeChar_eq_cons_cons_cons size] at encoded
    have told := three _ (c.val >>> 12).toUInt8.toNat_lt
    rwa [UInt8.ofNat_toNat, (List.cons.inj encoded).1, ← size] at told
  · rw [String.utf8EncodeChar_eq_cons_cons_cons_cons size] at encoded
    have told := four _ (c.val >>> 18).toUInt8.toNat_lt
    rwa [UInt8.ofNat_toNat, (List.cons.inj encoded).1, ← size] at told

/-- What comes after whole characters is whole. -/
theorem Whole.after {mark more : List UInt8} (whole : Whole (mark ++ more)) (first : Whole mark) :
    Whole more := by
  obtain ⟨inner, rfl⟩ := first
  obtain ⟨outer, same⟩ := whole
  obtain ⟨rest, rfl⟩ := isPrefix_of_bytes same
  rw [List.flatMap_append, List.append_cancel_left_eq] at same
  exact ⟨rest, same⟩

/-- From a byte on that begins a character the bytes are whole. -/
theorem Whole.of_begins {before after : List UInt8} {b : UInt8}
    (whole : Whole (before ++ b :: after)) (begins : b.IsUTF8FirstByte) : Whole (b :: after) := by
  obtain ⟨chars, same⟩ := whole
  induction chars generalizing before with
  | nil => exact absurd same (by simp)
  | cons c chars ih =>
    rw [List.flatMap_cons] at same
    rcases List.append_eq_append_iff.1 same with ⟨left, encoded, later⟩ | ⟨skipped, rfl, later⟩
    · cases left with
      | nil => exact ⟨chars, by simpa using later⟩
      | cons next left =>
        obtain ⟨rfl, -⟩ := List.cons.inj later
        by_cases none : before = []
        · exact ⟨c :: chars, by rw [List.flatMap_cons, encoded, none, List.nil_append, later]⟩
        · exact absurd begins (not_begins_within encoded none)
    · exact ih later.symm

/-- After the first byte's character the bytes are whole. -/
theorem Whole.drop_charWidth {b : UInt8} {rest : List UInt8} (whole : Whole (b :: rest)) :
    Whole ((b :: rest).drop (Scan.charWidth b)) := by
  obtain ⟨chars, same⟩ := whole
  cases chars with
  | nil => contradiction
  | cons c chars =>
    obtain ⟨first, more, encoded, -⟩ := utf8EncodeChar_eq_cons c
    have width := charWidth_head encoded
    rw [List.flatMap_cons] at same
    have head : first = b := by
      rw [encoded, List.cons_append] at same
      exact (List.cons.inj same).1.symm
    rw [same, ← head, width, List.drop_left]
    exact ⟨chars, rfl⟩

/-- After an ASCII byte at the head the bytes are whole. -/
theorem Whole.tail {b : UInt8} {rest : List UInt8} (whole : Whole (b :: rest)) (ascii : b < 128) :
    Whole rest := by
  have after := whole.drop_charWidth
  rwa [charWidth_of_ascii ascii] at after

/-- After an ASCII byte the bytes are whole. -/
theorem Whole.after_ascii {before after : List UInt8} {b : UInt8}
    (whole : Whole (before ++ b :: after)) (ascii : b < 128) : Whole after :=
  (whole.of_begins (begins_of_ascii ascii)).tail ascii

/-! ### Slices -/

/-- An offset from which on the bytes are whole is a boundary. -/
theorem isValid_of_whole {text : String} {offset : Nat} (inside : offset ≤ text.utf8ByteSize)
    (whole : Whole ((bytes text).drop offset)) : (⟨offset⟩ : String.Pos.Raw).IsValid text := by
  obtain ⟨chars, same⟩ := whole
  refine String.Pos.Raw.isValid_iff_isValidUTF8_extract_utf8ByteSize.2 ⟨inside, ⟨chars, ?_⟩⟩
  rw [ByteArray.ext_iff, ← Array.toList_inj, ByteArray.data_extract, Array.toList_extract,
    List.extract, ← bytes_eq_data, List.utf8Encode, List.data_toByteArray, ← same,
    List.take_of_length_le]
  exact Nat.le_of_eq (by rw [List.length_drop, length_bytes])

/-- The bytes of a slice between boundaries. -/
theorem bytes_slice {text : String} {start stop : Nat} (order : start ≤ stop)
    (begins : (⟨start⟩ : String.Pos.Raw).IsValid text)
    (ends : (⟨stop⟩ : String.Pos.Raw).IsValid text) :
    bytes (slice text start stop) = ((bytes text).drop start).take (stop - start) := by
  cases cut : slice? text start stop with
  | none =>
    rw [slice?, dif_pos ⟨order, begins, ends⟩] at cut
    contradiction
  | some found =>
    rw [slice, cut, Option.getD_some, bytes_eq_data found, toByteArray_of_slice? cut,
      ByteArray.data_extract, Array.toList_extract, List.extract, bytes_eq_data text]

/-- From a boundary on the bytes are whole. -/
theorem whole_of_isValid {text : String} {offset : Nat}
    (valid : (⟨offset⟩ : String.Pos.Raw).IsValid text) : Whole ((bytes text).drop offset) := by
  have inside : offset ≤ text.utf8ByteSize := valid.le_rawEndPos
  have last : (⟨text.utf8ByteSize⟩ : String.Pos.Raw).IsValid text :=
    String.Pos.Raw.isValid_rawEndPos
  have length : ((bytes text).drop offset).length = text.utf8ByteSize - offset := by
    rw [List.length_drop, length_bytes]
  have cut := bytes_slice inside valid last
  rw [List.take_of_length_le (Nat.le_of_eq length)] at cut
  rw [← cut]
  exact whole_bytes _

/-- An offset within a range that ends at a boundary is a boundary if the rest of the range is
whole. -/
theorem isValid_between {text : String} {start here stop : Nat} (before : start ≤ here)
    (inside : here ≤ stop) (ends : (⟨stop⟩ : String.Pos.Raw).IsValid text)
    (whole : Whole ((((bytes text).drop start).take (stop - start)).drop (here - start))) :
    (⟨here⟩ : String.Pos.Raw).IsValid text := by
  have size : stop ≤ text.utf8ByteSize := ends.le_rawEndPos
  apply isValid_of_whole (Nat.le_trans inside size)
  have left : stop - start - (here - start) = stop - here := by omega
  rw [List.drop_take, List.drop_drop, Nat.add_sub_cancel' before, left] at whole
  have after := whole_of_isValid ends
  rw [← Nat.add_sub_cancel' inside, ← List.drop_drop] at after
  have both := whole.append after
  rwa [List.take_append_drop] at both

/-- Slices that meet at a boundary are one. -/
theorem slice_append {text : String} {start middle stop : Nat} (before : start ≤ middle)
    (after : middle ≤ stop) (begins : (⟨start⟩ : String.Pos.Raw).IsValid text)
    (meets : (⟨middle⟩ : String.Pos.Raw).IsValid text)
    (ends : (⟨stop⟩ : String.Pos.Raw).IsValid text) :
    slice text start middle ++ slice text middle stop = slice text start stop := by
  have joined (left right : String) : bytes (left ++ right) = bytes left ++ bytes right := by
    rw [bytes_eq, bytes_eq, bytes_eq, String.toList_append, List.flatMap_append]
  rw [← bytes_inj, joined, bytes_slice before begins meets, bytes_slice after meets ends,
    bytes_slice (Nat.le_trans before after) begins ends]
  have lengths : stop - start = middle - start + (stop - middle) := by omega
  have place : middle = start + (middle - start) := by omega
  rw [lengths, List.take_add, List.drop_drop, ← place]

/-- The slice of all of a text is the text. -/
theorem slice_all (text : String) : slice text 0 text.utf8ByteSize = text := by
  have begins : (⟨0⟩ : String.Pos.Raw).IsValid text := String.Pos.Raw.isValid_zero
  have ends : (⟨text.utf8ByteSize⟩ : String.Pos.Raw).IsValid text :=
    String.Pos.Raw.isValid_rawEndPos
  rw [← bytes_inj, bytes_slice (Nat.zero_le _) begins ends, List.drop_zero, Nat.sub_zero,
    ← length_bytes, List.take_length]

/-- A slice without extent is empty. -/
theorem slice_self (text : String) (place : Nat) : slice text place place = "" := by
  cases cut : slice? text place place with
  | none => rw [slice, cut, Option.getD_none]
  | some found =>
    rw [slice, cut, Option.getD_some, ← bytes_eq_nil_iff, bytes_eq_data, toByteArray_of_slice? cut,
      ByteArray.extract_same]
    rfl

end Stencil.Text
