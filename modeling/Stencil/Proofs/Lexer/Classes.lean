import Stencil.Proofs.Lexer.Boundaries
/-!
# Classes of characters

The scanner goes by classes of bytes, all of them ASCII. An ASCII character is one byte and no other
character has such a byte, so that each class of bytes tells a class of characters (`Text.Tells`):
what leads a text in the one is what leads it in the other (`Text.Tells.takeWhile`).
-/

namespace Stencil
namespace Text

/-- The bytes of characters. -/
def encoded (chars : List Char) : List UInt8 := chars.flatMap String.utf8EncodeChar

/-- The bytes of a text are its characters, encoded. -/
theorem bytes_eq_encoded (text : String) : bytes text = encoded text.toList := bytes_eq text

/-- The bytes of a text made of characters are these, encoded. -/
theorem bytes_ofList (chars : List Char) : bytes (String.ofList chars) = encoded chars := by
  rw [bytes_eq_encoded, String.toList_ofList]

/-- No characters are no bytes. -/
@[simp] theorem encoded_nil : encoded [] = [] := rfl

/-- The first character is encoded before the others. -/
@[simp] theorem encoded_cons (c : Char) (chars : List Char) :
    encoded (c :: chars) = String.utf8EncodeChar c ++ encoded chars := List.flatMap_cons

/-- Characters side by side are encoded side by side. -/
@[simp] theorem encoded_append (left right : List Char) :
    encoded (left ++ right) = encoded left ++ encoded right := List.flatMap_append

/-- Characters of the same bytes are the same. -/
theorem encoded_inj {left right : List Char} : encoded left = encoded right ↔ left = right := by
  rw [← bytes_ofList, ← bytes_ofList, bytes_inj, String.ofList_inj]

/-- Characters come first where their bytes do. -/
theorem encoded_prefix_iff {inner outer : List Char} :
    encoded inner <+: encoded outer ↔ inner <+: outer := by
  refine ⟨fun ⟨more, same⟩ => isPrefix_of_bytes same, ?_⟩
  rintro ⟨more, rfl⟩
  exact ⟨encoded more, (encoded_append inner more).symm⟩

/-- A character with an ASCII byte has no other byte. -/
theorem encode_of_mem_ascii {c : Char} {b : UInt8} (member : b ∈ String.utf8EncodeChar c)
    (ascii : b < 128) : String.utf8EncodeChar c = [b] := by
  obtain ⟨before, after, encode⟩ := List.append_of_mem member
  by_cases first : before = []
  · rw [first, List.nil_append] at encode
    have width := charWidth_head encode
    rw [charWidth_of_ascii ascii, encode, List.length_cons] at width
    rw [encode, List.length_eq_zero_iff.1 (by omega : after.length = 0)]
  · exact absurd (begins_of_ascii ascii) (not_begins_within encode first)

/-- A character of one byte is the ASCII character of that number. -/
theorem eq_ofNat_of_encode {c : Char} {b : UInt8} (encode : String.utf8EncodeChar c = [b]) :
    b < 128 ∧ c = Char.ofNat b.toNat := by
  have size : c.utf8Size = 1 := by rw [← String.length_utf8EncodeChar, encode]; rfl
  have small := UInt32.le_iff_toNat_le.1 (Char.utf8Size_eq_one_iff.1 size)
  have low : c.val.toNat < 128 := Nat.lt_of_le_of_lt small (by decide)
  rw [String.utf8EncodeChar_eq_singleton size, List.cons.injEq] at encode
  have number : b.toNat = c.toNat := by
    rw [← encode.1, UInt32.toNat_toUInt8]
    exact Nat.mod_eq_of_lt (Nat.lt_trans low (by decide))
  exact ⟨UInt8.lt_iff_toNat_lt.2 (number ▸ low), by rw [number, Char.ofNat_toNat]⟩

/-- No other character has the byte of a character of one byte. -/
theorem eq_of_mem_encode {c other : Char} {b : UInt8} (encode : String.utf8EncodeChar c = [b])
    (member : b ∈ String.utf8EncodeChar other) : other = c := by
  obtain ⟨ascii, same⟩ := eq_ofNat_of_encode encode
  rw [same, (eq_ofNat_of_encode (encode_of_mem_ascii member ascii)).2]

/-- An ASCII character is its number as a byte. -/
theorem encode_of_ascii {c : Char} (ascii : c.toNat < 128) :
    ∃ b : UInt8, String.utf8EncodeChar c = [b] ∧ b < 128 := by
  have size : c.utf8Size = 1 :=
    Char.utf8Size_eq_one_iff.2 (UInt32.le_iff_toNat_le.2 (Nat.le_of_lt_succ ascii))
  refine ⟨_, String.utf8EncodeChar_eq_singleton size, ?_⟩
  rw [UInt8.lt_iff_toNat_lt, UInt32.toNat_toUInt8]
  exact Nat.lt_of_le_of_lt (Nat.mod_le _ _) ascii

/-- A class of bytes tells a class of characters: all bytes of a character are in the one exactly if
the character is in the other. -/
def Tells (ofByte : UInt8 → Bool) (ofChar : Char → Bool) : Prop :=
  ∀ c, ∀ b ∈ String.utf8EncodeChar c, ofByte b = ofChar c

/-- Where a byte or its character is ASCII the two have one number. -/
theorem toNat_of_mem {c : Char} {b : UInt8} (member : b ∈ String.utf8EncodeChar c)
    (ascii : b.toNat < 128 ∨ c.toNat < 128) : b.toNat = c.toNat := by
  have encode : String.utf8EncodeChar c = [b] := by
    rcases ascii with low | low
    · exact encode_of_mem_ascii member (UInt8.lt_iff_toNat_lt.2 low)
    · obtain ⟨other, encode, -⟩ := encode_of_ascii low
      rw [encode, List.mem_singleton] at member
      rw [member, encode]
  have valid : b.toNat.isValidChar := .inl (Nat.lt_trans b.toNat_lt (by decide))
  rw [(eq_ofNat_of_encode encode).2, Char.ofNat, dif_pos valid]
  rfl

/-- The bytes between two that are ASCII tell the characters between these. -/
theorem tells_between (low high : UInt8) (ascii : high < 128) :
    Tells (fun b => low ≤ b && b ≤ high)
      (fun c => low.toUInt32 ≤ c.val && c.val ≤ high.toUInt32) := by
  intro c b member
  have number := toNat_of_mem member
  have small : high.toNat < 128 := UInt8.lt_iff_toNat_lt.1 ascii
  rw [Bool.eq_iff_iff]
  simp only [Bool.and_eq_true, decide_eq_true_eq, UInt8.le_iff_toNat_le, UInt32.le_iff_toNat_le,
    UInt8.toNat_toUInt32, Char.toNat] at number ⊢
  omega

/-- The byte of a character tells the character. -/
theorem tells_single (code : UInt8) (c : Char) (encode : String.utf8EncodeChar c = [code]) :
    Tells (fun b => b = code) (fun other => other = c) := by
  intro other b member
  rw [decide_eq_decide]
  refine ⟨fun same => eq_of_mem_encode encode (same ▸ member), fun same => ?_⟩
  rw [same, encode] at member
  exact List.mem_singleton.1 member

/-- Two classes are told together. -/
theorem Tells.or {ofByte ofByte' : UInt8 → Bool} {ofChar ofChar' : Char → Bool}
    (one : Tells ofByte ofChar) (two : Tells ofByte' ofChar') :
    Tells (fun b => ofByte b || ofByte' b) (fun c => ofChar c || ofChar' c) := by
  intro c b member
  dsimp only
  rw [one c b member, two c b member]

/-- A class is told under a condition. -/
theorem Tells.and {ofByte : UInt8 → Bool} {ofChar : Char → Bool} (one : Tells ofByte ofChar)
    (condition : Bool) : Tells (fun b => ofByte b && condition) (fun c => ofChar c && condition) :=
  fun c b member => congrArg (· && condition) (one c b member)

section

variable {ofByte : UInt8 → Bool} {ofChar : Char → Bool} (tells : Tells ofByte ofChar)

include tells

/-- The first byte tells the class of the first character. -/
theorem Tells.head? (chars : List Char) :
    (encoded chars).head?.any ofByte = chars.head?.any ofChar := by
  cases chars with
  | nil => rfl
  | cons c chars =>
    obtain ⟨first, rest, encode, -⟩ := utf8EncodeChar_eq_cons c
    rw [encoded_cons, encode]
    exact tells c first (by rw [encode]; exact List.mem_cons_self)

/-- Characters that begin with one of a class have a first byte in the class. -/
theorem Tells.exists_cons {chars : List Char} (leads : chars.head?.any ofChar = true) :
    ∃ b rest, encoded chars = b :: rest ∧ ofByte b = true := by
  rw [← tells.head?] at leads
  cases bytes : encoded chars with
  | nil =>
    rw [bytes] at leads
    contradiction
  | cons b rest =>
    rw [bytes] at leads
    exact ⟨b, rest, rfl, leads⟩

/-- Leading bytes of a class are those of the leading characters of the class. -/
theorem Tells.takeWhile (chars : List Char) :
    (encoded chars).takeWhile ofByte = encoded (chars.takeWhile ofChar) := by
  induction chars with
  | nil => rfl
  | cons c chars ih =>
    rw [encoded_cons, List.takeWhile_cons]
    by_cases inside : ofChar c = true
    · rw [if_pos inside, encoded_cons, ← ih]
      exact List.takeWhile_append_of_pos fun b member => (tells c b member).trans inside
    · have first := tells.head? (c :: chars)
      obtain ⟨b, rest, encode, -⟩ := utf8EncodeChar_eq_cons c
      rw [encoded_cons, encode] at first
      rw [if_neg inside, encode, List.cons_append, List.takeWhile_cons_of_neg, encoded_nil]
      exact fun also => inside (first.symm.trans also)

end

end Text
end Stencil
