import Stencil.Proofs.Lexer.Classes
import Stencil.Proofs.Lexer.Table
/-!
# Lexemes

How a token of the expression language is spelled, told by its characters and by those after it and
not by the way it is scanned (`Lexeme`). The scanner reads a lexeme where one stands
(`Scan.expression_of_lexeme`); so no two lexemes stand at one place.
-/

namespace Stencil

/-! ### Spellings -/

namespace Lexeme

/-- Space within a tag: line ends too, except where the line end closes the tag. -/
def isSpace (mode : Mode) (c : Char) : Bool :=
  c = ' ' || c = '\t' || c = '\r' || (c = '\n' && mode ≠ .lineStatement)

/-- A character that a word may begin with. -/
def startsName (c : Char) : Bool := c.isAlpha || c = '_'

/-- A character that a word may go on with. -/
def inName (c : Char) : Bool := c.isAlphanum || c = '_'

/-- The characters do not begin with one of a class. -/
def Stops (ofChar : Char → Bool) (after : List Char) : Prop := after.head?.any ofChar = false

/-- The inside of a string literal: characters other than its quote and the backslash, and
backslashes, each with the character it takes. So no quote in it is unescaped. -/
inductive Quoted (quote : Char) : List Char → Prop
  | nil : Quoted quote []
  | plain {c : Char} {rest : List Char} (other : c ≠ quote) (solid : c ≠ '\\')
    (further : Quoted quote rest) : Quoted quote (c :: rest)
  | escaped (c : Char) {rest : List Char} (further : Quoted quote rest) :
    Quoted quote ('\\' :: c :: rest)

end Lexeme

open Lexeme in
/-- The kind, the characters, and what comes after them where a token of the expression language is
spelled in full: it goes on as far as its kind allows. -/
inductive Lexeme (mode : Mode) : TokenKind → (text after : List Char) → Prop
  | space {text after : List Char} (some : text ≠ []) (blank : ∀ c ∈ text, isSpace mode c = true)
    (stops : Stops (isSpace mode) after) : Lexeme mode .whitespace text after
  /-- Digits, and no point with a digit behind it. -/
  | integer {text after : List Char} (some : text ≠ []) (digits : ∀ c ∈ text, c.isDigit = true)
    (stops : Stops Char.isDigit after)
    (whole : ∀ fraction, after = '.' :: fraction → Stops Char.isDigit fraction) :
    Lexeme mode (.literal .integer) text after
  | float {whole fraction after : List Char} (some : whole ≠ []) (more : fraction ≠ [])
    (digits : ∀ c ∈ whole, c.isDigit = true) (decimals : ∀ c ∈ fraction, c.isDigit = true)
    (stops : Stops Char.isDigit after) :
    Lexeme mode (.literal .float) (whole ++ '.' :: fraction) after
  /-- A reserved word has a kind of its own, and any other is a name. -/
  | word {first : Char} {text after : List Char} (starts : startsName first = true)
    (goes : ∀ c ∈ text, inName c = true) (stops : Stops inName after) :
    Lexeme mode ((TokenKind.ofWord? (String.ofList (first :: text))).getD .identifier)
      (first :: text) after
  /-- A string up to the first of its quotes that is unescaped. -/
  | string {quote : Char} {body after : List Char} (isQuote : quote = '"' ∨ quote = '\'')
    (inside : Quoted quote body) : Lexeme mode (.literal .string) (quote :: (body ++ [quote])) after
  /-- A string that no quote ends goes up to the end, where a backslash may have nothing to take. -/
  | unclosed {quote : Char} {body : List Char} (isQuote : quote = '"' ∨ quote = '\'')
    (inside : Quoted quote body) (last : List Char) (least : last = [] ∨ last = ['\\']) :
    Lexeme mode (.literal .string) (quote :: (body ++ last)) []
  | pair {entry : String × Operator} (listed : entry ∈ Operator.pairs) {after : List Char} :
    Lexeme mode (.operator entry.2) entry.1.toList after
  /-- An operator or a separator of one character, with which none of two begins. -/
  | mark {c : Char} {kind : TokenKind} (listed : TokenKind.ofMark? c = some kind)
    {after : List Char} (single : ∀ entry ∈ Operator.pairs, ¬entry.1.toList <+: c :: after) :
    Lexeme mode kind [c] after

namespace Lexeme

open Text

variable {mode : Mode} {kind : TokenKind} {text after : List Char}

/-- A lexeme has a character. -/
theorem ne_nil (lexeme : Lexeme mode kind text after) : text ≠ [] := by
  cases lexeme with
  | space some => exact some
  | integer some => exact some
  | float some => exact List.append_ne_nil_of_left_ne_nil some _
  | pair listed =>
    have solid : ∀ entry ∈ Operator.pairs, entry.1.toList ≠ [] := by decide
    exact solid _ listed
  | _ => exact List.cons_ne_nil _ _

/-! ### Classes -/

/-- The bytes of white space tell the characters. -/
theorem tells_space (mode : Mode) : Tells (Scan.isTagSpace mode) (isSpace mode) :=
  (((tells_single 32 ' ' rfl).or (tells_single 9 '\t' rfl)).or (tells_single 13 '\r' rfl)).or
    ((tells_single 10 '\n' rfl).and (mode ≠ .lineStatement))

/-- The bytes of digits tell the characters. -/
theorem tells_digit : Tells Scan.isDigit Char.isDigit := tells_between 48 57 (by decide)

/-- The bytes of letters tell the characters. -/
theorem tells_letter : Tells Scan.isLetter Char.isAlpha := by
  have upper : Tells (fun b => 65 ≤ b && b ≤ 90) Char.isUpper := fun c b member =>
    (tells_between 65 90 (by decide) c b member).trans (Bool.decide_and _ _).symm
  exact upper.or (tells_between 97 122 (by decide))

/-- The bytes that start a word tell the characters that start a name. -/
theorem tells_start : Tells Scan.startsWord startsName := tells_letter.or (tells_single 95 '_' rfl)

/-- The bytes inside a word tell the characters inside a name. -/
theorem tells_name : Tells Scan.inWord inName :=
  (tells_letter.or tells_digit).or (tells_single 95 '_' rfl)

/-- A digit is encoded by one byte. -/
theorem ascii_of_isDigit {c : Char} (digit : c.isDigit = true) : c.toNat < 128 := by
  simp only [Char.isDigit, Bool.and_eq_true, decide_eq_true_eq, UInt32.le_iff_toNat_le] at digit
  exact Nat.lt_of_le_of_lt digit.2 (by decide)

/-- The letters of words are ASCII. -/
theorem ascii_of_isAlpha {c : Char} (letter : c.isAlpha = true) : c.toNat < 128 := by
  unfold Char.isAlpha Char.isUpper Char.isLower at letter
  simp only [Bool.or_eq_true, Bool.and_eq_true, decide_eq_true_eq, ge_iff_le,
    UInt32.le_iff_toNat_le] at letter
  rcases letter with upper | lower
  · exact Nat.lt_of_le_of_lt upper.2 (by decide)
  · exact Nat.lt_of_le_of_lt lower.2 (by decide)

/-- A character of a name is encoded by one byte. -/
theorem ascii_of_inName {c : Char} (inside : inName c = true) : c.toNat < 128 := by
  simp only [inName, Char.isAlphanum, Bool.or_eq_true, decide_eq_true_eq] at inside
  rcases inside with (letter | digit) | rfl
  · exact ascii_of_isAlpha letter
  · exact ascii_of_isDigit digit
  · decide

/-- A run of a class that stops is what leads in the class. -/
theorem takeWhile_of_stops {ofChar : Char → Bool} (inside : ∀ c ∈ text, ofChar c = true)
    (stops : Stops ofChar after) : (text ++ after).takeWhile ofChar = text := by
  rw [List.takeWhile_append_of_pos inside]
  cases after with
  | nil => rw [List.takeWhile_nil, List.append_nil]
  | cons c after =>
    rw [List.takeWhile_cons_of_neg (by simpa [Stops] using stops), List.append_nil]

/-- The bytes of such a run are what the scanner counts. -/
theorem spanOf_of_stops {ofByte : UInt8 → Bool} {ofChar : Char → Bool} (tells : Tells ofByte ofChar)
    (inside : ∀ c ∈ text, ofChar c = true) (stops : Stops ofChar after) :
    Scan.spanOf ofByte (encoded (text ++ after)) = (encoded text).length := by
  rw [Scan.spanOf, tells.takeWhile, takeWhile_of_stops inside stops]

/-- What begins with a run of a class begins with one of the class. -/
theorem leads_of_run {ofChar : Char → Bool} (some : text ≠ [])
    (inside : ∀ c ∈ text, ofChar c = true) : (text ++ after).head?.any ofChar = true := by
  obtain ⟨first, rest, rfl⟩ := List.exists_cons_of_ne_nil some
  exact inside first List.mem_cons_self

/-- A mark is an ASCII character and no space. -/
theorem solid_of_ofMark? {c : Char} (listed : TokenKind.ofMark? c = some kind) :
    c.toNat < 128 ∧ isSpace mode c = false := by
  refine ⟨Scan.ascii_of_ofMark? listed, ?_⟩
  unfold TokenKind.ofMark? at listed
  split at listed
  all_goals first | contradiction | cases mode <;> decide

/-- An operator of two characters does not begin with space. -/
theorem not_isSpace_of_pair {entry : String × Operator} (listed : entry ∈ Operator.pairs) :
    (entry.1.toList ++ after).head?.any (isSpace mode) = false := by
  simp only [Operator.pairs, List.mem_cons, List.not_mem_nil, or_false] at listed
  rcases listed with rfl | rfl | rfl | rfl | rfl | rfl <;> cases mode <;> rfl

end Lexeme

/-! ### Reading a lexeme -/

namespace Scan

open Text Lexeme

variable {mode : Mode} {kind : TokenKind} {text after : List Char}

/-- A byte that is no space and no mark and begins no operator of two characters. -/
def isSolid (b : UInt8) : Bool :=
  !isInlineSpace b && b ≠ lineFeed && (TokenKind.ofMark? (Char.ofNat b.toNat)).isNone &&
    pairMarks.all fun entry => entry.1.head? ≠ some b

/-- What such a byte begins is told by the byte alone. -/
theorem expression_of_isSolid {b : UInt8} (solid : isSolid b = true) (mode : Mode)
    (rawPending : Bool) (tail : List UInt8) :
    expression mode rawPending (b :: tail) =
      if b = 34 || b = 39 then ⟨.literal .string, stringFrom b 0 1 tail, mode, rawPending⟩
      else if isDigit b then number mode rawPending (b :: tail)
      else if startsWord b then word mode rawPending (b :: tail)
      else ⟨.badCharacter, min (charWidth b) (b :: tail).length, mode, rawPending⟩ := by
  simp only [isSolid, Bool.and_eq_true, Bool.not_eq_true', decide_eq_true_eq,
    Option.isNone_iff_eq_none, List.all_eq_true] at solid
  obtain ⟨⟨⟨inline, feed⟩, noMark⟩, noPair⟩ := solid
  have space : ¬isTagSpace mode b = true := by simp [isTagSpace, inline, feed]
  have alone : pairOperator? (b :: tail) = none := by
    rw [pairOperator?, Option.map_eq_none_iff, List.find?_eq_none]
    intro entry listed leading
    obtain ⟨first, rest, spelled⟩ := List.exists_cons_of_length_eq_add_one
      (length_of_pairMarks entry listed)
    rw [spelled, List.isPrefixOf_iff_prefix, List.cons_prefix_cons] at leading
    exact noPair entry listed (by rw [spelled, leading.1]; rfl)
  rw [expression, if_neg space, alone]
  dsimp only
  rw [noMark]

/-- No operator of two characters is read exactly if none leads. -/
theorem pairOperator?_eq_none_iff (chars : List Char) :
    pairOperator? (encoded chars) = none ↔ ∀ entry ∈ Operator.pairs, ¬entry.1.toList <+: chars := by
  rw [pairOperator?, Option.map_eq_none_iff, List.find?_eq_none, pairMarks, List.forall_mem_map]
  refine forall₂_congr fun entry _ => ?_
  rw [List.isPrefixOf_iff_prefix, bytes_eq_encoded, encoded_prefix_iff]

/-- An operator of two characters is read where it leads. -/
theorem pairOperator?_of_mem {entry : String × Operator} (listed : entry ∈ Operator.pairs)
    (after : List Char) : pairOperator? (encoded (entry.1.toList ++ after)) = some entry.2 := by
  have functional : ∀ one ∈ Operator.pairs, ∀ other ∈ Operator.pairs, one.1 = other.1 →
      one.2 = other.2 := by decide
  have member : (bytes entry.1, entry.2) ∈ pairMarks := List.mem_map.2 ⟨entry, listed, rfl⟩
  have leading : bytes entry.1 <+: encoded (entry.1.toList ++ after) := by
    rw [bytes_eq_encoded, encoded_append]
    exact List.prefix_append _ _
  cases found : pairMarks.find? fun other =>
      other.1.isPrefixOf (encoded (entry.1.toList ++ after)) with
  | none =>
    rw [List.find?_eq_none] at found
    exact absurd (List.isPrefixOf_iff_prefix.2 leading) (found _ member)
  | some other =>
    have also := List.mem_of_find?_eq_some found
    have begins : other.1 <+: encoded (entry.1.toList ++ after) :=
      List.isPrefixOf_iff_prefix.1 (by simpa using List.find?_some found)
    have lengths := (length_of_pairMarks _ member).trans (length_of_pairMarks _ also).symm
    have same : bytes entry.1 = other.1 :=
      (List.prefix_of_prefix_length_le leading begins
        (Nat.le_of_eq lengths)).eq_of_length lengths
    obtain ⟨other, among, rfl⟩ := List.mem_map.1 also
    rw [pairOperator?, found, Option.map_some,
      functional entry listed other among (bytes_inj.1 same)]

/-- The rest of a string literal is looked at behind bytes that neither end it nor escape. -/
theorem stringFrom_plain {quote : UInt8} {plain : List UInt8}
    (other : ∀ b ∈ plain, b ≠ quote ∧ b ≠ 92) (count : Nat) (rest : List UInt8) :
    stringFrom quote 0 count (plain ++ rest) = stringFrom quote 0 (count + plain.length) rest := by
  induction plain generalizing count with
  | nil => rfl
  | cons b plain ih =>
    obtain ⟨notQuote, solid⟩ := other b List.mem_cons_self
    rw [List.cons_append, stringFrom, if_neg notQuote, if_neg solid,
      ih (fun b listed => other b (List.mem_cons_of_mem _ listed)), List.length_cons]
    congr 1
    omega

/-- It is looked at behind the bytes that a backslash takes. -/
theorem stringFrom_taken (quote : UInt8) (taken : List UInt8) (count : Nat) (rest : List UInt8) :
    stringFrom quote taken.length count (taken ++ rest) =
      stringFrom quote 0 (count + taken.length) rest := by
  induction taken generalizing count with
  | nil => rfl
  | cons b taken ih =>
    rw [List.cons_append, List.length_cons, stringFrom, ih]
    congr 1
    omega

/-- The inside of a string literal is passed over. -/
theorem stringFrom_of_quoted {quote : Char} {code : UInt8}
    (single : String.utf8EncodeChar quote = [code]) (solid : code ≠ 92) {body : List Char}
    (inside : Quoted quote body) (count : Nat) (rest : List UInt8) :
    stringFrom code 0 count (encoded body ++ rest) =
      stringFrom code 0 (count + (encoded body).length) rest := by
  have backslash : String.utf8EncodeChar '\\' = [92] := rfl
  induction inside generalizing count with
  | nil => rfl
  | @plain c further other plain _ ih =>
    have bytes (b : UInt8) (member : b ∈ String.utf8EncodeChar c) : b ≠ code ∧ b ≠ 92 :=
      ⟨fun same => other (eq_of_mem_encode single (same ▸ member)),
        fun same => plain (eq_of_mem_encode backslash (same ▸ member))⟩
    rw [encoded_cons, List.append_assoc, stringFrom_plain bytes, ih, List.length_append,
      Nat.add_assoc]
  | @escaped c further _ ih =>
    obtain ⟨first, more, encode, -⟩ := utf8EncodeChar_eq_cons c
    have width := charWidth_head encode
    rw [encoded_cons, encoded_cons, backslash, List.singleton_append, List.cons_append, stringFrom,
      if_neg (Ne.symm solid), if_pos rfl, List.append_assoc]
    have taken : (((String.utf8EncodeChar c ++ (encoded further ++ rest)).head?.map
        charWidth).getD 0) = (String.utf8EncodeChar c).length := by
      rw [encode, List.cons_append, List.head?_cons, Option.map_some, Option.getD_some, width,
        encode]
    rw [taken, stringFrom_taken, ih, List.length_cons, List.length_append]
    congr 1
    omega

/-- A point is one byte. -/
theorem encode_point : String.utf8EncodeChar '.' = [46] := rfl

/-- Digits that no fraction follows are an integer. -/
theorem number_of_integer (digits : ∀ c ∈ text, c.isDigit = true) (stops : Stops Char.isDigit after)
    (whole : ∀ fraction, after = '.' :: fraction → Stops Char.isDigit fraction) (mode : Mode)
    (rawPending : Bool) : number mode rawPending (encoded (text ++ after)) =
      ⟨.literal .integer, (encoded text).length, mode, rawPending⟩ := by
  have left : (encoded (text ++ after)).drop (encoded text).length = encoded after := by
    rw [encoded_append, List.drop_left]
  rw [number, spanOf_of_stops tells_digit digits stops, left]
  cases after with
  | nil => rfl
  | cons c after =>
    obtain ⟨first, rest, encode, -⟩ := utf8EncodeChar_eq_cons c
    rw [encoded_cons, encode, List.cons_append]
    dsimp only
    rw [if_neg]
    intro decimal
    rw [Bool.and_eq_true, decide_eq_true_eq] at decimal
    obtain ⟨rfl, digit⟩ := decimal
    have member : 46 ∈ String.utf8EncodeChar c := by rw [encode]; exact List.mem_cons_self
    obtain rfl : c = '.' := eq_of_mem_encode encode_point member
    rw [encode_point, List.cons.injEq] at encode
    rw [← encode.2, List.nil_append, tells_digit.head?, whole after rfl] at digit
    contradiction

/-- Digits, a point and digits are a number with a fraction. -/
theorem number_of_float {fraction : List Char} (digits : ∀ c ∈ text, c.isDigit = true)
    (more : fraction ≠ []) (decimals : ∀ c ∈ fraction, c.isDigit = true)
    (stops : Stops Char.isDigit after) (mode : Mode) (rawPending : Bool) :
    number mode rawPending (encoded ((text ++ '.' :: fraction) ++ after)) =
      ⟨.literal .float, (encoded (text ++ '.' :: fraction)).length, mode, rawPending⟩ := by
  have ends : Stops Char.isDigit ('.' :: (fraction ++ after)) := rfl
  have split : (text ++ '.' :: fraction) ++ after = text ++ '.' :: (fraction ++ after) := by simp
  have left : (encoded (text ++ '.' :: (fraction ++ after))).drop (encoded text).length =
      46 :: encoded (fraction ++ after) := by
    rw [encoded_append, List.drop_left, encoded_cons, encode_point, List.singleton_append]
  have digit : (encoded (fraction ++ after)).head?.any isDigit = true := by
    obtain ⟨first, rest, rfl⟩ := List.exists_cons_of_ne_nil more
    rw [tells_digit.head?]
    exact decimals first List.mem_cons_self
  rw [split, number, spanOf_of_stops tells_digit digits ends, left]
  dsimp only
  rw [if_pos (by rw [digit]; rfl), spanOf_of_stops tells_digit decimals stops, encoded_append,
    encoded_cons, encode_point, List.length_append, List.singleton_append, List.length_cons]
  congr 1
  omega

/-- ASCII bytes are those of their text. -/
theorem asciiText_encoded {chars : List Char} (ascii : ∀ c ∈ chars, c.toNat < 128) :
    asciiText (encoded chars) = String.ofList chars := by
  rw [asciiText, String.ofList_inj]
  induction chars with
  | nil => rfl
  | cons c chars ih =>
    obtain ⟨b, encode, -⟩ := encode_of_ascii (ascii c List.mem_cons_self)
    rw [encoded_cons, encode, List.singleton_append, List.map_cons, ← (eq_ofNat_of_encode encode).2,
      ih fun c listed => ascii c (List.mem_cons_of_mem _ listed)]

/-- A word is read as what it is reserved for, or as a name. -/
theorem word_of_stops {first : Char} (starts : startsName first = true)
    (goes : ∀ c ∈ text, inName c = true) (stops : Stops inName after) (mode : Mode)
    (rawPending : Bool) :
    (word mode rawPending (encoded (first :: text ++ after))).kind =
        (TokenKind.ofWord? (String.ofList (first :: text))).getD .identifier ∧
      (word mode rawPending (encoded (first :: text ++ after))).width =
        (encoded (first :: text)).length := by
  have inside : ∀ c ∈ first :: text, inName c = true := by
    intro c listed
    rcases List.mem_cons.1 listed with rfl | later
    · simp only [startsName, Bool.or_eq_true] at starts
      simp only [inName, Char.isAlphanum, Bool.or_eq_true]
      exact starts.imp_left .inl
    · exact goes c later
  have spelled : (encoded (first :: text ++ after)).takeWhile inWord = encoded (first :: text) := by
    rw [tells_name.takeWhile, takeWhile_of_stops inside stops]
  refine ⟨?_, by rw [← spelled]; rfl⟩
  rw [← asciiText_encoded fun c listed => ascii_of_inName (inside c listed), ← spelled]
  rfl

/-- Digits, letters and quotes are solid, and no byte is two of these. -/
theorem solid_classes (b : UInt8) :
    (isDigit b = true → isSolid b = true ∧ ¬(b = 34 || b = 39) = true) ∧
      (startsWord b = true → isSolid b = true ∧ ¬(b = 34 || b = 39) = true ∧ ¬isDigit b = true) ∧
        ((b = 34 || b = 39) = true → isSolid b = true) := by
  have each : ∀ n < 256, let b := UInt8.ofNat n
      (isDigit b = true → isSolid b = true ∧ ¬(b = 34 || b = 39) = true) ∧
        (startsWord b = true → isSolid b = true ∧ ¬(b = 34 || b = 39) = true ∧ ¬isDigit b = true) ∧
          ((b = 34 || b = 39) = true → isSolid b = true) := by decide +kernel
  have told := each b.toNat b.toNat_lt
  rwa [UInt8.ofNat_toNat] at told

/-- A digit begins a number. -/
theorem expression_of_isDigit {b : UInt8} (digit : isDigit b = true) (mode : Mode)
    (rawPending : Bool) (tail : List UInt8) :
    expression mode rawPending (b :: tail) = number mode rawPending (b :: tail) := by
  obtain ⟨solid, noQuote⟩ := (solid_classes b).1 digit
  rw [expression_of_isSolid solid, if_neg noQuote, if_pos digit]

/-- A letter begins a word. -/
theorem expression_of_startsWord {b : UInt8} (letter : startsWord b = true) (mode : Mode)
    (rawPending : Bool) (tail : List UInt8) :
    expression mode rawPending (b :: tail) = word mode rawPending (b :: tail) := by
  obtain ⟨solid, noQuote, noDigit⟩ := (solid_classes b).2.1 letter
  rw [expression_of_isSolid solid, if_neg noQuote, if_neg noDigit, if_pos letter]

/-- The byte of a quote. -/
theorem exists_code {quote : Char} (isQuote : quote = '"' ∨ quote = '\'') :
    ∃ code : UInt8, String.utf8EncodeChar quote = [code] ∧ (code = 34 ∨ code = 39) := by
  rcases isQuote with rfl | rfl
  · exact ⟨34, rfl, .inl rfl⟩
  · exact ⟨39, rfl, .inr rfl⟩

/-- A quote begins a string. -/
theorem expression_of_quote {code : UInt8} (isCode : code = 34 ∨ code = 39) (mode : Mode)
    (rawPending : Bool) (tail : List UInt8) : expression mode rawPending (code :: tail) =
      ⟨.literal .string, stringFrom code 0 1 tail, mode, rawPending⟩ := by
  have quote : (code = 34 || code = 39) = true := by simpa using isCode
  rw [expression_of_isSolid ((solid_classes code).2.2 quote), if_pos quote]

/-- A string is read up to its quote. -/
theorem expression_of_string {quote : Char} (isQuote : quote = '"' ∨ quote = '\'')
    {body : List Char} (inside : Quoted quote body) (rawPending : Bool) :
    expression mode rawPending (encoded (quote :: (body ++ [quote]) ++ after)) =
      ⟨.literal .string, (encoded (quote :: (body ++ [quote]))).length, mode, rawPending⟩ := by
  obtain ⟨code, single, isCode⟩ := exists_code isQuote
  have solid : code ≠ 92 := by rcases isCode with rfl | rfl <;> decide
  have split : encoded (quote :: (body ++ [quote]) ++ after) =
      code :: (encoded body ++ code :: encoded after) := by simp [single]
  have width : (encoded (quote :: (body ++ [quote]))).length = 1 + (encoded body).length + 1 := by
    simp [single]
    omega
  rw [split, expression_of_quote isCode, stringFrom_of_quoted single solid inside, stringFrom,
    if_pos rfl, width]

/-- A string that no quote ends is read up to the end. -/
theorem expression_of_unclosed {quote : Char} (isQuote : quote = '"' ∨ quote = '\'')
    {body last : List Char} (inside : Quoted quote body) (least : last = [] ∨ last = ['\\'])
    (rawPending : Bool) : expression mode rawPending (encoded (quote :: (body ++ last))) =
      ⟨.literal .string, (encoded (quote :: (body ++ last))).length, mode, rawPending⟩ := by
  obtain ⟨code, single, isCode⟩ := exists_code isQuote
  have solid : code ≠ 92 := by rcases isCode with rfl | rfl <;> decide
  have split : encoded (quote :: (body ++ last)) = code :: (encoded body ++ encoded last) := by
    simp [single]
  have ends (count : Nat) : stringFrom code 0 count (encoded last) =
      count + (encoded last).length := by
    rcases least with rfl | rfl
    · rfl
    · have backslash : encoded ['\\'] = [92] := rfl
      rw [backslash, stringFrom, if_neg (Ne.symm solid), if_pos rfl, stringFrom]
      rfl
  rw [split, expression_of_quote isCode, stringFrom_of_quoted single solid inside, ends,
    List.length_cons, List.length_append]
  congr 1
  omega

/-- An operator of two characters is read where it leads. -/
theorem expression_of_pair {entry : String × Operator} (listed : entry ∈ Operator.pairs)
    (rawPending : Bool) : expression mode rawPending (encoded (entry.1.toList ++ after)) =
      ⟨.operator entry.2, (encoded entry.1.toList).length, mode, rawPending⟩ := by
  have width : ∀ entry ∈ Operator.pairs, (encoded entry.1.toList).length = 2 := by decide
  have outside := (tells_space mode).head? (entry.1.toList ++ after)
  have found := pairOperator?_of_mem listed after
  rw [not_isSpace_of_pair listed] at outside
  rw [width entry listed]
  cases bytes : encoded (entry.1.toList ++ after) with
  | nil =>
    have size := congrArg List.length bytes
    rw [encoded_append, List.length_append, width entry listed, List.length_nil] at size
    omega
  | cons b rest =>
    rw [bytes] at outside found
    have space : ¬isTagSpace mode b = true := ne_true_of_eq_false outside
    rw [expression, if_neg space, found]

/-- A mark is read where no operator of two characters begins with it. -/
theorem expression_of_mark {c : Char} (listed : TokenKind.ofMark? c = some kind)
    (single : ∀ entry ∈ Operator.pairs, ¬entry.1.toList <+: c :: after) (rawPending : Bool) :
    expression mode rawPending (encoded (c :: after)) =
      ⟨kind, (encoded [c]).length, mode, rawPending⟩ := by
  obtain ⟨ascii, solid⟩ := @solid_of_ofMark? mode _ _ listed
  obtain ⟨code, same, -⟩ := encode_of_ascii ascii
  have space : ¬isTagSpace mode code = true := by
    rw [tells_space mode c code (by rw [same]; exact List.mem_cons_self), solid]
    exact Bool.false_ne_true
  have alone := (pairOperator?_eq_none_iff (c :: after)).2 single
  rw [encoded_cons, same, List.singleton_append] at alone ⊢
  rw [expression, if_neg space, alone]
  dsimp only
  rw [← (eq_ofNat_of_encode same).2, listed, encoded_cons, same]
  rfl

/-- The scanner reads the lexeme that stands where it is. The word `raw` in a block tag announces
raw content. -/
theorem expression_of_lexeme (lexeme : Lexeme mode kind text after) (rawPending : Bool) :
    expression mode rawPending (encoded (text ++ after)) =
      ⟨kind, (encoded text).length, mode,
        rawPending || (kind = .keyword .rawKw && mode = .blockTag)⟩ := by
  -- The mode and the announcement are the same for all scans; the kind and the width remain.
  suffices read : (expression mode rawPending (encoded (text ++ after))).kind = kind ∧
      (expression mode rawPending (encoded (text ++ after))).width = (encoded text).length by
    have stays := expression_mode mode rawPending (encoded (text ++ after))
    have announces := expression_announces mode rawPending (encoded (text ++ after))
    generalize expression mode rawPending (encoded (text ++ after)) = scan at read stays announces ⊢
    obtain ⟨scanned, width, onward, pending⟩ := scan
    rw [read.1] at announces
    rw [mk.injEq]
    exact ⟨read.1, read.2, stays, announces⟩
  cases lexeme with
  | space some blank stops =>
    obtain ⟨b, rest, bytes, space⟩ := (tells_space mode).exists_cons (leads_of_run some blank)
    rw [← spanOf_of_stops (tells_space mode) blank stops, bytes, expression, if_pos space]
    exact ⟨rfl, rfl⟩
  | integer some digits stops whole =>
    obtain ⟨b, rest, bytes, digit⟩ := tells_digit.exists_cons (leads_of_run some digits)
    rw [bytes, expression_of_isDigit digit, ← bytes, number_of_integer digits stops whole]
    exact ⟨rfl, rfl⟩
  | float some more digits decimals stops =>
    obtain ⟨b, rest, bytes, digit⟩ := tells_digit.exists_cons (leads_of_run some digits)
    rw [← List.append_assoc] at bytes
    rw [bytes, expression_of_isDigit digit, ← bytes, number_of_float digits more decimals stops]
    exact ⟨rfl, rfl⟩
  | @word first text _ starts goes stops =>
    have leads : (first :: text ++ after).head?.any startsName = true := starts
    obtain ⟨b, rest, bytes, letter⟩ := tells_start.exists_cons leads
    rw [bytes, expression_of_startsWord letter, ← bytes]
    exact word_of_stops starts goes stops mode rawPending
  | string isQuote inside =>
    rw [expression_of_string isQuote inside]
    exact ⟨rfl, rfl⟩
  | unclosed isQuote inside last least =>
    rw [List.append_nil, expression_of_unclosed isQuote inside least]
    exact ⟨rfl, rfl⟩
  | pair listed =>
    rw [expression_of_pair listed]
    exact ⟨rfl, rfl⟩
  | mark listed single =>
    rw [List.singleton_append, expression_of_mark listed single]
    exact ⟨rfl, rfl⟩

end Scan
end Stencil
