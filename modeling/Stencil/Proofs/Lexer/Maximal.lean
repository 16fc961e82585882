import Stencil.Proofs.Lexer.Lexeme
import Stencil.Proofs.Lexer.Verbatim
/-!
# Tokens within tags are lexemes

Whatever characters come next in a tag, a lexeme stands there or the first of them can begin none
(`Lexeme.Begins`); the classes of that character decide which. So every token within a tag but the
one that closes it is a lexeme of its kind, or one character that begins none
(`Lexer.readAll_lexemes`).
-/

namespace Stencil
namespace Lexeme

variable {mode : Mode} {kind : TokenKind} {text after chars : List Char}

/-- A lexeme stands at the beginning of the characters. -/
def Begins (mode : Mode) (chars : List Char) : Prop :=
  ∃ kind text after, chars = text ++ after ∧ Lexeme mode kind text after

/-- One character, at which no lexeme begins. -/
structure Stray (mode : Mode) (text after : List Char) : Prop where
  single : ∃ c, text = [c]
  idle : ¬Begins mode (text ++ after)

/-- No lexeme is of the kind of stray characters. -/
theorem ne_badCharacter (lexeme : Lexeme mode kind text after) : kind ≠ .badCharacter := by
  cases lexeme with
  | @word first text =>
    have words : ∀ entry ∈ TokenKind.words, entry.2 ≠ .badCharacter := by decide
    cases found : TokenKind.ofWord? (String.ofList (first :: text)) with
    | none => exact nofun
    | some kind =>
      obtain ⟨entry, listed, rfl⟩ := Option.map_eq_some_iff.1 found
      exact words entry (List.mem_of_find?_eq_some listed)
  | mark listed =>
    rintro rfl
    unfold TokenKind.ofMark? at listed
    split at listed <;> contradiction
  | _ => exact nofun

/-- What leads in a class, and what comes after it. -/
theorem exists_run (ofChar : Char → Bool) (chars : List Char) :
    ∃ text after, chars = text ++ after ∧ (∀ c ∈ text, ofChar c = true) ∧ Stops ofChar after := by
  refine ⟨chars.takeWhile ofChar, chars.dropWhile ofChar, List.takeWhile_append_dropWhile.symm,
    List.all_eq_true.1 List.all_takeWhile, ?_⟩
  rw [Stops]
  cases left : chars.dropWhile ofChar with
  | nil => rfl
  | cons c rest => simpa [left] using List.head_dropWhile_not ofChar (l := chars) (by simp [left])

/-- A run of a class that has the first character has a character. -/
theorem run_ne_nil {ofChar : Char → Bool} {c : Char} {rest : List Char} (inside : ofChar c = true)
    (split : c :: rest = text ++ after) (stops : Stops ofChar after) : text ≠ [] := by
  rintro rfl
  rw [List.nil_append] at split
  rw [Stops, ← split, List.head?_cons, Option.any_some, inside] at stops
  contradiction

/-- A string goes up to its first quote that is unescaped, or to the end. -/
theorem exists_quoted (quote : Char) (chars : List Char) : ∃ body, Quoted quote body ∧
    ((∃ after, chars = body ++ quote :: after) ∨ chars = body ∨ chars = body ++ ['\\']) := by
  match chars with
  | [] => exact ⟨[], .nil, .inr (.inl rfl)⟩
  | c :: rest =>
    by_cases closes : c = quote
    · exact ⟨[], .nil, .inl ⟨rest, by rw [closes]; rfl⟩⟩
    by_cases escape : c = '\\'
    · subst escape
      match rest with
      | [] => exact ⟨[], .nil, .inr (.inr rfl)⟩
      | taken :: rest =>
        obtain ⟨body, inside, ends⟩ := exists_quoted quote rest
        refine ⟨'\\' :: taken :: body, .escaped taken inside, ?_⟩
        exact ends.imp (fun ⟨after, split⟩ => ⟨after, by rw [split]; rfl⟩)
          (.imp (fun same => by rw [same]) fun same => by rw [same]; rfl)
    · obtain ⟨body, inside, ends⟩ := exists_quoted quote rest
      refine ⟨c :: body, .plain closes escape inside, ?_⟩
      exact ends.imp (fun ⟨after, split⟩ => ⟨after, by rw [split]; rfl⟩)
        (.imp (fun same => by rw [same]) fun same => by rw [same]; rfl)

/-! ### What begins a lexeme -/

/-- White space begins a lexeme. -/
theorem begins_of_isSpace {c : Char} {rest : List Char} (space : isSpace mode c = true) :
    Begins mode (c :: rest) := by
  obtain ⟨text, after, split, inside, stops⟩ := exists_run (isSpace mode) (c :: rest)
  exact ⟨_, text, after, split, .space (run_ne_nil space split stops) inside stops⟩

/-- An operator of two characters begins a lexeme. -/
theorem begins_of_pair {entry : String × Operator} (listed : entry ∈ Operator.pairs)
    (leading : entry.1.toList <+: chars) : Begins mode chars := by
  obtain ⟨after, rfl⟩ := leading
  exact ⟨_, _, after, rfl, .pair listed⟩

/-- A mark of one character begins a lexeme. -/
theorem begins_of_ofMark? {c : Char} {rest : List Char}
    (listed : TokenKind.ofMark? c = some kind) : Begins mode (c :: rest) := by
  by_cases double : ∃ entry ∈ Operator.pairs, entry.1.toList <+: c :: rest
  · obtain ⟨entry, among, leading⟩ := double
    exact begins_of_pair among leading
  · exact ⟨kind, [c], rest, rfl,
      .mark listed fun entry among leading => double ⟨entry, among, leading⟩⟩

/-- A quote begins a lexeme. -/
theorem begins_of_quote {quote : Char} {rest : List Char} (isQuote : quote = '"' ∨ quote = '\'') :
    Begins mode (quote :: rest) := by
  obtain ⟨body, inside, ⟨after, rfl⟩ | rfl | rfl⟩ := exists_quoted quote rest
  · exact ⟨_, quote :: (body ++ [quote]), after, by simp, .string isQuote inside⟩
  · exact ⟨_, quote :: (rest ++ []), [], by simp, .unclosed isQuote inside [] (.inl rfl)⟩
  · exact ⟨_, quote :: (body ++ ['\\']), [], by simp, .unclosed isQuote inside ['\\'] (.inr rfl)⟩

/-- A digit begins a lexeme. -/
theorem begins_of_isDigit {c : Char} {rest : List Char} (digit : c.isDigit = true) :
    Begins mode (c :: rest) := by
  obtain ⟨text, after, split, digits, stops⟩ := exists_run Char.isDigit (c :: rest)
  have some := run_ne_nil digit split stops
  by_cases decimal : ∃ fraction, after = '.' :: fraction ∧ ¬Stops Char.isDigit fraction
  · obtain ⟨tail, rfl, more⟩ := decimal
    obtain ⟨fraction, after, rfl, decimals, ends⟩ := exists_run Char.isDigit tail
    refine ⟨_, text ++ '.' :: fraction, after, by rw [split]; simp,
      .float some ?_ digits decimals ends⟩
    rintro rfl
    exact more ends
  · refine ⟨_, text, after, split, .integer some digits stops fun fraction same => ?_⟩
    exact Classical.byContradiction fun more => decimal ⟨fraction, same, more⟩

/-- The first character of a name begins a lexeme. -/
theorem begins_of_startsName {c : Char} {rest : List Char} (starts : startsName c = true) :
    Begins mode (c :: rest) := by
  obtain ⟨text, after, split, inside, stops⟩ := exists_run inName rest
  exact ⟨_, c :: text, after, by rw [split]; rfl, .word starts inside stops⟩

end Lexeme

/-! ### What the scanner reads -/

namespace Scan

open Text Lexeme

variable {mode : Mode}

/-- Where no lexeme begins the scanner takes one character. -/
theorem expression_of_not_begins {c : Char} {after : List Char} (idle : ¬Begins mode (c :: after))
    (rawPending : Bool) : expression mode rawPending (encoded (c :: after)) =
      ⟨.badCharacter, (String.utf8EncodeChar c).length, mode, rawPending⟩ := by
  obtain ⟨b, more, encode, -⟩ := utf8EncodeChar_eq_cons c
  have member : b ∈ String.utf8EncodeChar c := by rw [encode]; exact List.mem_cons_self
  have bytes : encoded (c :: after) = b :: (more ++ encoded after) := by
    rw [encoded_cons, encode, List.cons_append]
  have space : ¬isTagSpace mode b = true := fun space =>
    idle (begins_of_isSpace ((tells_space mode c b member).symm.trans space))
  have noPair : pairOperator? (encoded (c :: after)) = none :=
    (pairOperator?_eq_none_iff _).2 fun entry listed leading => idle (begins_of_pair listed leading)
  have noMark : TokenKind.ofMark? (Char.ofNat b.toNat) = none := by
    rw [Option.eq_none_iff_forall_ne_some]
    intro kind listed
    have low : b < 128 := by
      have small := (@solid_of_ofMark? .template _ _ listed).1
      have valid : b.toNat.isValidChar := .inl (Nat.lt_trans b.toNat_lt (by decide))
      rw [Char.ofNat, dif_pos valid] at small
      exact UInt8.lt_iff_toNat_lt.2 small
    rw [← (eq_ofNat_of_encode (encode_of_mem_ascii member low)).2] at listed
    exact idle (begins_of_ofMark? listed)
  have noQuote : ¬(b = 34 || b = 39) = true := by
    intro quote
    rw [Bool.or_eq_true, decide_eq_true_eq, decide_eq_true_eq] at quote
    apply idle
    rcases quote with rfl | rfl
    · exact begins_of_quote (.inl (eq_of_mem_encode rfl member))
    · exact begins_of_quote (.inr (eq_of_mem_encode rfl member))
  have noDigit : ¬isDigit b = true := fun digit =>
    idle (begins_of_isDigit ((tells_digit c b member).symm.trans digit))
  have noLetter : ¬startsWord b = true := fun letter =>
    idle (begins_of_startsName ((tells_start c b member).symm.trans letter))
  have width :
      min (charWidth b) (encoded (c :: after)).length = (String.utf8EncodeChar c).length := by
    rw [charWidth_head encode, encoded_cons, List.length_append]
    exact Nat.min_eq_left (Nat.le_add_right _ _)
  rw [bytes] at noPair width ⊢
  rw [expression, if_neg space, noPair]
  dsimp only
  rw [noMark]
  dsimp only
  rw [if_neg noQuote, if_neg noDigit, if_neg noLetter, width]

/-- A token of the expression language is a lexeme, or a character at which none begins. -/
theorem expression_tells {chars : List Char} (some : chars ≠ []) (mode : Mode)
    (rawPending : Bool) : ∃ text after, chars = text ++ after ∧
      (expression mode rawPending (encoded chars)).width = (encoded text).length ∧
      (Lexeme mode (expression mode rawPending (encoded chars)).kind text after ∨
        (expression mode rawPending (encoded chars)).kind = .badCharacter ∧
          Stray mode text after) := by
  by_cases begun : Begins mode chars
  · obtain ⟨kind, text, after, rfl, lexeme⟩ := begun
    rw [expression_of_lexeme lexeme]
    exact ⟨text, after, rfl, rfl, .inl lexeme⟩
  · obtain ⟨c, after, rfl⟩ := List.exists_cons_of_ne_nil some
    rw [expression_of_not_begins begun]
    refine ⟨[c], after, rfl, ?_, .inr ⟨rfl, ⟨c, rfl⟩, begun⟩⟩
    rw [encoded_cons, encoded_nil, List.append_nil]

end Scan

namespace Lexer

open Lexeme

/-- In a tag, what does not close it is a token of the expression language. -/
theorem scan_of_ne_closer {lexer : Lexer}
    (tag : lexer.mode = .blockTag ∨ lexer.mode = .variableTag ∨ lexer.mode = .lineStatement)
    (inside : lexer.mode.closer? ≠ some lexer.scan.kind) :
    ∃ pending, lexer.scan = Scan.expression lexer.mode pending lexer.rest := by
  obtain ⟨marks, rest, offset, mode, lineStart, rawPending⟩ := lexer
  rcases tag with same | same | same <;> obtain rfl : mode = _ := same
  · simp only [scan, Scan.next, Scan.blockTag] at inside ⊢
    split at inside
    · exact absurd rfl inside
    next goes => exact ⟨_, if_neg goes⟩
  · simp only [scan, Scan.next, Scan.variableTag] at inside ⊢
    split at inside
    · exact absurd rfl inside
    next goes => exact ⟨_, if_neg goes⟩
  · simp only [scan, Scan.next, Scan.lineStatement] at inside ⊢
    split at inside
    · exact absurd rfl inside
    next goes => exact ⟨_, if_neg goes⟩

/-- What is left of a range between boundaries is a text, and so are a token and what comes after
it. -/
theorem bytes_current {source : String} {start stop : Nat} {mode : Mode} {d : Delimiters}
    (begins : (⟨start⟩ : String.Pos.Raw).IsValid source)
    (ends : (⟨stop⟩ : String.Pos.Raw).IsValid source) {place : Nat}
    (some : ((ofRange source start stop mode d).ahead place).rest ≠ []) :
    let lexer := (ofRange source start stop mode d).ahead place
    lexer.rest = Text.bytes (Text.slice source lexer.offset stop) ∧
      Text.bytes (lexer.current.token.text source) = lexer.rest.take lexer.scan.width ∧
      Text.bytes (Text.slice source lexer.current.token.stop stop) =
        lexer.rest.drop lexer.scan.width := by
  intro lexer
  have inside : stop ≤ source.utf8ByteSize := ends.le_rawEndPos
  have forward : start ≤ stop := by
    have length := length_rest_ofRange source start stop mode d
    have first := List.length_pos_iff.2 (rest_ne_nil_mono (Nat.zero_le place) some)
    rw [ahead, length] at first
    omega
  have offset : (ofRange source start stop mode d).offset = start := by
    rw [ofRange, Nat.min_eq_left inside, Nat.min_eq_left forward]
  have total : lexer.offset + lexer.rest.length = stop := by
    rw [offset_add_length_ahead, length_rest_ofRange, offset]
    omega
  have fits := (scan_fits some).2
  have here : (⟨lexer.offset⟩ : String.Pos.Raw).IsValid source :=
    isValid_offset_ahead mode d begins ends place
  have there : (⟨lexer.offset + lexer.scan.width⟩ : String.Pos.Raw).IsValid source := by
    have further := isValid_offset_ahead mode d begins ends (place + 1)
    rwa [ahead, step_of_some some] at further
  have left : lexer.rest = ((Text.bytes source).drop lexer.offset).take (stop - lexer.offset) := by
    rw [← List.drop_take]
    exact rest_ofRange_ahead mode d forward inside place
  have order : lexer.offset ≤ stop := by omega
  have within : lexer.offset + lexer.scan.width ≤ stop := by
    have most : lexer.scan.width ≤ lexer.rest.length := fits
    omega
  refine ⟨by rw [Text.bytes_slice order here ends, left], ?_, ?_⟩
  · rw [Token.text, current, Text.bytes_slice (Nat.le_add_right _ _) here there, left,
      List.take_take, Nat.add_sub_cancel_left, Nat.min_eq_left (by omega)]
  · rw [current, Text.bytes_slice within there ends, left, List.drop_take, List.drop_drop,
      Nat.sub_sub]

/-- Every token within a tag other than the one that closes it is spelled as a lexeme of its kind,
as far as that goes before the end of the range, or is one character at which no lexeme begins. -/
theorem readAll_lexemes (source : String) {start stop : Nat} (mode : Mode) (d : Delimiters)
    (begins : (⟨start⟩ : String.Pos.Raw).IsValid source)
    (ends : (⟨stop⟩ : String.Pos.Raw).IsValid source) :
    ∀ lexed ∈ (ofRange source start stop mode d).readAll.1,
      lexed.mode = .blockTag ∨ lexed.mode = .variableTag ∨ lexed.mode = .lineStatement →
      lexed.mode.closer? ≠ some lexed.token.kind →
      let text := (lexed.token.text source).toList
      let after := (Text.slice source lexed.token.stop stop).toList
      (lexed.token.kind ≠ .badCharacter → Lexeme lexed.mode lexed.token.kind text after) ∧
        (lexed.token.kind = .badCharacter → Stray lexed.mode text after) := by
  intro lexed listed tag inside
  obtain ⟨place, found⟩ := Array.getElem?_of_mem listed
  rw [getElem?_readAll, token?] at found
  split at found
  · contradiction
  next some =>
    have some : ((ofRange source start stop mode d).ahead place).rest ≠ [] := by simpa using some
    obtain ⟨left, taken, further⟩ := bytes_current begins ends some
    obtain rfl := Option.some.inj found
    generalize (ofRange source start stop mode d).ahead place = lexer at *
    obtain ⟨pending, scanned⟩ := scan_of_ne_closer tag inside
    rw [Text.bytes_eq_encoded] at left taken further
    have solid : (Text.slice source lexer.offset stop).toList ≠ [] := by
      intro empty
      rw [empty] at left
      exact some left
    obtain ⟨text, after, split, width, told⟩ := Scan.expression_tells solid lexer.mode pending
    rw [← left, ← scanned] at width told
    have first : (lexer.current.token.text source).toList = text := by
      rw [left, split, Text.encoded_append, width, List.take_left, Text.encoded_inj] at taken
      exact taken
    have second : (Text.slice source lexer.current.token.stop stop).toList = after := by
      rw [left, split, Text.encoded_append, width, List.drop_left, Text.encoded_inj] at further
      exact further
    rw [first, second]
    exact ⟨fun other => told.resolve_right fun bad => other bad.1,
      fun bad => (told.resolve_left fun lexeme => lexeme.ne_badCharacter bad).2⟩

/-- A number with a fraction, behind which a point begins no second one, and an exclamation mark
that no equals sign follows. -/
theorem readAll_lexemes_point :
    let source := "\x7b\x7b 1.2.x!é\x7d\x7d"
    let lexed := (ofRange source 2 13 .variableTag {}).readAll.1
    let number : Lexed := ⟨⟨.literal .float, 3, 6⟩, .variableTag⟩
    let mark : Lexed := ⟨⟨.badCharacter, 8, 9⟩, .variableTag⟩
    (⟨2⟩ : String.Pos.Raw).IsValid source ∧ (⟨13⟩ : String.Pos.Raw).IsValid source ∧
      number ∈ lexed ∧
      Lexeme .variableTag (.literal .float) "1.2".toList ".x!é\x7d\x7d".toList ∧
      mark ∈ lexed ∧ Stray .variableTag "!".toList "é\x7d\x7d".toList := by
  intro source lexed number mark
  have begins : (⟨2⟩ : String.Pos.Raw).IsValid source := by decide
  have ends : (⟨13⟩ : String.Pos.Raw).IsValid source := by decide
  have first : number ∈ lexed := by decide +kernel
  have second : mark ∈ lexed := by decide +kernel
  have read := readAll_lexemes source .variableTag {} begins ends
  refine ⟨begins, ends, first, ?_, second, ?_⟩
  · have lexeme := (read number first (.inr (.inl rfl)) (by decide)).1 (by decide)
    rwa [show (number.token.text source).toList = "1.2".toList by decide,
      show (Text.slice source number.token.stop 13).toList = ".x!é\x7d\x7d".toList by
        decide] at lexeme
  · have stray := (read mark second (.inr (.inl rfl)) (by decide)).2 rfl
    rwa [show (mark.token.text source).toList = "!".toList by decide,
      show (Text.slice source mark.token.stop 13).toList = "é\x7d\x7d".toList by
        decide] at stray

end Lexer
end Stencil
