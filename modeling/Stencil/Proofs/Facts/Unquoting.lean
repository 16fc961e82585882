import Stencil.Facts.Mention
import Stencil.Proofs.Lexer.Maximal
import Stencil.Proofs.Lexer.Table
/-!
# Quotes of string literals

The scanner ends a string literal at its first unescaped quote. Taking the quotes off looks at the
first and the last character only. The two agree but for literals that nothing ends and that end in
an escaped quote (`TokenStream.ofSource_unquotes`): such a literal loses that quote
(`TokenStream.unquote_escaped`).
-/

namespace Stencil
namespace Lexeme

variable {quote : Char} {inner : List Char}

/-- Behind the opening quote, an unescaped quote comes last and is the only one. -/
def Closed (quote : Char) (inner : List Char) : Prop :=
  ∃ body, inner = body ++ [quote] ∧ Quoted quote body

/-- Behind the opening quote no quote is unescaped. A backslash at the end may have nothing to
take. -/
def Unclosed (quote : Char) (inner : List Char) : Prop :=
  Quoted quote inner ∨ ∃ body, inner = body ++ ['\\'] ∧ Quoted quote body

/-- The last character is a quote that a backslash takes. -/
def EndsEscaped (quote : Char) (inner : List Char) : Prop :=
  ∃ body, inner = body ++ ['\\', quote] ∧ Quoted quote body

/-- What is left without the quotes that the scanner saw: the opening one is gone, and the last
character exactly if it closes the literal. -/
def Strips (quote : Char) (inner unquoted : List Char) : Prop :=
  (Closed quote inner → unquoted = inner.dropLast) ∧ (¬Closed quote inner → unquoted = inner)

/-- The inside of a literal is none with one more quote behind it, since nothing takes that. -/
theorem Quoted.not_append_quote {body : List Char} (inside : Quoted quote body) :
    ¬Quoted quote (body ++ [quote]) := by
  intro longer
  induction inside with
  | nil =>
    cases longer with
    | plain other => exact other rfl
  | @plain c rest _ solid _ ih =>
    rw [List.cons_append] at longer
    generalize rest ++ [quote] = long at ih longer
    cases longer with
    | plain _ _ further => exact ih further
    | escaped => exact solid rfl
  | @escaped c rest _ ih =>
    rw [List.cons_append, List.cons_append] at longer
    generalize rest ++ [quote] = long at ih longer
    cases longer with
    | plain _ solid => exact solid rfl
    | escaped _ further => exact ih further

/-- A quote inside a literal is taken by a backslash. -/
theorem Quoted.endsEscaped {before : List Char} (inside : Quoted quote (before ++ [quote])) :
    EndsEscaped quote (before ++ [quote]) := by
  generalize whole : before ++ [quote] = inner at inside
  induction inside generalizing before with
  | nil => simp at whole
  | @plain c rest other solid further ih =>
    match before with
    | [] => exact absurd (List.cons.inj whole).1.symm other
    | first :: before =>
      obtain ⟨rfl, same⟩ := List.cons.inj whole
      obtain ⟨body, split, inside⟩ := ih same
      exact ⟨first :: body, by rw [split, List.cons_append], .plain other solid inside⟩
  | @escaped c rest further ih =>
    match before with
    | [] => simp at whole
    | [first] =>
      obtain ⟨rfl, same⟩ := List.cons.inj whole
      obtain ⟨rfl, rfl⟩ := List.cons.inj same
      exact ⟨[], rfl, .nil⟩
    | first :: second :: before =>
      rw [List.cons_append, List.cons_append] at whole
      obtain ⟨rfl, tail⟩ := List.cons.inj whole
      obtain ⟨rfl, same⟩ := List.cons.inj tail
      obtain ⟨body, split, inside⟩ := ih same
      exact ⟨'\\' :: second :: body, by rw [split]; rfl, .escaped second inside⟩

/-- No literal is both closed and not. -/
theorem Unclosed.not_closed (solid : quote ≠ '\\') (unclosed : Unclosed quote inner) :
    ¬Closed quote inner := by
  rintro ⟨body, rfl, inside⟩
  rcases unclosed with whole | ⟨other, split, -⟩
  · exact inside.not_append_quote whole
  · exact solid (List.singleton_inj.1 (List.append_inj' split rfl).2)

/-- A literal that is not closed ends in its quote only if that is escaped. -/
theorem Unclosed.endsEscaped_iff (solid : quote ≠ '\\') (unclosed : Unclosed quote inner) :
    EndsEscaped quote inner ↔ ∃ before, inner = before ++ [quote] := by
  constructor
  · rintro ⟨body, rfl, -⟩
    exact ⟨body ++ ['\\'], by simp⟩
  · rintro ⟨before, rfl⟩
    rcases unclosed with whole | ⟨other, split, -⟩
    · exact whole.endsEscaped
    · exact absurd (List.singleton_inj.1 (List.append_inj' split rfl).2) solid

/-- A string literal is closed, or nothing comes behind it. -/
theorem string_inv {mode : Mode} {kind : TokenKind} {text after : List Char}
    (lexeme : Lexeme mode kind text after) (string : kind = .literal .string) :
    ∃ quote inner, (quote = '"' ∨ quote = '\'') ∧ text = quote :: inner ∧
      (Closed quote inner ∨ Unclosed quote inner ∧ after = []) := by
  cases lexeme with
  | @string quote body _ isQuote inside =>
    exact ⟨quote, body ++ [quote], isQuote, rfl, .inl ⟨body, rfl, inside⟩⟩
  | @unclosed quote body isQuote inside last least =>
    refine ⟨quote, body ++ last, isQuote, rfl, .inr ⟨?_, rfl⟩⟩
    rcases least with rfl | rfl
    · rw [List.append_nil]
      exact .inl inside
    · exact .inr ⟨body, rfl, inside⟩
  | @word first text =>
    have words : ∀ entry ∈ TokenKind.words, entry.2 ≠ .literal .string := by decide
    cases found : TokenKind.ofWord? (String.ofList (first :: text)) with
    | none =>
      rw [found] at string
      contradiction
    | some kind =>
      obtain ⟨entry, listed, rfl⟩ := Option.map_eq_some_iff.1 found
      rw [found] at string
      exact absurd string (words entry (List.mem_of_find?_eq_some listed))
  | mark listed =>
    subst string
    unfold TokenKind.ofMark? at listed
    split at listed <;> contradiction
  | _ => contradiction

end Lexeme

open Lexeme

/-- The last character goes with the first if it is the same. -/
theorem toList_unquote {literal : String} {quote : Char} {inner : List Char}
    (spelled : literal.toList = quote :: inner) : (unquote literal).toList =
      if inner.getLast? = some quote then inner.dropLast else inner := by
  rw [unquote, spelled]
  dsimp only
  rcases List.eq_nil_or_concat inner with rfl | ⟨before, last, rfl⟩
  · rfl
  · have back := List.getLast?_append_of_ne_nil before (List.cons_ne_nil last [])
    simp only [List.concat_eq_append, List.reverse_append, List.reverse_singleton,
      List.singleton_append, List.reverse_reverse, back, List.getLast?_singleton,
      List.dropLast_concat, Option.some.injEq]
    split <;> exact String.toList_ofList

/-- A closed literal loses both quotes. -/
theorem toList_unquote_of_closed {literal : String} {quote : Char} {inner : List Char}
    (spelled : literal.toList = quote :: inner) (closed : Closed quote inner) :
    (unquote literal).toList = inner.dropLast := by
  obtain ⟨body, rfl, -⟩ := closed
  rw [toList_unquote spelled, if_pos (by simp)]

/-- A literal that is not closed loses its opening quote, and an escaped quote at its end. -/
theorem strips_unquote_iff {literal : String} {quote : Char} {inner : List Char}
    (spelled : literal.toList = quote :: inner) (solid : quote ≠ '\\')
    (unclosed : Unclosed quote inner) :
    Strips quote inner (unquote literal).toList ↔ ¬EndsEscaped quote inner := by
  have told : inner.getLast? = some quote ↔ EndsEscaped quote inner := by
    rw [unclosed.endsEscaped_iff solid, List.getLast?_eq_some_iff]
  rw [Strips, toList_unquote spelled, ← told]
  constructor
  · rintro ⟨-, kept⟩ ends
    have same := kept (unclosed.not_closed solid)
    rw [if_pos ends] at same
    obtain ⟨before, rfl⟩ := List.getLast?_eq_some_iff.1 ends
    simp at same
  · intro other
    rw [if_neg other]
    exact ⟨fun closed => absurd closed (unclosed.not_closed solid), fun _ => rfl⟩

/-! ### Literals of a source -/

namespace Lexer

/-- A token read as a string literal of a source is one in full. -/
theorem lexeme_of_string {source : String} {d : Delimiters} {place : Nat}
    (some : ((ofSource source d).ahead place).rest ≠ [])
    (string : ((ofSource source d).ahead place).scan.kind = .literal .string) :
    let lexer := (ofSource source d).ahead place
    Lexeme lexer.mode (.literal .string) (lexer.current.token.text source).toList
      (Text.slice source lexer.current.token.stop source.utf8ByteSize).toList := by
  have begins : (⟨0⟩ : String.Pos.Raw).IsValid source := by simp
  have ends : (⟨source.utf8ByteSize⟩ : String.Pos.Raw).IsValid source :=
    String.Pos.Raw.isValid_rawEndPos
  obtain ⟨left, taken, further⟩ := bytes_current begins ends some
  rw [← ofSource] at left taken further
  generalize (ofSource source d).ahead place = lexer at *
  have tag := lexer.scan_rule.gives.among (by rw [string]; rfl)
  have inside : lexer.mode.closer? ≠ Option.some lexer.scan.kind := by
    rw [string]
    rcases tag with same | same | same <;> rw [same] <;> decide
  obtain ⟨pending, scanned⟩ := scan_of_ne_closer tag inside
  rw [Text.bytes_eq_encoded] at left taken further
  have solid : (Text.slice source lexer.offset source.utf8ByteSize).toList ≠ [] := by
    intro empty
    rw [empty] at left
    exact some left
  obtain ⟨text, after, split, width, told⟩ := Scan.expression_tells solid lexer.mode pending
  rw [← left, ← scanned] at width told
  have first : (lexer.current.token.text source).toList = text := by
    rw [left, split, Text.encoded_append, width, List.take_left, Text.encoded_inj] at taken
    exact taken
  have second :
      (Text.slice source lexer.current.token.stop source.utf8ByteSize).toList = after := by
    rw [left, split, Text.encoded_append, width, List.drop_left, Text.encoded_inj] at further
    exact further
  rw [string] at told
  dsimp only
  rw [first, second]
  exact told.resolve_right fun bad => absurd bad.1 (by decide)

/-- With no character behind a token, it ends with the source. -/
theorem stop_of_slice_nil {source : String} {d : Delimiters} {place : Nat}
    (some : ((ofSource source d).ahead place).rest ≠ [])
    (last : (Text.slice source ((ofSource source d).ahead place).current.token.stop
      source.utf8ByteSize).toList = []) :
    ((ofSource source d).ahead place).current.token.stop = source.utf8ByteSize := by
  have begins : (⟨0⟩ : String.Pos.Raw).IsValid source := by simp
  have ends : (⟨source.utf8ByteSize⟩ : String.Pos.Raw).IsValid source :=
    String.Pos.Raw.isValid_rawEndPos
  obtain ⟨-, -, further⟩ := bytes_current begins ends some
  have total := offset_add_length_ahead (ofSource source d) place
  have length : (ofSource source d).rest.length = source.utf8ByteSize := by
    rw [ofSource, length_rest_ofRange, Nat.min_self, Nat.zero_min, Nat.sub_zero]
  have offset : (ofSource source d).offset = 0 := by rw [ofSource, ofRange, Nat.zero_min]
  have fits := (scan_fits some).2
  rw [← ofSource, Text.bytes_eq_encoded, last, Text.encoded_nil] at further
  have none := List.drop_eq_nil_iff.1 further.symm
  rw [current]
  dsimp only
  omega

end Lexer

namespace TokenStream

variable {source : String} {d : Delimiters} {limit : Nat} {stream : TokenStream}

/-- Taking the quotes off a string literal of a source leaves out what the scanner saw as quotes,
the opening one and the one that closes the literal, if one does. The only exceptions are literals
that run to the end of the source and end in an escaped quote, which they lose. -/
theorem ofSource_unquotes (read : ofSource source d limit = .ok stream) {index : Nat}
    {token : Token} (listed : stream.tokens[index]? = some token)
    (string : token.kind = .literal .string) :
    ∃ quote inner, (quote = '"' ∨ quote = '\'') ∧ (token.text source).toList = quote :: inner ∧
      (Lexeme.Closed quote inner ∨ Unclosed quote inner ∧ token.stop = source.utf8ByteSize) ∧
      (Strips quote inner (unquote (token.text source)).toList ↔
        ¬(Unclosed quote inner ∧ EndsEscaped quote inner)) := by
  obtain ⟨-, -, fills⟩ := (ofRange_eq_ok_iff (Nat.zero_le _) (Nat.le_refl _)).1 read
  change (Lexer.ofSource source d).Fills stream at fills
  have inside : index < stream.size := (Array.getElem?_eq_some_iff.1 listed).1
  have some := (fills.lt_size_iff index).1 inside
  have current : ((Lexer.ofSource source d).ahead index).current.token = token := by
    rw [fills.tokens, Lexer.token?, if_neg (by simpa using some)] at listed
    exact Option.some.inj listed
  have lexeme := Lexer.lexeme_of_string some (by rw [← string, ← current]; rfl)
  have ends := Lexer.stop_of_slice_nil some
  dsimp only at lexeme
  rw [current] at lexeme ends
  obtain ⟨quote, inner, isQuote, spelled, classes⟩ := lexeme.string_inv rfl
  have solid : quote ≠ '\\' := by rcases isQuote with rfl | rfl <;> decide
  refine ⟨quote, inner, isQuote, spelled, classes.imp_right (And.imp_right ends), ?_⟩
  rcases classes with closed | ⟨goesOn, -⟩
  · refine ⟨fun _ both => both.1.not_closed solid closed, fun _ => ?_⟩
    exact ⟨fun _ => toList_unquote_of_closed spelled closed, fun other => absurd closed other⟩
  · rw [strips_unquote_iff spelled solid goesOn, not_and]
    exact ⟨fun other _ => other, fun other => other goesOn⟩

/-- A literal with an escaped quote in it, and one that goes on to the end behind an escaped
backslash. -/
theorem ofSource_unquotes_backslash :
    let stream : TokenStream := ⟨"\x7b\x7b\"a\\\"\"'b\\\\",
      #[⟨.delimiter .variableStart, 0, 2⟩, ⟨.literal .string, 2, 7⟩, ⟨.literal .string, 7, 11⟩],
      #[.template, .variableTag, .variableTag], .variableTag⟩
    ofSource stream.source {} = .ok stream ∧
      stream.tokens[1]? = some ⟨.literal .string, 2, 7⟩ ∧
      Strips '"' ['a', '\\', '"', '"'] (unquote "\"a\\\"\"").toList ∧
      stream.tokens[2]? = some ⟨.literal .string, 7, 11⟩ ∧
      Strips '\'' ['b', '\\', '\\'] (unquote "'b\\\\").toList := by
  intro stream
  have read : ofSource stream.source {} = .ok stream := ofSource_of_isFresh (by decide +kernel)
  have first : stream.tokens[1]? = some ⟨.literal .string, 2, 7⟩ := rfl
  have second : stream.tokens[2]? = some ⟨.literal .string, 7, 11⟩ := rfl
  refine ⟨read, first, ?_, second, ?_⟩
  · obtain ⟨quote, inner, -, spelled, -, strips⟩ := ofSource_unquotes read first rfl
    have text : (⟨.literal .string, 2, 7⟩ : Token).text stream.source = "\"a\\\"\"" := by
      decide
    rw [text] at spelled strips
    obtain ⟨rfl, rfl⟩ : '"' = quote ∧ ['a', '\\', '"', '"'] = inner :=
      List.cons.inj ((by decide : _ = "\"a\\\"\"".toList).trans spelled)
    refine strips.2 fun both => both.1.not_closed (by decide) ⟨['a', '\\', '"'], rfl, ?_⟩
    exact .plain (by decide) (by decide) (.escaped _ .nil)
  · obtain ⟨quote, inner, -, spelled, -, strips⟩ := ofSource_unquotes read second rfl
    have text : (⟨.literal .string, 7, 11⟩ : Token).text stream.source = "'b\\\\" := by
      decide
    rw [text] at spelled strips
    obtain ⟨rfl, rfl⟩ : '\'' = quote ∧ ['b', '\\', '\\'] = inner :=
      List.cons.inj ((by decide : _ = "'b\\\\".toList).trans spelled)
    refine strips.2 ?_
    rintro ⟨-, body, split, -⟩
    exact absurd (congrArg List.getLast? split) (by simp)

/-- An escaped quote at the end of a literal that nothing ends is taken off as if it closed the
literal, and the name of the template is short of it. -/
theorem unquote_escaped :
    let stream : TokenStream := ⟨"\x7b% include \"a\\\"",
      #[⟨.delimiter .blockStart, 0, 2⟩, ⟨.whitespace, 2, 3⟩, ⟨.keyword .includeKw, 3, 10⟩,
        ⟨.whitespace, 10, 11⟩, ⟨.literal .string, 11, 15⟩],
      #[.template, .blockTag, .blockTag, .blockTag, .blockTag], .blockTag⟩
    ofSource stream.source {} = .ok stream ∧
      ((⟨.literal .string, 11, 15⟩ : Token).text stream.source).toList = ['"', 'a', '\\', '"'] ∧
      ¬Lexeme.Closed '"' ['a', '\\', '"'] ∧
      ¬Strips '"' ['a', '\\', '"'] (unquote (stream.textAt 4)).toList ∧
      stream.parse.tree.kind? 1 = some .includeBlock ∧
      stream.parse.tree.dependencyNames stream 1 = ["a\\"] := by
  intro stream
  have text : stream.textAt 4 = "\"a\\\"" := by decide
  have goesOn : Unclosed '"' ['a', '\\', '"'] :=
    .inl (.plain (by decide) (by decide) (.escaped _ .nil))
  have ends : EndsEscaped '"' ['a', '\\', '"'] :=
    ⟨['a'], rfl, .plain (by decide) (by decide) .nil⟩
  refine ⟨ofSource_of_isFresh (by decide +kernel), by decide +kernel,
    goesOn.not_closed (by decide), ?_, by decide, by decide⟩
  rw [text, strips_unquote_iff rfl (by decide) goesOn]
  exact not_not_intro ends

end TokenStream
end Stencil
