import Stencil.Proofs.Lexer.Contents
/-!
# Printed tags

Lexemes can be printed as a tag: the start delimiter, the lexemes with single spaces between and
around them, and the end delimiter. A spelling (`Spelling`) is a lexeme before any space, and no end
delimiter of the stock dialect begins with it and a space; so the tag is read back as it was printed
(`printed_tokens`).
-/

namespace Stencil

open Lexeme in
/-- A text that is spelled as a token of a kind, whatever comes after it at a distance. -/
inductive Spelling : TokenKind → List Char → Prop
  | word {first : Char} {text : List Char} (starts : startsName first = true)
    (goes : ∀ c ∈ text, inName c = true) :
    Spelling ((TokenKind.ofWord? (String.ofList (first :: text))).getD .identifier) (first :: text)
  | integer {text : List Char} (some : text ≠ []) (digits : ∀ c ∈ text, c.isDigit = true) :
    Spelling (.literal .integer) text
  | float {whole fraction : List Char} (some : whole ≠ []) (more : fraction ≠ [])
    (digits : ∀ c ∈ whole, c.isDigit = true) (decimals : ∀ c ∈ fraction, c.isDigit = true) :
    Spelling (.literal .float) (whole ++ '.' :: fraction)
  | string {quote : Char} {body : List Char} (isQuote : quote = '"' ∨ quote = '\'')
    (inside : Quoted quote body) : Spelling (.literal .string) (quote :: (body ++ [quote]))
  | pair {entry : String × Operator} (listed : entry ∈ Operator.pairs) :
    Spelling (.operator entry.2) entry.1.toList
  | mark {c : Char} {kind : TokenKind} (listed : TokenKind.ofMark? c = some kind) :
    Spelling kind [c]

namespace Spelling

open Lexeme

variable {kind : TokenKind} {text : List Char}

/-- Before a space a spelling is a lexeme. -/
theorem lexeme (spelling : Spelling kind text) (mode : Mode) (after : List Char) :
    Lexeme mode kind text (' ' :: after) := by
  cases spelling with
  | word starts goes => exact .word starts goes rfl
  | integer some digits => exact .integer some digits rfl nofun
  | float some more digits decimals => exact .float some more digits decimals rfl
  | string isQuote inside => exact .string isQuote inside
  | pair listed => exact .pair listed
  | mark listed =>
    refine .mark listed fun entry among leading => ?_
    have solid : ∀ entry ∈ Operator.pairs, entry.1.toList.length = 2 ∧ ' ' ∉ entry.1.toList := by
      decide
    obtain ⟨two, noSpace⟩ := solid entry among
    obtain ⟨first, second, same⟩ := List.length_eq_two.1 two
    rw [same, List.cons_prefix_cons, List.cons_prefix_cons] at leading
    rw [same, leading.2.1] at noSpace
    exact noSpace (List.mem_cons_of_mem _ List.mem_cons_self)

/-- A spelling begins with no space. What begins with a brace or a percent sign is no longer than
that. -/
theorem head (spelling : Spelling kind text) :
    ∃ first rest, text = first :: rest ∧ first ∉ [' ', '\t', '\r', '\n'] ∧
      (rest = [] ∨ first ∉ ['}', '%']) := by
  have within {ofChar : Char → Bool} {first : Char} (inside : ofChar first = true)
      {list : List Char} (apart : list.any ofChar = false) : first ∉ list :=
    fun listed => List.any_eq_false.1 apart first listed inside
  cases spelling with
  | word starts => exact ⟨_, _, rfl, within starts rfl, .inr (within starts rfl)⟩
  | integer some digits =>
    obtain ⟨first, rest, rfl⟩ := List.exists_cons_of_ne_nil some
    have digit := digits first List.mem_cons_self
    exact ⟨_, _, rfl, within digit rfl, .inr (within digit rfl)⟩
  | float some _ digits =>
    obtain ⟨first, rest, rfl⟩ := List.exists_cons_of_ne_nil some
    have digit := digits first List.mem_cons_self
    exact ⟨_, _, rfl, within digit rfl, .inr (within digit rfl)⟩
  | string isQuote =>
    refine ⟨_, _, rfl, ?_⟩
    rcases isQuote with rfl | rfl <;> exact ⟨by decide, .inr (by decide)⟩
  | pair listed =>
    simp only [Operator.pairs, List.mem_cons, List.not_mem_nil, or_false] at listed
    rcases listed with rfl | rfl | rfl | rfl | rfl | rfl <;>
      exact ⟨_, _, rfl, by decide, .inr (by decide)⟩
  | mark listed =>
    refine ⟨_, [], rfl, ?_, .inl rfl⟩
    exact @within (fun c => (TokenKind.ofMark? c).isSome) _ (Option.isSome_of_eq_some listed) _ rfl

end Spelling

/-! ### Tags -/

/-- The stock dialect has no line forms, and its delimiters are apart. -/
theorem Delimiters.plain_stock : Plain {} :=
  ⟨by decide, fun field => by cases field <;> decide, rfl, rfl⟩

namespace TagForm

/-- A single space. -/
def space : Spelled := (.whitespace, " ")

/-- Tokens with single spaces between and around them. -/
def spaced (row : List Spelled) : List Spelled :=
  row.flatMap (fun token => [space, token]) ++ [space]

/-- Texts with single spaces between and around them, between the delimiters of a tag. -/
def print (d : Delimiters) (form : TagForm) (texts : List String) : String :=
  d.spelling form.opening ++ " " ++ String.intercalate " " texts ++ " " ++ d.spelling form.closing

/-- The tokens of a tag. -/
def tokens (d : Delimiters) (form : TagForm) (row : List Spelled) : List Spelled :=
  (.delimiter form.opening, d.spelling form.opening) ::
    (row ++ [(.delimiter form.closing, d.spelling form.closing)])

variable {row : List Spelled}

/-- White space goes before each token of a row. -/
theorem spaced_cons (token : Spelled) (row : List Spelled) :
    spaced (token :: row) = space :: token :: spaced row := rfl

/-- What is printed are the characters of the spaced tokens. -/
theorem chars_spaced (some : row ≠ []) : Spelled.chars (spaced row) =
    ' ' :: (String.intercalate " " (row.map (·.2))).toList ++ [' '] := by
  induction row with
  | nil => contradiction
  | cons token row ih =>
    have first : Spelled.chars (spaced (token :: row)) =
        ' ' :: token.2.toList ++ Spelled.chars (spaced row) := rfl
    cases row with
    | nil => simp [Spelled.chars, spaced, space]
    | cons next row =>
      rw [first, ih (List.cons_ne_nil _ _)]
      simp

/-- The end delimiters of the stock dialect are two characters. -/
theorem closer_stock (form : TagForm) :
    ∃ mark, Lexer.closer {} form = [mark, '}'] ∧ mark ∈ ['}', '%'] := by
  cases form
  · exact ⟨'%', rfl, by decide⟩
  · exact ⟨'}', rfl, by decide⟩

/-- No end delimiter stands where a spelling and a space do. -/
theorem not_closer (form : TagForm) {kind : TokenKind} {text : List Char}
    (spelling : Spelling kind text) (after : List Char) :
    ¬Lexer.closer {} form <+: text ++ ' ' :: after := by
  obtain ⟨first, rest, rfl, -, short⟩ := spelling.head
  obtain ⟨mark, same, among⟩ := closer_stock form
  intro leading
  rw [same, List.cons_append, List.cons_prefix_cons] at leading
  obtain ⟨rfl, leading⟩ := leading
  obtain rfl := short.resolve_right (not_not_intro among)
  rw [List.nil_append, List.cons_prefix_cons] at leading
  exact absurd leading.1 (by decide)

/-- Nor where a space does. -/
theorem not_closer_space (form : TagForm) (after : List Char) :
    ¬Lexer.closer {} form <+: ' ' :: after := by
  obtain ⟨mark, same, among⟩ := closer_stock form
  rw [same, List.cons_prefix_cons]
  rintro ⟨rfl, -⟩
  exact absurd among (by decide)

/-- A space is a lexeme before what begins with no space. -/
theorem space_lexeme (mode : Mode) {first : Char} {rest : List Char}
    (solid : first ∉ [' ', '\t', '\r', '\n']) : Lexeme mode .whitespace [' '] (first :: rest) := by
  simp only [List.mem_cons, List.not_mem_nil, or_false, not_or] at solid
  refine .space (List.cons_ne_nil _ _) (fun c listed => ?_) ?_
  · rw [List.mem_singleton.1 listed]
    rfl
  · simp [Lexeme.Stops, Lexeme.isSpace, solid]

/-- A space leads the contents of a tag that go on with something else. -/
theorem contents_space (form : TagForm) {first : Char} {rest after : List Char}
    (solid : first ∉ [' ', '\t', '\r', '\n']) (begun : Spelled.chars row ++ after = first :: rest)
    (further : Contents form.mode (Lexer.closer {} form) row after) :
    Contents form.mode (Lexer.closer {} form) (space :: row) after :=
  .cons (by rw [begun]; exact space_lexeme form.mode solid) (not_closer_space form _) further

/-- Spaced spellings are the contents of a tag. -/
theorem contents_spaced (form : TagForm)
    (spelled : ∀ token ∈ row, Spelling token.1 token.2.toList) :
    Contents form.mode (Lexer.closer {} form) (spaced row) (Lexer.closer {} form) := by
  induction row with
  | nil =>
    obtain ⟨mark, same, among⟩ := closer_stock form
    have solid : mark ∉ [' ', '\t', '\r', '\n'] := by
      rcases List.mem_pair.1 among with rfl | rfl <;> decide
    exact contents_space form solid same (.nil _)
  | cons token row ih =>
    obtain ⟨spelling, others⟩ := List.forall_mem_cons.1 spelled
    obtain ⟨first, rest, text, solid, -⟩ := spelling.head
    obtain ⟨more, begun⟩ :
        ∃ more, Spelled.chars (spaced row) ++ Lexer.closer {} form = ' ' :: more := by
      cases row <;> exact ⟨_, rfl⟩
    have further : Contents form.mode (Lexer.closer {} form) (token :: spaced row)
        (Lexer.closer {} form) := by
      refine .cons ?_ ?_ (ih others)
      · rw [begun]
        exact spelling.lexeme form.mode more
      · rw [begun]
        exact not_closer form spelling more
    rw [spaced_cons]
    exact contents_space form solid (by rw [Spelled.chars, List.flatMap_cons, text]; rfl) further

/-- In the stock dialect a tag that was printed is read back. For every list of spellings the lexer
gives the start delimiter, the spellings with one space between and around them, the end delimiter,
and nothing more; so does the stream of the source, unless these are too many tokens. -/
theorem print_tokens (form : TagForm) (some : row ≠ [])
    (spelled : ∀ token ∈ row, Spelling token.1 token.2.toList) :
    let source := print {} form (row.map (·.2))
    let lexer := Lexer.ofSource source {}
    lexer.readAll.1.toList.map (fun lexed => lexed.token.spelled source) =
        tokens {} form (spaced row) ∧
      lexer.readAll.2.next? = none ∧
      ∀ limit, 2 * row.length + 3 ≤ limit → ∃ stream,
        TokenStream.ofSource source {} limit = .ok stream ∧
          stream.tokens.toList.map (Token.spelled · source) = tokens {} form (spaced row) := by
  intro source lexer
  have split : source.toList = (({} : Delimiters).spelling form.opening).toList ++
      (Spelled.chars (spaced row) ++ Lexer.closer {} form) := by
    rw [chars_spaced some]
    simp [source, print, Lexer.closer]
  obtain ⟨last, reads, ended⟩ :=
    Lexer.reads_tag form Delimiters.plain_stock (contents_spaced form spelled) split
  have size : (tokens {} form (spaced row)).length = 2 * row.length + 3 := by
    have inner : (row.flatMap fun token => [space, token]).length = 2 * row.length := by
      rw [List.length_flatMap]
      simp [Nat.mul_comm]
    simp [tokens, spaced, inner]
  obtain ⟨told, nothing⟩ := reads.readAll ended
  refine ⟨told, nothing, fun limit few => ?_⟩
  obtain ⟨stream, read, -, same⟩ :=
    TokenStream.ofSource_of_reads reads ended (Nat.le_trans (Nat.le_of_eq size) few)
  exact ⟨stream, read, same⟩

/-- A block tag with the word `raw`, a percent sign, and a string that holds an escaped quote and
the end of the tag. -/
theorem print_tokens_raw :
    let row : List Spelled := [(.keyword .rawKw, "raw"), (.operator .modulo, "%"),
      (.literal .string, "'\\' %\x7d'"), (.literal .float, "1.5")]
    let source := "\x7b% raw % '\\' %\x7d' 1.5 %\x7d"
    row ≠ [] ∧ (∀ token ∈ row, Spelling token.1 token.2.toList) ∧
      print {} .block (row.map (·.2)) = source ∧
      (Lexer.ofSource source {}).readAll.1.toList.map (fun lexed => lexed.token.spelled source) =
        [(.delimiter .blockStart, "\x7b%"), space, (.keyword .rawKw, "raw"), space,
          (.operator .modulo, "%"), space, (.literal .string, "'\\' %\x7d'"), space,
          (.literal .float, "1.5"), space, (.delimiter .blockEnd, "%\x7d")] := by
  intro row source
  have some : row ≠ [] := List.cons_ne_nil _ _
  have spelled : ∀ token ∈ row, Spelling token.1 token.2.toList := by
    simp only [row, List.forall_mem_cons, List.not_mem_nil, false_imp_iff, implies_true, and_true]
    have raw : (TokenKind.ofWord? (String.ofList ['r', 'a', 'w'])).getD .identifier =
        .keyword .rawKw := by decide
    refine ⟨raw ▸ .word rfl (List.all_eq_true.1 rfl), .mark rfl, ?_, ?_⟩
    · exact @Spelling.string '\'' "\\' %\x7d".toList (.inr rfl)
        (.escaped '\'' (.plain (by decide) (by decide) (.plain (by decide) (by decide)
          (.plain (by decide) (by decide) .nil))))
    · exact @Spelling.float ['1'] ['5'] (List.cons_ne_nil _ _) (List.cons_ne_nil _ _)
        (List.all_eq_true.1 rfl) (List.all_eq_true.1 rfl)
  have printed : print {} .block (row.map (·.2)) = source := by decide
  have told := (print_tokens .block some spelled).1
  rw [printed] at told
  exact ⟨some, spelled, printed, told⟩

end TagForm
end Stencil
