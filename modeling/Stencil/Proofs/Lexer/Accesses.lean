import Stencil.Proofs.Lexer.Printing
/-!
# Names with accesses

A name may have members, items, subscripts and calls after it (`Access`). Written without spaces
each of these is a row of tokens, but for an item directly after an item: the digits of the two and
the point between them are one number (`Access.row`). So the lexer reads a variable tag with such a
name (`Access.reads_source`).
-/

namespace Stencil

open Lexeme

/-- A word that is not reserved. -/
structure Identifier where
  first : Char
  rest : List Char
  starts : startsName first = true
  goes : ∀ c ∈ rest, inName c = true
  free : TokenKind.ofWord? (String.ofList (first :: rest)) = none

/-- A run of digits. -/
structure Numeral where
  digits : List Char
  some : digits ≠ []
  each : ∀ c ∈ digits, c.isDigit = true

/-- What may stand after a name: a member by its name or by its number, a subscript, or a call. -/
inductive Access where
  | member (name : Identifier)
  | item (index : Numeral)
  | subscript (index : Numeral)
  | call

/-- The characters of a name. -/
def Identifier.chars (name : Identifier) : List Char := name.first :: name.rest

/-- A name as a token. -/
def Identifier.token (name : Identifier) : Spelled := (.identifier, String.ofList name.chars)

/-- A number as a token. -/
def Numeral.token (index : Numeral) : Spelled := (.literal .integer, String.ofList index.digits)

/-- Two numbers with a point between them as a token. -/
def Numeral.pointed (whole fraction : Numeral) : Spelled :=
  (.literal .float, String.ofList (whole.digits ++ '.' :: fraction.digits))

/-- A word does not begin with a digit. -/
theorem Lexeme.not_isDigit_of_starts {c : Char} (starts : startsName c = true) :
    c.isDigit = false := by
  by_contra digit
  rw [Bool.not_eq_false] at digit
  unfold startsName Char.isAlpha Char.isUpper Char.isLower at starts
  unfold Char.isDigit at digit
  simp only [Bool.or_eq_true, Bool.and_eq_true, decide_eq_true_eq, ge_iff_le,
    UInt32.le_iff_toNat_le] at starts digit
  rcases starts with (upper | lower) | rfl
  · exact absurd (Nat.le_trans upper.1 digit.2) (by decide)
  · exact absurd (Nat.le_trans lower.1 digit.2) (by decide)
  · exact absurd digit.2 (by decide)

namespace Access

/-- How an access is written. -/
def text : Access → List Char
  | .member name => '.' :: name.chars
  | .item index => '.' :: index.digits
  | .subscript index => '[' :: (index.digits ++ [']'])
  | .call => ['(', ')']

/-- Whether an access is a member by its number. -/
def isItem : Access → Bool
  | .item _ => true
  | _ => false

/-- No item directly after an item. -/
def Apart (steps : List Access) : Prop :=
  steps.IsChain fun one next => (one.isItem && next.isItem) = false

instance (steps : List Access) : Decidable (Apart steps) :=
  inferInstanceAs (Decidable (steps.IsChain _))

/-- The tokens of an access. -/
def tokens : Access → List Spelled
  | .member name => [(.punctuation .dot, "."), name.token]
  | .item index => [(.punctuation .dot, "."), index.token]
  | .subscript index =>
    [(.punctuation .leftBracket, "["), index.token, (.punctuation .rightBracket, "]")]
  | .call => [(.punctuation .leftParen, "("), (.punctuation .rightParen, ")")]

/-- The tokens of accesses that are written without spaces. -/
def row : List Access → List Spelled
  | .item whole :: .item fraction :: steps =>
    (.punctuation .dot, ".") :: whole.pointed fraction :: row steps
  | step :: steps => step.tokens ++ row steps
  | [] => []

/-- A variable tag with a name and accesses after it. -/
def source (name : Identifier) (steps : List Access) : String :=
  "\x7b\x7b " ++ String.ofList (name.chars ++ steps.flatMap text) ++ " \x7d\x7d"

/-- The tokens between the delimiters of such a tag. -/
def inside (name : Identifier) (steps : List Access) : List Spelled :=
  TagForm.space :: name.token :: (row steps ++ [TagForm.space])

/-- All tokens of such a tag. -/
def whole (name : Identifier) (steps : List Access) : List Spelled :=
  (.delimiter .variableStart, "\x7b\x7b") ::
    (inside name steps ++ [(.delimiter .variableEnd, "\x7d\x7d")])

variable {steps : List Access} {more : List Spelled} {after : List Char}

/-- Apart from each other accesses are the tokens of each. -/
theorem row_of_apart (apart : Apart steps) : row steps = steps.flatMap tokens := by
  fun_induction row steps with
  | case1 one two steps =>
    obtain ⟨different, -⟩ := List.isChain_cons_cons.1 apart
    contradiction
  | case2 step steps _ ih => rw [ih apart.of_cons, List.flatMap_cons]
  | case3 => rfl

/-- Otherwise a number with a point stands after a dot. -/
theorem exists_pointed (close : ¬Apart steps) : ∃ before after : List Spelled, ∃ number,
    row steps = before ++ (.punctuation .dot, ".") :: (.literal .float, number) :: after := by
  fun_induction row steps with
  | case1 one two steps => exact ⟨[], _, _, rfl⟩
  | case2 step steps single ih =>
    have further : ¬Apart steps := by
      refine fun apart => close ?_
      cases steps with
      | nil => exact .singleton _
      | cons next steps =>
        refine apart.cons_cons ?_
        cases step <;> cases next <;> first | rfl | exact absurd rfl (single _ _ _ rfl)
    obtain ⟨before, after, number, split⟩ := ih further
    exact ⟨step.tokens ++ before, after, number, by rw [split, List.append_assoc]⟩
  | case3 => exact absurd .nil close

/-! ### Reading the tag -/

/-- The tokens spell what is written. -/
theorem chars_row (steps : List Access) : Spelled.chars (row steps) = steps.flatMap text := by
  fun_induction row steps with
  | case1 one two steps ih =>
    rw [List.flatMap_cons, List.flatMap_cons, ← ih]
    simp [Spelled.chars, Numeral.pointed, text]
  | case2 step steps _ ih =>
    rw [List.flatMap_cons, ← ih, Spelled.chars, List.flatMap_append]
    cases step <;> simp [tokens, Identifier.token, Numeral.token, text, Spelled.chars]
  | case3 => rfl

/-- What an access begins with, and the space behind all. -/
def leads : List Char := ['.', '[', '(', ' ']

/-- Behind a token that ends an access another one begins, or the space stands. -/
theorem head_row (steps : List Access) (rest : List Char) :
    ∃ c more, Spelled.chars (row steps) ++ ' ' :: rest = c :: more ∧ c ∈ leads := by
  rw [chars_row]
  cases steps with
  | nil => exact ⟨_, _, rfl, by decide⟩
  | cons step steps =>
    cases step <;> exact ⟨_, _, rfl, by decide⟩

/-- No name and no number goes on with what comes then. -/
theorem stops_row (steps : List Access) (rest : List Char) :
    Stops inName (Spelled.chars (row steps) ++ ' ' :: rest) ∧
      Stops Char.isDigit (Spelled.chars (row steps) ++ ' ' :: rest) := by
  obtain ⟨c, more, begun, among⟩ := head_row steps rest
  have outside : leads.all (fun c => !inName c && !c.isDigit) = true := rfl
  have told := List.all_eq_true.1 outside c among
  rw [Bool.and_eq_true, Bool.not_eq_true', Bool.not_eq_true'] at told
  rw [begun]
  exact told

/-- No point with a digit stands there either, if no item does. -/
theorem whole_row (single : ∀ index more, steps = .item index :: more → False) (rest : List Char)
    {fraction : List Char} (point : Spelled.chars (row steps) ++ ' ' :: rest = '.' :: fraction) :
    Stops Char.isDigit fraction := by
  rw [chars_row] at point
  cases steps with
  | nil => exact absurd (List.cons.inj point).1 (by decide)
  | cons step steps =>
    cases step with
    | member name =>
      obtain ⟨-, rfl⟩ := List.cons.inj point
      exact not_isDigit_of_starts name.starts
    | item index => exact (single index steps rfl).elim
    | subscript index => exact absurd (List.cons.inj point).1 (by decide)
    | call => exact absurd (List.cons.inj point).1 (by decide)

/-- The end of a variable tag in the stock dialect. -/
abbrev closer : List Char := Lexer.closer {} .value

/-- The stock end of a variable tag is two braces. -/
theorem closer_eq : closer = ['}', '}'] := rfl

/-- What begins otherwise is no end of a tag. -/
theorem not_closer {c : Char} (solid : c ≠ '}') (chars : List Char) : ¬closer <+: c :: chars := by
  rw [closer_eq, List.cons_prefix_cons]
  exact fun leading => solid leading.1.symm

variable {rest : List Char}

/-- A mark with which no operator of two characters begins is a token before anything. -/
theorem contents_mark {c : Char} {kind : TokenKind} {text : String} (spelled : text.toList = [c])
    (among : c ∈ ['.', '[', ']', '(', ')']) (listed : TokenKind.ofMark? c = some kind)
    (further : Contents .variableTag closer more rest) :
    Contents .variableTag closer ((kind, text) :: more) rest := by
  obtain ⟨solid, none⟩ : c ≠ '}' ∧ ∀ entry ∈ Operator.pairs, entry.1.toList.head? ≠ some c := by
    simp only [List.mem_cons, List.not_mem_nil, or_false] at among
    rcases among with rfl | rfl | rfl | rfl | rfl <;> exact ⟨by decide, by decide⟩
  refine .cons ?_ ?_ further
  · rw [spelled]
    refine .mark listed fun entry pair leading => none entry pair ?_
    have some : entry.1.toList ≠ [] := (@Lexeme.pair .variableTag _ pair []).ne_nil
    obtain ⟨first, more, begun⟩ := List.exists_cons_of_ne_nil some
    rw [begun, List.cons_prefix_cons] at leading
    rw [begun, leading.1, List.head?_cons]
  · rw [spelled]
    exact not_closer solid _

/-- A name is a token before what no name goes on with. -/
theorem contents_name (name : Identifier) (stops : Stops inName (Spelled.chars more ++ rest))
    (further : Contents .variableTag closer more rest) :
    Contents .variableTag closer (name.token :: more) rest := by
  have word := @Lexeme.word .variableTag _ _ _ name.starts name.goes stops
  rw [name.free, Option.getD_none] at word
  refine .cons ?_ ?_ further
  · rw [String.toList_ofList]
    exact word
  · rw [String.toList_ofList]
    refine not_closer ?_ _
    intro brace
    have starts := name.starts
    rw [brace] at starts
    contradiction

/-- What begins with a digit is no end of a tag. -/
theorem not_closer_of_digits (index : Numeral) (chars : List Char) :
    ¬closer <+: index.digits ++ chars := by
  obtain ⟨digit, digits, begun⟩ := List.exists_cons_of_ne_nil index.some
  have each := index.each digit (by rw [begun]; exact List.mem_cons_self)
  rw [begun]
  refine not_closer ?_ _
  rintro rfl
  contradiction

/-- A number is a token before what no number goes on with. -/
theorem contents_number (index : Numeral) (stops : Stops Char.isDigit (Spelled.chars more ++ rest))
    (whole : ∀ fraction, Spelled.chars more ++ rest = '.' :: fraction → Stops Char.isDigit fraction)
    (further : Contents .variableTag closer more rest) :
    Contents .variableTag closer (index.token :: more) rest := by
  refine .cons ?_ ?_ further
  · rw [String.toList_ofList]
    exact .integer index.some index.each stops whole
  · rw [String.toList_ofList]
    exact not_closer_of_digits index _

/-- Two numbers with a point between them are one token. -/
theorem contents_pointed (one two : Numeral)
    (stops : Stops Char.isDigit (Spelled.chars more ++ rest))
    (further : Contents .variableTag closer more rest) :
    Contents .variableTag closer (one.pointed two :: more) rest := by
  refine .cons ?_ ?_ further
  · rw [String.toList_ofList]
    exact .float one.some two.some one.each two.each stops
  · rw [String.toList_ofList, List.append_assoc]
    exact not_closer_of_digits one _

/-- White space behind the row may be taken to follow what is behind it. -/
theorem chars_row_append (steps : List Access) (ends : Spelled.chars more ++ after = ' ' :: rest) :
    Spelled.chars (row steps ++ more) ++ after = Spelled.chars (row steps) ++ ' ' :: rest := by
  rw [Spelled.chars, List.flatMap_append, List.append_assoc]
  exact congrArg _ ends

/-- The tokens of accesses are read one after another, up to the space behind them. -/
theorem contents_row (steps : List Access) (ends : Spelled.chars more ++ after = ' ' :: rest)
    (further : Contents .variableTag closer more after) :
    Contents .variableTag closer (row steps ++ more) after := by
  have stops (steps : List Access) := stops_row steps rest
  simp only [← chars_row_append _ ends] at stops
  fun_induction row steps with
  | case1 one two steps ih =>
    exact contents_mark rfl (by decide) rfl (contents_pointed one two (stops steps).2 ih)
  | case2 step steps single ih =>
    cases step with
    | member name => exact contents_mark rfl (by decide) rfl (contents_name name (stops steps).1 ih)
    | item index =>
      have whole (fraction : List Char)
          (point : Spelled.chars (row steps ++ more) ++ after = '.' :: fraction) :
          Stops Char.isDigit fraction := by
        rw [chars_row_append _ ends] at point
        exact whole_row (fun next more same => single index next more rfl same) rest point
      exact contents_mark rfl (by decide) rfl (contents_number index (stops steps).2 whole ih)
    | subscript index =>
      exact contents_mark rfl (by decide) rfl (contents_number index rfl nofun
        (contents_mark rfl (by decide) rfl ih))
    | call => exact contents_mark rfl (by decide) rfl (contents_mark rfl (by decide) rfl ih)
  | case3 => exact further

/-- A name and accesses after it are the contents of a variable tag. -/
theorem contents_inside (name : Identifier) (steps : List Access) :
    Contents .variableTag closer (inside name steps) closer := by
  have ending : Contents .variableTag closer (TagForm.spaced []) closer :=
    TagForm.contents_spaced .value nofun
  have accesses := contents_row steps (rfl : _ = ' ' :: closer) ending
  have stops : Stops inName (Spelled.chars (row steps ++ TagForm.spaced []) ++ closer) := by
    rw [chars_row_append steps (rfl : _ = ' ' :: closer)]
    exact (stops_row steps closer).1
  have spelling : Spelling .identifier name.chars := by
    have word := Spelling.word name.starts name.goes
    rwa [name.free] at word
  obtain ⟨first, rest, spelled, solid, -⟩ := spelling.head
  have begun (behind : List Char) : ∃ rest, name.token.2.toList ++ behind = first :: rest :=
    ⟨_, by rw [Identifier.token, String.toList_ofList, spelled]; rfl⟩
  obtain ⟨rest, begun⟩ := begun (Spelled.chars (row steps ++ [TagForm.space]) ++ closer)
  rw [← List.append_assoc] at begun
  exact TagForm.contents_space .value solid begun (contents_name name stops accesses)

/-- The lexer reads a variable tag with a name and accesses after it. -/
theorem reads_source (name : Identifier) (steps : List Access) :
    ∃ last, Lexer.Reads (source name steps) (Lexer.ofSource (source name steps) {})
      (whole name steps) last ∧ last.rest = [] := by
  refine Lexer.reads_tag .value Delimiters.plain_stock (contents_inside name steps) ?_
  have chars : Spelled.chars (inside name steps) =
      ' ' :: (name.chars ++ steps.flatMap text) ++ [' '] := by
    rw [← chars_row]
    simp [Spelled.chars, inside, Identifier.token, TagForm.space]
  rw [chars, show Lexer.closer {} .value = _ from closer_eq]
  have opening : ({} : Delimiters).spelling TagForm.value.opening = "\x7b\x7b" := rfl
  rw [opening]
  simp [source]

end Access
end Stencil
