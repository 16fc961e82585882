import Stencil.Proofs.Lexer.Boundaries
import Stencil.Proofs.Lexer.Relex
import Stencil.Proofs.Lexer.Spelling
/-!
# Sources in a row

When a source ends with a delimiter that closes a tag or a comment, another source may come after
it: the tokens of both are those of the first and then those of the second
(`TokenStream.ofSource_append`). Delimiters of punctuation that are apart do not reach over the one
at the end of the first source, a token of the expression language looks at two bytes after it at
most, which this delimiter has, and a tag that ends a raw block is none with punctuation in its
word. After the delimiter nothing is recalled of the first source in a dialect without line forms.
-/

namespace Stencil

/-- A character of ASCII punctuation. -/
def Text.isPunctuation (c : Char) : Bool :=
  let code := c.toNat
  33 ≤ code && code ≤ 47 || 58 ≤ code && code ≤ 64 || 91 ≤ code && code ≤ 96 ||
    123 ≤ code && code ≤ 126

/-- A usable dialect without line forms, whose delimiters are two characters of punctuation or
more. -/
structure Delimiters.Punctuated (d : Delimiters) : Prop where
  valid : d.isValid = true
  lineless : d.Lineless
  long (which : Delimiter) : 2 ≤ (d.spelling which).length
  marks (which : Delimiter) : (d.spelling which).toList.all Text.isPunctuation = true

/-- A token so many bytes further on. -/
def Token.shift (token : Token) (size : Nat) : Token :=
  { token with start := token.start + size, stop := token.stop + size }

/-- Two streams in a row. -/
def TokenStream.append (one two : TokenStream) : TokenStream where
  source := one.source ++ two.source
  tokens := one.tokens ++ two.tokens.map (·.shift one.source.utf8ByteSize)
  modes := one.modes ++ two.modes
  endMode := two.endMode

/-! ### Punctuation -/

namespace Text

/-- Punctuation is a byte that is neither space nor in the word that ends a raw block. -/
theorem bytes_of_isPunctuation {c : Char} (mark : isPunctuation c = true) :
    ∃ b, String.utf8EncodeChar c = [b] ∧ Scan.isInlineSpace b = false ∧ b ≠ Scan.lineFeed ∧
      b ∉ Scan.endRawWord := by
  have each : ∀ n < 128, isPunctuation (Char.ofNat n) = true →
      String.utf8EncodeChar (Char.ofNat n) = [UInt8.ofNat n] ∧
        Scan.isInlineSpace (UInt8.ofNat n) = false ∧ UInt8.ofNat n ≠ Scan.lineFeed ∧
        UInt8.ofNat n ∉ Scan.endRawWord := by decide +kernel
  have low : c.toNat < 128 := by
    simp only [isPunctuation, Bool.or_eq_true, Bool.and_eq_true, decide_eq_true_eq] at mark
    omega
  rw [← Char.ofNat_toNat c] at mark ⊢
  exact ⟨_, each c.toNat low mark⟩

end Text

namespace Delimiters.Punctuated

variable {d : Delimiters} (punctuated : d.Punctuated)

include punctuated

/-- The bytes of delimiters are neither space nor in the word that ends a raw block. -/
theorem solid {which : Delimiter} {b : UInt8} (member : b ∈ Text.bytes (d.spelling which)) :
    Scan.isInlineSpace b = false ∧ b ≠ Scan.lineFeed ∧ b ∉ Scan.endRawWord := by
  rw [Text.bytes_eq, List.mem_flatMap] at member
  obtain ⟨c, listed, member⟩ := member
  obtain ⟨b', encoded, solid⟩ :=
    Text.bytes_of_isPunctuation (List.all_eq_true.1 (punctuated.marks which) c listed)
  rw [encoded, List.mem_singleton] at member
  rw [member]
  exact solid

/-- Delimiters have two bytes or more. -/
theorem two_le (which : Delimiter) : 2 ≤ (Text.bytes (d.spelling which)).length := by
  have single : ∀ c ∈ (d.spelling which).toList, (String.utf8EncodeChar c).length = 1 := by
    intro c listed
    obtain ⟨b, encoded, -⟩ :=
      Text.bytes_of_isPunctuation (List.all_eq_true.1 (punctuated.marks which) c listed)
    rw [encoded]
    rfl
  have long := punctuated.long which
  rw [← String.length_toList] at long
  rw [Text.bytes_eq, List.length_flatMap, List.map_congr_left single, List.map_const',
    List.sum_replicate_nat, Nat.mul_one]
  exact long

end Delimiters.Punctuated

/-! ### One token -/

namespace Scan

variable {d : Delimiters} {left more : List UInt8} {last : Delimiter} {place : Nat}

/-- Longer bytes begin with the shorter ones. -/
theorem agree_append (left more : List UInt8) : Agree left.length left (left ++ more) := by
  rw [Agree, List.take_left, List.take_length]

/-- A tag that ends a raw block goes on with what comes after its start, space and a word that end
before some other byte. -/
def endRawFollows (rest : List UInt8) : Bool :=
  let word := rest.dropWhile fun b => isInlineSpace b || b = lineFeed
  endRawWord.isPrefixOf word && !((word.drop endRawWord.length).head?.any inWord)

/-- With a byte that is neither space nor in the word it makes no difference what comes after. -/
theorem endRawFollows_append {rest : List UInt8} {b : UInt8} (member : b ∈ rest)
    (solid : isInlineSpace b = false ∧ b ≠ lineFeed ∧ b ∉ endRawWord) :
    endRawFollows (rest ++ more) = endRawFollows rest := by
  obtain ⟨inline, feed, strange⟩ := solid
  have inside : b ∈ rest.dropWhile fun b => isInlineSpace b || b = lineFeed := by
    rw [← List.takeWhile_append_dropWhile (p := fun b => isInlineSpace b || b = lineFeed)
      (l := rest), List.mem_append] at member
    refine member.resolve_left fun taken => ?_
    have blank := List.all_eq_true.1 List.all_takeWhile b taken
    rw [inline, decide_eq_false feed] at blank
    contradiction
  rw [endRawFollows, endRawFollows, List.dropWhile_append,
    if_neg (by simpa using List.ne_nil_of_mem inside)]
  generalize rest.dropWhile (fun b => isInlineSpace b || b = lineFeed) = word at inside ⊢
  -- The word is not read up to the byte, nor beyond it.
  have long {later : List UInt8} (reads : endRawWord <+: word ++ later) :
      endRawWord.length < word.length := by
    apply Nat.lt_of_not_le
    intro short
    have within := List.prefix_of_prefix_length_le (List.prefix_append word later) reads short
    exact strange (within.subset inside)
  by_cases reads : endRawWord <+: word ++ more
  · have beyond := long reads
    have head := ((agree_append word more).drop endRawWord.length).head? (by omega)
    rw [isPrefixOf_of_agree (agree_append word more) (Nat.le_of_lt beyond), head]
  · have alone : ¬endRawWord <+: word := fun also => reads (also.trans (List.prefix_append _ _))
    rw [Bool.eq_false_iff.2 (mt List.isPrefixOf_iff_prefix.1 reads),
      Bool.eq_false_iff.2 (mt List.isPrefixOf_iff_prefix.1 alone)]
    rfl

section

-- What is left ends with a delimiter, and a place lies before it.
variable (punctuated : d.Punctuated) (sealed : Text.bytes (d.spelling last) <:+ left)
  (before : place + (Text.bytes (d.spelling last)).length ≤ left.length)

include sealed before in
/-- After some bytes before the delimiter, what is left still ends with it. -/
theorem sealed_drop : Text.bytes (d.spelling last) <:+ left.drop place := by
  refine List.suffix_of_suffix_length_le sealed (List.drop_suffix place left) ?_
  rw [List.length_drop]
  omega

include punctuated sealed before

/-- A delimiter leads before the last one whatever comes after that, or not. -/
theorem leads_append (which : Delimiter) :
    leads (Text.bytes (d.spelling which)) ((left ++ more).drop place) =
      leads (Text.bytes (d.spelling which)) (left.drop place) := by
  have within := sealed_drop sealed before
  rw [List.drop_append_of_le_length (by omega)]
  generalize left.drop place = rest at within ⊢
  by_cases short : (Text.bytes (d.spelling which)).length ≤ rest.length
  · exact leads_of_agree (agree_append rest more) short
  -- A longer one would hold the last one.
  have none (later : List UInt8) :
      leads (Text.bytes (d.spelling which)) (rest ++ later) = false := by
    rw [Bool.eq_false_iff]
    intro leading
    rw [leads, Bool.and_eq_true, List.isPrefixOf_iff_prefix] at leading
    have inner : rest <+: Text.bytes (d.spelling which) :=
      List.prefix_of_prefix_length_le (List.prefix_append _ _) leading.2 (Nat.le_of_not_le short)
    have occurs : Text.bytes (d.spelling last) <:+: Text.bytes (d.spelling which) :=
      within.isInfix.trans inner.isInfix
    have distinct : last ≠ which := by
      rintro rfl
      exact short within.length_le
    exact Delimiters.spelling_apart punctuated.valid distinct occurs
  have alone := none []
  rw [List.append_nil] at alone
  rw [none more, alone]

/-- So does the tag that ends a raw block. -/
theorem atEndRaw_append (distinct : last ≠ .blockStart) :
    atEndRaw d.marks ((left ++ more).drop place) = atEndRaw d.marks (left.drop place) := by
  have leading : leads d.marks.blockStart ((left ++ more).drop place) =
      leads d.marks.blockStart (left.drop place) :=
    leads_append punctuated sealed before .blockStart
  obtain ⟨earlier, ends⟩ := sealed_drop sealed before
  rw [List.drop_append_of_le_length (by omega)] at leading ⊢
  generalize left.drop place = rest at ends leading ⊢
  change (leads d.marks.blockStart (rest ++ more) &&
      endRawFollows ((rest ++ more).drop d.marks.blockStart.length)) =
    (leads d.marks.blockStart rest && endRawFollows (rest.drop d.marks.blockStart.length))
  rw [leading]
  by_cases opens : leads d.marks.blockStart rest = true
  swap
  · rw [eq_false_of_ne_true opens]
    rfl
  -- The start of the tag does not reach the end of the last delimiter.
  have short : d.marks.blockStart.length < rest.length := by
    apply Nat.lt_of_le_of_ne (leads_length opens).2
    intro whole
    rw [leads, Bool.and_eq_true, List.isPrefixOf_iff_prefix] at opens
    rw [← opens.2.eq_of_length whole] at ends
    exact Delimiters.spelling_apart punctuated.valid distinct
      (List.IsSuffix.isInfix ⟨earlier, ends⟩)
  obtain ⟨init, b, split⟩ :=
    (List.eq_nil_or_concat _).resolve_left (Delimiters.spelling_ne punctuated.valid last)
  have member : b ∈ Text.bytes (d.spelling last) := by simp [split]
  have inside : b ∈ rest.drop d.marks.blockStart.length := by
    rw [← ends, split, List.concat_eq_append, ← List.append_assoc] at short ⊢
    rw [List.length_append, List.length_singleton] at short
    rw [List.drop_append_of_le_length (by omega)]
    exact List.mem_append_right _ (List.mem_singleton_self _)
  rw [List.drop_append_of_le_length (Nat.le_of_lt short),
    endRawFollows_append inside (punctuated.solid member)]

end

/-- A run to a place before the last delimiter is the same whatever comes after that. -/
theorem run_append {stop : List UInt8 → Bool} {size : Nat} (some : 0 < size)
    (short : run stop left + size ≤ left.length)
    (same : ∀ place, place + size ≤ left.length →
      stop ((left ++ more).drop place) = stop (left.drop place)) :
    run stop (left ++ more) = run stop left :=
  run_of_agree (agree_append left more) (by omega) fun place upTo => same place (by omega)

section

variable (punctuated : d.Punctuated) (distinct : last ≠ .blockStart)
  (sealed : Text.bytes (d.spelling last) <:+ left)

include punctuated

/-- A token of the expression language before the last delimiter is the same whatever comes after
that. -/
theorem expression_append (mode : Mode) (rawPending : Bool)
    (short : (expression mode rawPending left).width + (Text.bytes (d.spelling last)).length ≤
      left.length) :
    expression mode rawPending (left ++ more) = expression mode rawPending left := by
  have long := punctuated.two_le last
  exact expression_of_agree mode rawPending (agree_append left more) (by omega) fun _ => by omega

include distinct sealed

omit distinct

/-- Between tags, too, a token is the same whatever comes after the last delimiter. -/
theorem template_append (lineStart : Bool)
    (short : (template d.marks lineStart left).kind.isStructural = false →
      (template d.marks lineStart left).width + (Text.bytes (d.spelling last)).length ≤
        left.length) :
    template d.marks lineStart (left ++ more) = template d.marks lineStart left := by
  have long := punctuated.two_le last
  have fits := sealed.length_le
  have same (which : Delimiter) (place : Nat)
      (before : place + (Text.bytes (d.spelling last)).length ≤ left.length) :
      leads (Text.bytes (d.spelling which)) ((left ++ more).drop place) =
        leads (Text.bytes (d.spelling which)) (left.drop place) :=
    leads_append punctuated sealed before which
  have feed (place : Nat) (before : place + (Text.bytes (d.spelling last)).length ≤ left.length) :
      atLineFeed ((left ++ more).drop place) = atLineFeed (left.drop place) :=
    atLineFeed_of_agree ((agree_append left more).drop place) (by omega)
  have right := template_of_lineless punctuated.lineless lineStart (left ++ more)
  have left' := template_of_lineless punctuated.lineless lineStart left
  rw [left'] at short
  rw [right, left']
  have block : leads d.marks.blockStart (left ++ more) = leads d.marks.blockStart left :=
    same .blockStart 0 (by omega)
  have value : leads d.marks.variableStart (left ++ more) = leads d.marks.variableStart left :=
    same .variableStart 0 (by omega)
  have comment : leads d.marks.commentStart (left ++ more) = leads d.marks.commentStart left :=
    same .commentStart 0 (by omega)
  have line : atLineFeed (left ++ more) = atLineFeed left := feed 0 (by omega)
  rw [block, value, comment, line]
  refine ite_congr rfl (fun _ => rfl) fun noBlock => ite_congr rfl (fun _ => rfl) fun noValue =>
    ite_congr rfl (fun _ => rfl) fun noComment => ite_congr rfl (fun _ => rfl) fun noFeed => ?_
  rw [if_neg noBlock, if_neg noValue, if_neg noComment, if_neg noFeed] at short
  rw [run_append (Nat.lt_of_lt_of_le Nat.zero_lt_two long) (short rfl) fun place before => ?_]
  have starts : atStart d.marks ((left ++ more).drop place) =
      atStart d.marks (left.drop place) := by
    rw [atStart, atStart]
    exact congrArg₂ or (congrArg₂ or (same .blockStart place before)
      (same .variableStart place before)) (same .commentStart place before)
  rw [feed place before, starts]

omit sealed

/-- In a tag, a token is the same whatever comes after the last delimiter, if the tag is closed or
not in the same way. -/
theorem tag_append {closes : List UInt8 → Bool} {closing scan : Scan} {mode : Mode}
    {rawPending : Bool}
    (read : scan = if closes left then closing else expression mode rawPending left)
    (same : closes (left ++ more) = closes left)
    (short : scan.kind.isStructural = false →
      scan.width + (Text.bytes (d.spelling last)).length ≤ left.length) :
    (if closes (left ++ more) then closing else expression mode rawPending (left ++ more)) =
      scan := by
  rw [same, read]
  refine ite_congr rfl (fun _ => rfl) fun inside => ?_
  rw [read, if_neg inside] at short
  exact expression_append punctuated mode rawPending (short (expression_loose mode rawPending left))

/-- Where only text is read, a token is the same whatever comes after the last delimiter, if what
ends the text is. -/
theorem textUpTo_append {stop : List UInt8 → Bool} {ended scan : Scan} {mode : Mode}
    (read : scan = if stop left then ended else ⟨.text, run stop left, mode, false⟩)
    (fits : (Text.bytes (d.spelling last)).length ≤ left.length)
    (same : ∀ place, place + (Text.bytes (d.spelling last)).length ≤ left.length →
      stop ((left ++ more).drop place) = stop (left.drop place))
    (short : scan.kind.isStructural = false →
      scan.width + (Text.bytes (d.spelling last)).length ≤ left.length) :
    (if stop (left ++ more) then ended else ⟨.text, run stop (left ++ more), mode, false⟩) =
      scan := by
  have long := punctuated.two_le last
  have here : stop (left ++ more) = stop left := same 0 (by omega)
  rw [here, read]
  refine ite_congr rfl (fun _ => rfl) fun inside => ?_
  rw [read, if_neg inside] at short
  rw [run_append (by omega) (short rfl) same]

include distinct sealed

/-- A token up to the last delimiter, that delimiter included, is the same whatever comes after
that. -/
theorem next_append (mode : Mode) (lineStart rawPending : Bool)
    (short : (next d.marks mode lineStart rawPending left).kind.isStructural = false →
      (next d.marks mode lineStart rawPending left).width +
        (Text.bytes (d.spelling last)).length ≤ left.length) :
    next d.marks mode lineStart rawPending (left ++ more) =
      next d.marks mode lineStart rawPending left := by
  have long := punctuated.two_le last
  have fits := sealed.length_le
  have leading (which : Delimiter) (place : Nat)
      (before : place + (Text.bytes (d.spelling last)).length ≤ left.length) :
      leads (Text.bytes (d.spelling which)) ((left ++ more).drop place) =
        leads (Text.bytes (d.spelling which)) (left.drop place) :=
    leads_append punctuated sealed before which
  have feed (place : Nat) (before : place + (Text.bytes (d.spelling last)).length ≤ left.length) :
      atLineFeed ((left ++ more).drop place) = atLineFeed (left.drop place) :=
    atLineFeed_of_agree ((agree_append left more).drop place) (by omega)
  cases mode with
  | template => exact template_append punctuated sealed lineStart short
  | blockTag => exact tag_append punctuated rfl (leading .blockEnd 0 (by omega)) short
  | variableTag => exact tag_append punctuated rfl (leading .variableEnd 0 (by omega)) short
  | comment => exact textUpTo_append punctuated rfl fits (leading .commentEnd) short
  | raw =>
    exact textUpTo_append punctuated rfl fits
      (fun place before => atEndRaw_append punctuated sealed before distinct) short
  | lineStatement => exact tag_append punctuated rfl (feed 0 (by omega)) short
  | lineComment => exact textUpTo_append punctuated rfl fits feed short

end

/-- What closes a tag or a comment is read in one. -/
theorem Rule.closes_inv {m : Marks} {rest : List UInt8} {mode : Mode}
    {lineStart rawPending : Bool} {scan : Scan} (rule : Rule m rest mode lineStart rawPending scan)
    (closes : last = .blockEnd ∨ last = .variableEnd ∨ last = .commentEnd)
    (kind : scan.kind = .delimiter last) : mode = .blockTag ∧ last = .blockEnd ∨
      mode = .variableTag ∧ last = .variableEnd ∨ mode = .comment ∧ last = .commentEnd := by
  cases rule with
  | blockEnd => exact .inl ⟨rfl, (TokenKind.delimiter.inj kind).symm⟩
  | variableEnd => exact .inr (.inl ⟨rfl, (TokenKind.delimiter.inj kind).symm⟩)
  | commentEnd => exact .inr (.inr ⟨rfl, (TokenKind.delimiter.inj kind).symm⟩)
  | within inside =>
    obtain rfl : _ = TokenKind.delimiter last := kind
    contradiction
  | newline | text => contradiction
  | _ =>
    obtain rfl := TokenKind.delimiter.inj kind
    simp at closes

/-- What is read only if a mark leads has been read where the mark leads. -/
theorem leads_of_ite {mark : List UInt8} {closing other : Scan}
    (differs : other.kind ≠ closing.kind)
    (kind : (if leads mark left then closing else other).kind = closing.kind) :
    leads mark left = true ∧
      (if leads mark left then closing else other).width = closing.width := by
  split at kind
  next leading => exact ⟨leading, by rw [if_pos leading]⟩
  · exact absurd kind differs

/-- A delimiter that closes a tag or a comment is read where it leads. -/
theorem leads_of_closes {mode : Mode} {lineStart rawPending : Bool}
    (closes : last = .blockEnd ∨ last = .variableEnd ∨ last = .commentEnd)
    (kind : (next d.marks mode lineStart rawPending left).kind = .delimiter last) :
    leads (Text.bytes (d.spelling last)) left = true ∧
      (next d.marks mode lineStart rawPending left).width =
        (Text.bytes (d.spelling last)).length := by
  have differs (mode : Mode) (rawPending : Bool) :
      (expression mode rawPending left).kind ≠ .delimiter last := fun kind => by
    have loose := expression_loose mode rawPending left
    rw [kind] at loose
    contradiction
  have rule := next_rule d.marks mode lineStart rawPending left
  rcases rule.closes_inv closes kind with ⟨rfl, rfl⟩ | ⟨rfl, rfl⟩ | ⟨rfl, rfl⟩
  · exact leads_of_ite (differs .blockTag rawPending) kind
  · exact leads_of_ite (differs .variableTag false) kind
  · exact leads_of_ite (by rintro ⟨⟩) kind

/-- Without line forms it makes no difference whether a line starts. -/
theorem next_lineStart (lineless : d.Lineless) (mode : Mode)
    (lineStart lineStart' rawPending : Bool) (rest : List UInt8) :
    next d.marks mode lineStart' rawPending rest = next d.marks mode lineStart rawPending rest := by
  cases mode with
  | template =>
    rw [next, next, template_of_lineless lineless, template_of_lineless lineless]
  | _ => rfl

end Scan

/-! ### Token by token -/

namespace Lexer

/-- The same lexer with more bytes after those that are left. -/
def followed (lexer : Lexer) (more : List UInt8) : Lexer :=
  { lexer with rest := lexer.rest ++ more }

variable {source : String} {d : Delimiters} {limit : Nat} {stream : TokenStream}

/-- A longer source is read as the first part is, followed by the bytes of the other. -/
theorem ofSource_append (source more : String) (d : Delimiters) :
    ofSource (source ++ more) d = (ofSource source d).followed (Text.bytes more) := by
  have whole (text : String) : (Text.bytes text).take text.utf8ByteSize = Text.bytes text :=
    List.take_of_length_le (Nat.le_of_eq (Text.length_bytes text))
  have both := whole (source ++ more)
  rw [Text.bytes_append, String.utf8ByteSize_append] at both
  simp [ofSource, ofRange, followed, whole, both, Text.bytes_append]

/-- What is left at a token is what it and the tokens after it take. -/
theorem rest_ahead_add (lexer : Lexer) (early late : Nat) : (lexer.ahead (early + late)).rest =
    (lexer.ahead early).rest.drop
      ((lexer.ahead (early + late)).offset - (lexer.ahead early).offset) := by
  rw [← ahead_ahead, rest_ahead]

section

variable (fills : (ofSource source d).Fills stream) {last : Delimiter}
  (closes : last = .blockEnd ∨ last = .variableEnd ∨ last = .commentEnd)
  (ends : stream.kindAt? (stream.size - 1) = some (.delimiter last))

include fills closes ends

/-- What is left at the last token is the delimiter that it is. -/
theorem Fills.rest_last : stream.size - 1 < stream.size ∧
    ((ofSource source d).ahead (stream.size - 1)).rest = Text.bytes (d.spelling last) := by
  have inside : stream.size - 1 < stream.size := by
    obtain ⟨_, listed, -⟩ := Option.map_eq_some_iff.1 ends
    exact (Array.getElem?_eq_some_iff.1 listed).1
  refine ⟨inside, ?_⟩
  have more := (fills.lt_size_iff _).1 inside
  have next : stream.size - 1 + 1 = stream.size := by omega
  have empty := fills.rest_size
  rw [← next, ahead, step_of_some more, after] at empty
  rw [fills.kindAt?_eq inside] at ends
  have kind := Option.some.inj ends
  rw [Lexer.scan, marks_ahead] at empty kind
  obtain ⟨leading, width⟩ := Scan.leads_of_closes closes kind
  have short := List.drop_eq_nil_iff.1 empty
  have prefixed := leading
  rw [Scan.leads, Bool.and_eq_true, List.isPrefixOf_iff_prefix] at prefixed
  refine (prefixed.2.eq_of_length_le ?_).symm
  exact Nat.le_trans short (Nat.le_of_eq width)

/-- Before the last token what is left ends with the delimiter, and tokens lie before it. -/
theorem Fills.sealed {index : Nat} (inside : index < stream.size) :
    Text.bytes (d.spelling last) <:+ ((ofSource source d).ahead index).rest ∧
      (((ofSource source d).ahead index).scan.kind.isStructural = false →
        ((ofSource source d).ahead index).scan.width + (Text.bytes (d.spelling last)).length ≤
          ((ofSource source d).ahead index).rest.length) := by
  obtain ⟨-, spelled⟩ := fills.rest_last closes ends
  have more := (fills.lt_size_iff index).1 inside
  obtain ⟨later, place⟩ := Nat.exists_eq_add_of_le (Nat.le_sub_one_of_lt inside)
  have left := (ofSource source d).rest_ahead_add index later
  rw [← place, spelled] at left
  refine ⟨left ▸ List.drop_suffix _ _, fun loose => ?_⟩
  have further : index + 1 ≤ stream.size - 1 := by
    apply Nat.lt_of_le_of_ne (Nat.le_sub_one_of_lt inside)
    rintro rfl
    rw [fills.kindAt?_eq inside] at ends
    rw [Option.some.inj ends] at loose
    contradiction
  have onward := (ofSource source d).offset_le_offset further
  have width : ((ofSource source d).ahead (index + 1)).offset =
      ((ofSource source d).ahead index).offset + ((ofSource source d).ahead index).scan.width := by
    rw [ahead, step_of_some more, after]
  have total := (ofSource source d).offset_add_length_ahead index
  have total' := (ofSource source d).offset_add_length_ahead (stream.size - 1)
  rw [spelled] at total'
  omega

variable (punctuated : d.Punctuated)

include punctuated

/-- A token of a source is scanned in the same way if something comes after the source. -/
theorem Fills.scan_followed (more : List UInt8) {index : Nat} (inside : index < stream.size) :
    (((ofSource source d).ahead index).followed more).scan =
      ((ofSource source d).ahead index).scan := by
  have distinct : last ≠ .blockStart := by
    rcases closes with rfl | rfl | rfl <;> rintro ⟨⟩
  obtain ⟨sealed, short⟩ := fills.sealed closes ends inside
  simp only [Lexer.scan, followed, marks_ahead] at short ⊢
  exact Scan.next_append punctuated distinct sealed _ _ _ short

/-- Up to its end a source is read in the same way if something comes after it. -/
theorem Fills.ahead_append (more : String) {index : Nat} (inside : index ≤ stream.size) :
    (ofSource (source ++ more) d).ahead index =
      ((ofSource source d).ahead index).followed (Text.bytes more) := by
  rw [ofSource_append]
  induction index with
  | zero => rfl
  | succ index ih =>
    have some := (fills.lt_size_iff index).1 inside
    have fits := (scan_fits some).2
    have same := fills.scan_followed closes ends punctuated (Text.bytes more) inside
    have still : (((ofSource source d).ahead index).followed (Text.bytes more)).rest ≠ [] :=
      List.append_ne_nil_of_left_ne_nil some _
    rw [ahead, ih (Nat.le_of_succ_le inside), step_of_some still, ahead, step_of_some some, same]
    simp only [followed, after, List.drop_append_of_le_length fits]

/-- Its tokens are read whatever comes after it. -/
theorem Fills.token?_append (more : String) {index : Nat} (inside : index < stream.size) :
    (ofSource (source ++ more) d).token? index = (ofSource source d).token? index := by
  have some := (fills.lt_size_iff index).1 inside
  have still : (((ofSource source d).ahead index).followed (Text.bytes more)).rest ≠ [] :=
    List.append_ne_nil_of_left_ne_nil some _
  have same := fills.scan_followed closes ends punctuated (Text.bytes more) inside
  rw [token?, token?, fills.ahead_append closes ends punctuated more (Nat.le_of_lt inside),
    if_neg (by simpa using still), if_neg (by simpa using some), current, same]
  rfl

end

/-- A lexer reads what another one reads, so many bytes further on in its source. -/
structure Follows (size : Nat) (lexer follower : Lexer) : Prop where
  marks : follower.marks = lexer.marks
  rest : follower.rest = lexer.rest
  offset : follower.offset = lexer.offset + size
  mode : follower.mode = lexer.mode
  rawPending : follower.rawPending = lexer.rawPending

variable {size : Nat} {lexer follower : Lexer}

/-- A lexer that follows another one scans the same without line forms. -/
theorem Follows.scan (follows : Follows size lexer follower) (marks : lexer.marks = d.marks)
    (lineless : d.Lineless) : follower.scan = lexer.scan := by
  rw [Lexer.scan, Lexer.scan, follows.marks, follows.rest, follows.mode, follows.rawPending, marks]
  exact Scan.next_lineStart lineless _ _ _ _ _

/-- So it follows token after token. -/
theorem Follows.ahead (follows : Follows size lexer follower) (marks : lexer.marks = d.marks)
    (lineless : d.Lineless) (count : Nat) :
    Follows size (lexer.ahead count) (follower.ahead count) := by
  induction count with
  | zero => exact follows
  | succ count ih =>
    rw [Lexer.ahead, Lexer.ahead]
    by_cases empty : (lexer.ahead count).rest = []
    · rw [Lexer.step, if_pos (List.isEmpty_iff.2 empty), Lexer.step,
        if_pos (List.isEmpty_iff.2 (ih.rest.trans empty))]
      exact ih
    · have same := ih.scan ((marks_ahead count).trans marks) lineless
      rw [step_of_some empty, step_of_some (ih.rest.symm ▸ empty), same]
      refine ⟨ih.marks, ?_, ?_, rfl, rfl⟩
      · simp only [after, ih.rest]
      · simp only [after, ih.offset]
        omega

/-- The tokens it reads are those the other one reads, further on. -/
theorem Follows.token? (follows : Follows size lexer follower) (marks : lexer.marks = d.marks)
    (lineless : d.Lineless) (place : Nat) : follower.token? place =
      (lexer.token? place).map fun lexed => ⟨lexed.token.shift size, lexed.mode⟩ := by
  have there := follows.ahead marks lineless place
  have same := there.scan ((marks_ahead place).trans marks) lineless
  rw [Lexer.token?, Lexer.token?, there.rest]
  split
  · rfl
  · rw [current, current, same, there.offset, there.mode, Option.map_some, Token.shift]
    simp only [Nat.add_right_comm]

/-- Between tags no raw content is announced. -/
theorem rawPending_ahead (source : String) (d : Delimiters) {count : Nat}
    (outside : ((ofSource source d).ahead count).mode = .template) :
    ((ofSource source d).ahead count).rawPending = false := by
  induction count with
  | zero => rfl
  | succ count ih =>
    rw [ahead] at outside ⊢
    by_cases empty : ((ofSource source d).ahead count).rest = []
    · rw [Lexer.step, if_pos (List.isEmpty_iff.2 empty)] at outside ⊢
      exact ih outside
    · rw [step_of_some empty] at outside ⊢
      exact Scan.next_rawPending _ _ _ _ fun block => by
        rw [after, Lexer.scan, block] at outside
        contradiction

/-- After a source that ends between tags the next one is read as on its own. -/
theorem Fills.follows (fills : (ofSource source d).Fills stream) {last : Delimiter}
    (closes : last = .blockEnd ∨ last = .variableEnd ∨ last = .commentEnd)
    (ends : stream.kindAt? (stream.size - 1) = some (.delimiter last)) (punctuated : d.Punctuated)
    (template : stream.endMode = .template) (more : String) :
    Follows source.utf8ByteSize (ofSource more d)
      ((ofSource (source ++ more) d).ahead stream.size) := by
  have ended := fills.rest_size
  have mode : ((ofSource source d).ahead stream.size).mode = .template :=
    fills.endMode_eq.symm.trans template
  have total := (ofSource source d).offset_add_length_ahead stream.size
  have start (text : String) : (ofSource text d).offset = 0 ∧
      (ofSource text d).rest = Text.bytes text := by
    have whole := List.take_of_length_le (Nat.le_of_eq (Text.length_bytes text))
    simp [ofSource, ofRange, whole]
  rw [fills.ahead_append closes ends punctuated more (Nat.le_refl _)]
  rw [ended, (start source).1, (start source).2, Text.length_bytes, List.length_nil, Nat.add_zero,
    Nat.zero_add] at total
  refine ⟨marks_ahead _, ?_, ?_, mode, rawPending_ahead source d mode⟩
  · rw [followed, ended, List.nil_append, (start more).2]
  · rw [followed, total, (start more).1, Nat.zero_add]

end Lexer

/-! ### Streams -/

namespace TokenStream

variable {d : Delimiters} {source more : String} {limit : Nat} {one two : TokenStream}

/-- The tokens of a source that ends with a delimiter after a tag or a comment and those of another
one, further on, are the tokens of both in a row. -/
theorem ofSource_append (punctuated : d.Punctuated) (first : ofSource source d limit = .ok one)
    (template : one.endMode = .template) {last : Delimiter}
    (closes : last = .blockEnd ∨ last = .variableEnd ∨ last = .commentEnd)
    (ends : one.kindAt? (one.size - 1) = some (.delimiter last))
    (second : ofSource more d limit = .ok two) (within : one.size + two.size ≤ limit) :
    ofSource (source ++ more) d limit = .ok (one.append two) := by
  obtain ⟨rfl, -, fills⟩ := ofSource_eq_ok_iff.1 first
  obtain ⟨rfl, -, fills'⟩ := ofSource_eq_ok_iff.1 second
  have lineless := punctuated.lineless
  have follows := fills.follows closes ends punctuated template two.source
  have late (place : Nat) :
      (Lexer.ofSource (one.source ++ two.source) d).token? (one.size + place) =
        ((Lexer.ofSource two.source d).token? place).map
          fun lexed => ⟨lexed.token.shift one.source.utf8ByteSize, lexed.mode⟩ := by
    rw [← Lexer.token?_ahead]
    exact follows.token? rfl lineless place
  have early {place : Nat} (inside : place < one.size) :
      (Lexer.ofSource (one.source ++ two.source) d).token? place =
        (Lexer.ofSource one.source d).token? place :=
    fills.token?_append closes ends punctuated two.source inside
  have nothing : (Lexer.ofSource two.source d).token? two.size = none :=
    Lexer.token?_eq_none_iff.2 fills'.rest_size
  refine ofSource_eq_ok_iff.2 ⟨rfl, ?_, fun place => ?_, fun place => ?_, ?_⟩
  · refine Lexer.token?_mono ?_ within
    rw [late, nothing]
    rfl
  · rw [append, Array.getElem?_append]
    split
    next before => rw [early before, fills.tokens]
    next past =>
      obtain ⟨further, rfl⟩ := Nat.exists_eq_add_of_le (Nat.le_of_not_lt past)
      rw [Nat.add_sub_cancel_left, Array.getElem?_map, fills'.tokens]
      change _ = ((Lexer.ofSource (one.source ++ two.source) d).token? (one.size + further)).map _
      rw [late, Option.map_map, Option.map_map]
      rfl
  · rw [append, Array.getElem?_append, fills.size_modes]
    split
    next before => rw [early before, fills.modes]
    next past =>
      obtain ⟨further, rfl⟩ := Nat.exists_eq_add_of_le (Nat.le_of_not_lt past)
      rw [Nat.add_sub_cancel_left, fills'.modes, late, Option.map_map]
      rfl
  · have there := follows.ahead rfl lineless two.size
    rw [Lexer.ahead_ahead] at there
    exact ⟨one.size + two.size, there.rest.trans fills'.rest_size,
      fills'.endMode_eq.trans there.mode.symm⟩

end TokenStream
end Stencil
