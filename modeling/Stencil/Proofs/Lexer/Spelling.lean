import Stencil.Proofs.Lexer.Restart
import Stencil.Proofs.Lexer.Table
/-!
# Reading what is spelled in another dialect

What follows a spelled token decides with it whether it is read as that token. In a dialect without
line forms whose delimiters are apart and have no space around them (`Delimiters.Plain`) a delimiter
is read where it is spelled, whatever follows; text is where no delimiter begins in it and one or
nothing follows; and a token of the expression language is copied if what it looks at is
(`Scan.Follows`).
-/

namespace Stencil

/-- The setting that a delimiter is spelled by. -/
def Delimiter.field : Delimiter → Delimiters.Field
  | .blockStart => .blockStart | .blockEnd => .blockEnd
  | .variableStart => .variableStart | .variableEnd => .variableEnd
  | .commentStart => .commentStart | .commentEnd => .commentEnd

namespace Delimiters

/-- How a delimiter is spelled in a dialect. -/
def spelling (d : Delimiters) (which : Delimiter) : String := d.get which.field

/-- Both line forms are turned off. -/
def Lineless (d : Delimiters) : Prop := d.lineStatement = "" ∧ d.lineComment = ""

/-- A usable dialect without line forms, whose delimiters have no space around them. -/
structure Plain (d : Delimiters) : Prop where
  valid : d.isValid = true
  trimmed (field : Field) : Text.trim (d.get field) = d.get field
  lineless : d.Lineless

end Delimiters

namespace Text

/-- A trimmed text does not begin with a blank character. -/
theorem not_isBlank_head_of_trimmed {text : String} (trimmed : trim text = text) {first : Char}
    {rest : List Char} (spelled : text.toList = first :: rest) : isBlank first = false := by
  have chars : trimChars text.toList = text.toList := by
    rw [← String.toList_ofList (l := trimChars text.toList)]
    exact congrArg String.toList trimmed
  rw [Bool.eq_false_iff]
  intro blank
  have dropped : text.toList.dropWhile isBlank = rest.dropWhile isBlank := by
    rw [spelled, List.dropWhile_cons_of_pos blank]
  have length := congrArg List.length chars
  rw [trimChars, List.length_reverse, dropped] at length
  have fewer := (List.dropWhile_suffix (l := (rest.dropWhile isBlank).reverse) isBlank).length_le
  have less := (List.dropWhile_suffix (l := rest) isBlank).length_le
  rw [List.length_reverse] at fewer
  rw [spelled, List.length_cons] at length
  omega

/-- The bytes of a trimmed text do not begin with space. -/
theorem head?_bytes_of_trimmed {text : String} (trimmed : trim text = text) {b : UInt8}
    (first : (bytes text).head? = some b) : Scan.isInlineSpace b = false ∧ b ≠ Scan.lineFeed := by
  cases spelled : text.toList with
  | nil =>
    rw [bytes_eq, spelled] at first
    contradiction
  | cons c rest =>
    have solid := not_isBlank_head_of_trimmed trimmed spelled
    have single : bytes (String.singleton c) = String.utf8EncodeChar c := by
      rw [bytes_eq, String.toList_singleton, List.flatMap_singleton]
    have member : b ∈ bytes (String.singleton c) := by
      rw [bytes_eq, spelled, List.flatMap_cons,
        List.head?_append_of_ne_nil _ String.utf8EncodeChar_ne_nil] at first
      rw [single]
      exact List.mem_of_head? first
    have apart {blank : Char} {code : UInt8} (encoded : String.utf8EncodeChar blank = [code])
        (isBlank : isBlank blank = true) : b ≠ code := by
      rintro rfl
      refine Delimiters.not_mem_bytes encoded (fun listed => ?_) member
      rw [String.toList_singleton, List.mem_singleton] at listed
      rw [← listed, isBlank] at solid
      contradiction
    have space : b ≠ 32 :=
      apart (show String.utf8EncodeChar ' ' = _ by decide) (by decide)
    have tab : b ≠ 9 :=
      apart (show String.utf8EncodeChar '\t' = _ by decide) (by decide)
    have carriage : b ≠ 13 :=
      apart (show String.utf8EncodeChar '\r' = _ by decide) (by decide)
    refine ⟨?_, apart (show String.utf8EncodeChar '\n' = _ by decide) (by decide)⟩
    simp [Scan.isInlineSpace, space, tab, carriage]

end Text

namespace Delimiters

variable {d : Delimiters}

/-- In a usable dialect no required setting is empty. -/
theorem get_ne_of_isValid (valid : d.isValid = true) {field : Field}
    (required : field.isRequired = true) : d.get field ≠ "" := by
  intro empty
  obtain ⟨c, member, -⟩ := ((isValid_iff d).1 valid).solid field required
  rw [empty] at member
  contradiction

/-- In a usable dialect a delimiter is spelled by some bytes. -/
theorem spelling_ne (valid : d.isValid = true) (which : Delimiter) :
    Text.bytes (d.spelling which) ≠ [] := by
  rw [ne_eq, Text.bytes_eq_nil_iff]
  exact get_ne_of_isValid valid (by cases which <;> rfl)

/-- In a usable dialect no delimiter is spelled within another. -/
theorem spelling_apart (valid : d.isValid = true) {which other : Delimiter}
    (distinct : which ≠ other) :
    ¬Text.bytes (d.spelling which) <:+: Text.bytes (d.spelling other) := by
  have fields : other.field ≠ which.field := by
    cases which <;> cases other <;> first | exact absurd rfl distinct | decide
  refine not_infix_of_isValid valid fields fun empty => ?_
  exact spelling_ne valid which (Text.bytes_eq_nil_iff.2 empty)

namespace Plain

variable (plain : d.Plain)

include plain

/-- A delimiter leads where it is spelled. -/
theorem leads (which : Delimiter) (later : List UInt8) :
    Scan.leads (Text.bytes (d.spelling which)) (Text.bytes (d.spelling which) ++ later) = true := by
  rw [Scan.leads, Bool.and_eq_true, List.isPrefixOf_iff_prefix, Bool.not_eq_true',
    List.isEmpty_eq_false_iff]
  exact ⟨spelling_ne plain.valid which, List.prefix_append _ _⟩

/-- No other delimiter does. -/
theorem not_leads {which other : Delimiter} (distinct : which ≠ other) (later : List UInt8) :
    Scan.leads (Text.bytes (d.spelling which)) (Text.bytes (d.spelling other) ++ later) =
      false := by
  rw [Bool.eq_false_iff]
  intro leading
  rw [Scan.leads, Bool.and_eq_true, List.isPrefixOf_iff_prefix] at leading
  rcases List.prefix_or_prefix_of_prefix leading.2 (List.prefix_append _ _) with within | beyond
  · exact spelling_apart plain.valid distinct within.isInfix
  · exact spelling_apart plain.valid (Ne.symm distinct) beyond.isInfix

/-- No delimiter begins with space. -/
theorem not_leads_space (which : Delimiter) {b : UInt8}
    (space : Scan.isInlineSpace b = true ∨ b = Scan.lineFeed) (later : List UInt8) :
    Scan.leads (Text.bytes (d.spelling which)) (b :: later) = false := by
  rw [Bool.eq_false_iff]
  intro leading
  rw [Scan.leads, Bool.and_eq_true, List.isPrefixOf_iff_prefix] at leading
  obtain ⟨first, rest, spelled⟩ := List.exists_cons_of_ne_nil (spelling_ne plain.valid which)
  have head := leading.2
  rw [spelled, List.cons_prefix_cons] at head
  have solid := Text.head?_bytes_of_trimmed (plain.trimmed which.field)
    (b := first) (congrArg List.head? spelled)
  rw [head.1] at solid
  rcases space with inline | feed
  · rw [solid.1] at inline
    contradiction
  · exact solid.2 feed

end Plain
end Delimiters

namespace Scan

variable {d : Delimiters}

/-! ### Between tags -/

/-- A run goes up to where it stops. -/
theorem run_of_append {stop : List UInt8 → Bool} {piece later : List UInt8}
    (goes : ∀ place < piece.length, stop ((piece ++ later).drop place) = false)
    (stops : later = [] ∨ stop later = true) : run stop (piece ++ later) = piece.length := by
  induction piece with
  | nil =>
    rcases stops with rfl | stops
    · rfl
    · rw [List.nil_append, run_of_stop stops]
      rfl
  | cons first rest ih =>
    have here := goes 0 (Nat.succ_pos _)
    rw [List.drop_zero, List.cons_append] at here
    rw [List.cons_append, run_cons, here, if_neg Bool.false_ne_true, List.length_cons, ih]
    exact fun place before => goes (place + 1) (Nat.succ_lt_succ before)

/-- Without line forms no mark leads for them. -/
theorem leads_of_lineless (lineless : d.Lineless) (rest : List UInt8) :
    leads d.marks.lineStatement rest = false ∧ leads d.marks.lineComment rest = false := by
  have empty : Text.bytes "" = [] := Text.bytes_eq_nil_iff.2 rfl
  obtain ⟨statement, comment⟩ := lineless
  simp only [Delimiters.marks, statement, comment, empty]
  exact ⟨rfl, rfl⟩

/-- Without line forms a token between tags is a start delimiter, a line feed or text. -/
theorem template_of_lineless (lineless : d.Lineless) (lineStart : Bool) (rest : List UInt8) :
    template d.marks lineStart rest =
      if leads d.marks.blockStart rest then
        ⟨.delimiter .blockStart, d.marks.blockStart.length, .blockTag, false⟩
      else if leads d.marks.variableStart rest then
        ⟨.delimiter .variableStart, d.marks.variableStart.length, .variableTag, false⟩
      else if leads d.marks.commentStart rest then
        ⟨.delimiter .commentStart, d.marks.commentStart.length, .comment, false⟩
      else if atLineFeed rest then ⟨.newline, 1, .template, false⟩
      else ⟨.text, run (fun r => atLineFeed r || atStart d.marks r) rest, .template, false⟩ := by
  obtain ⟨statement, comment⟩ := leads_of_lineless lineless rest
  rw [template, statement, comment, Bool.and_false, if_neg Bool.false_ne_true,
    if_neg Bool.false_ne_true]

/-! ### Copied tokens -/

/-- White space is read where there is space. -/
theorem expression_whitespace {mode : Mode} {rawPending : Bool} {first : UInt8}
    {rest : List UInt8} (space : (expression mode rawPending (first :: rest)).kind = .whitespace) :
    isTagSpace mode first = true := by
  have words : ∀ entry ∈ TokenKind.words, entry.2 ≠ .whitespace := by decide
  by_contra solid
  revert space
  unfold expression
  dsimp only
  rw [if_neg solid]
  split
  · rintro ⟨⟩
  split
  next found =>
    intro space
    subst space
    unfold TokenKind.ofMark? at found
    split at found <;> contradiction
  split
  · rintro ⟨⟩
  split
  · unfold number
    dsimp only
    split
    · split <;> rintro ⟨⟩
    · rintro ⟨⟩
  split
  · rw [word]
    dsimp only
    cases found : TokenKind.ofWord? (asciiText (List.takeWhile inWord _)) with
    | none => rintro ⟨⟩
    | some kind =>
      obtain ⟨entry, listed, rfl⟩ := Option.map_eq_some_iff.1 found
      exact words entry (List.mem_of_find?_eq_some listed)
  · rintro ⟨⟩

/-- In every mode white space is read where there is space. -/
theorem next_whitespace {m : Marks} {mode : Mode} {lineStart rawPending : Bool} {first : UInt8}
    {rest : List UInt8}
    (space : (next m mode lineStart rawPending (first :: rest)).kind = .whitespace) :
    isTagSpace mode first = true := by
  cases mode with
  | template => exact absurd space (template_kind m lineStart _)
  | blockTag =>
    simp only [next, blockTag] at space
    split at space
    · contradiction
    · exact expression_whitespace space
  | variableTag =>
    simp only [next, variableTag] at space
    split at space
    · contradiction
    · exact expression_whitespace space
  | lineStatement =>
    simp only [next, lineStatement] at space
    split at space
    · contradiction
    · exact expression_whitespace space
  | comment =>
    simp only [next, comment] at space
    split at space <;> contradiction
  | raw =>
    simp only [next, raw] at space
    split at space <;> contradiction
  | lineComment =>
    simp only [next, lineComment] at space
    split at space <;> contradiction

/-- The bytes of a token are copied, and what it looks at after them: the byte after it, and beyond
a point one more. White space only looks for the end of the space. -/
inductive Follows (mode : Mode) (scan : Scan) (left right : List UInt8) : Prop where
  | copied (agree : Agree (scan.width + 1) left right)
    (point : left[scan.width]? = some 46 → Agree (scan.width + 2) left right)
  | spaced (space : scan.kind = .whitespace) (agree : Agree scan.width left right)
    (solid : ∀ b, right[scan.width]? = some b → isTagSpace mode b = false)

/-- A copied token is read. -/
theorem expression_of_follows {mode : Mode} {rawPending : Bool} {left right : List UInt8}
    (some : left ≠ []) (follows : Follows mode (expression mode rawPending left) left right) :
    expression mode rawPending right = expression mode rawPending left := by
  cases follows with
  | copied agree point =>
    by_cases dot : left[(expression mode rawPending left).width]? = .some 46
    · exact expression_of_agree mode rawPending (point dot) (by omega) fun _ => by omega
    · exact expression_of_agree mode rawPending agree (by omega) fun also => absurd also dot
  | spaced space agree solid =>
    obtain ⟨first, rest, rfl⟩ := List.exists_cons_of_ne_nil some
    have blank := expression_whitespace space
    have width : (expression mode rawPending (first :: rest)).width =
        spanOf (isTagSpace mode) (first :: rest) := by
      unfold expression
      dsimp only
      rw [if_pos blank]
    have start : 0 < spanOf (isTagSpace mode) (first :: rest) := by
      rw [spanOf_cons, if_pos blank]
      exact Nat.succ_pos _
    rw [width] at agree solid
    obtain ⟨fewer, count⟩ : ∃ fewer, spanOf (isTagSpace mode) (first :: rest) = fewer + 1 :=
      ⟨spanOf (isTagSpace mode) (first :: rest) - 1, by omega⟩
    rw [count] at agree
    obtain ⟨rest', rfl, -⟩ := agree.of_cons
    rw [← count] at agree
    have same : spanOf (isTagSpace mode) (first :: rest') =
        spanOf (isTagSpace mode) (first :: rest) := by
      refine length_takeWhile_eq (fun place before => ?_) fun b found => solid b found
      have listed := agree.getElem? before
      have inside : place < ((first :: rest).takeWhile (isTagSpace mode)).length := before
      have taken := List.getElem?_eq_getElem inside
      have prefixed := (List.takeWhile_prefix (l := first :: rest) (isTagSpace mode)).getElem inside
      refine ⟨_, listed.symm.trans ?_, List.all_eq_true.1 List.all_takeWhile _
        (List.getElem_mem inside)⟩
      rw [prefixed]
      exact List.getElem?_eq_getElem _
    unfold expression
    dsimp only
    rw [if_pos blank, if_pos blank, same]

end Scan
end Stencil
