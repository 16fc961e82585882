import Stencil.Proofs.Lexer.Boundaries
import Stencil.Proofs.Lexer.Relex
import Stencil.Proofs.Lexer.Spelling
/-!
# Sources in another dialect

A source is respelled when its delimiter tokens are spelled as in another dialect and all other
tokens are copied (`TokenStream.respelled`). Where nothing that is copied is read as a delimiter
there (`TokenStream.Respells`), the lexer of the other dialect reads the same kinds of tokens in the
same modes (`TokenStream.ofSource_respelled`).

The two lexers go on token by token, and what is left of the two sources begins alike up to the next
delimiter. What a token of a tag looks at after it is there: space comes before what ends a tag, so
that all other tokens are followed by one that is copied, and a point by one more.
-/

namespace Stencil
namespace Delimiters

/-- A delimiter of a dialect is spelled in a text, from an offset on. -/
def Spells (d : Delimiters) (which : Delimiter) (source : String) (offset : Nat) : Prop :=
  Text.bytes (d.spelling which) <+: (Text.bytes source).drop offset

instance (d : Delimiters) (which : Delimiter) (source : String) (offset : Nat) :
    Decidable (d.Spells which source offset) :=
  inferInstanceAs (Decidable (_ <+: _))

end Delimiters

namespace TokenStream

/-- The text of a token in another dialect: that of a delimiter is its spelling there, and that of
any other token is copied. -/
def spelledAt (stream : TokenStream) (d : Delimiters) (index : Nat) : String :=
  match stream.kindAt? index with
  | some (.delimiter which) => d.spelling which
  | _ => stream.textAt index

/-- The first tokens in another dialect, one after another. -/
def respelled (stream : TokenStream) (d : Delimiters) : Nat → String
  | 0 => ""
  | count + 1 => stream.respelled d count ++ stream.spelledAt d count

/-- Nothing that is copied is read as a delimiter of the other dialect: in no text between tags does
a tag or a comment begin, in no text of a comment does it end, and no token within a tag begins with
what ends the tag. -/
structure Respells (stream : TokenStream) (d : Delimiters) : Prop where
  text {index byte : Nat} {start : Delimiter} (text : stream.kindAt? index = some .text)
    (read : stream.modes[index]? = some .template)
    (inside : byte < (stream.textAt index).utf8ByteSize)
    (starts : start = .blockStart ∨ start = .variableStart ∨ start = .commentStart) :
    ¬d.Spells start (stream.respelled d stream.size)
      ((stream.respelled d index).utf8ByteSize + byte)
  comment {index byte : Nat} (text : stream.kindAt? index = some .text)
    (read : stream.modes[index]? = some .comment)
    (inside : byte < (stream.textAt index).utf8ByteSize) :
    ¬d.Spells .commentEnd (stream.respelled d stream.size)
      ((stream.respelled d index).utf8ByteSize + byte)
  tag {index : Nat} {mode : Mode} {closer : Delimiter}
    (copied : ∀ which, stream.kindAt? index ≠ some (.delimiter which))
    (read : stream.modes[index]? = some mode)
    (closes : mode = .blockTag ∧ closer = .blockEnd ∨ mode = .variableTag ∧ closer = .variableEnd) :
    ¬d.Spells closer (stream.respelled d stream.size) (stream.respelled d index).utf8ByteSize

/-- The stream ends between tags, and in it there is no word `raw` and white space before each
delimiter that ends a tag. -/
structure Regular (stream : TokenStream) : Prop where
  ends : stream.endMode = .template
  noRaw (index : Nat) : stream.kindAt? index ≠ some (.keyword .rawKw)
  spaced {index : Nat} {closer : Delimiter} (closes : closer = .blockEnd ∨ closer = .variableEnd)
    (ends : stream.kindAt? (index + 1) = some (.delimiter closer)) :
    stream.kindAt? index = some .whitespace

end TokenStream

/-! ### One token -/

namespace Scan

variable {d d' : Delimiters} {left later : List UInt8} {lineStart lineStart' : Bool}

/-- The bytes of a token in another dialect. -/
def spelled (scan : Scan) (d : Delimiters) (left : List UInt8) : List UInt8 :=
  match scan.kind with
  | .delimiter which => Text.bytes (d.spelling which)
  | _ => left.take scan.width

/-- No line ends in text. -/
theorem not_atLineFeed_before_run {start : List UInt8 → Bool} {byte : Nat}
    (before : byte < run (fun r => atLineFeed r || start r) left)
    (fits : run (fun r => atLineFeed r || start r) left ≤ left.length) :
    atLineFeed ((left.take (run (fun r => atLineFeed r || start r) left) ++ later).drop byte) =
      false := by
  have quiet := not_stop_before_run before
  generalize run (fun r => atLineFeed r || start r) left = count at before fits ⊢
  have inside : byte < (left.take count).length := by
    rw [List.length_take, Nat.min_eq_left fits]
    exact before
  rw [Bool.or_eq_false_iff, atLineFeed, List.head?_drop] at quiet
  rw [atLineFeed, List.head?_drop, List.getElem?_append_left inside,
    List.getElem?_take_of_lt before]
  exact quiet.1

/-- Between tags text goes on up to the end of the line or to where a tag or a comment begins. -/
theorem template_of_text (lineless : d.Lineless) {text : List UInt8} (some : 0 < text.length)
    (free : ∀ byte < text.length, atLineFeed ((text ++ later).drop byte) = false)
    (goes : ∀ byte < text.length, atStart d.marks ((text ++ later).drop byte) = false)
    (stops : later = [] ∨ (atLineFeed later || atStart d.marks later) = true) :
    template d.marks lineStart (text ++ later) = ⟨.text, text.length, .template, false⟩ := by
  have here := goes 0 some
  have solid := free 0 some
  rw [List.drop_zero] at here solid
  rw [atStart, Bool.or_eq_false_iff, Bool.or_eq_false_iff] at here
  rw [template_of_lineless lineless, if_neg (Bool.eq_false_iff.1 here.1.1),
    if_neg (Bool.eq_false_iff.1 here.1.2), if_neg (Bool.eq_false_iff.1 here.2),
    if_neg (Bool.eq_false_iff.1 solid), run_of_append (fun byte before => ?_) stops]
  rw [free byte before, goes byte before]
  rfl

/-- Between tags a token is read as it was, if in text no tag or comment begins before its end. -/
theorem template_spelled (lineless : d.Lineless) (plain : d'.Plain) (more : left ≠ [])
    (text : (template d.marks lineStart left).kind = .text →
      (∀ byte < (template d.marks lineStart left).width,
        atStart d'.marks ((left.take (template d.marks lineStart left).width ++ later).drop byte) =
          false) ∧
      (later = [] ∨ (atLineFeed later || atStart d'.marks later) = true)) :
    template d'.marks lineStart' ((template d.marks lineStart left).spelled d' left ++ later) =
      { template d.marks lineStart left with
        width := ((template d.marks lineStart left).spelled d' left).length } := by
  have fits := next_fits d.marks .template lineStart false more
  simp only [next] at fits
  have right := template_of_lineless plain.lineless lineStart'
  have apart {which other : Delimiter} (distinct : which ≠ other) :
      ¬leads (Text.bytes (d'.spelling which)) (Text.bytes (d'.spelling other) ++ later) = true :=
    Bool.eq_false_iff.1 (plain.not_leads distinct later)
  rw [template_of_lineless lineless] at text fits ⊢
  by_cases block : leads d.marks.blockStart left = true
  · rw [if_pos block]
    exact (right _).trans (if_pos (plain.leads .blockStart later))
  rw [if_neg block] at text fits ⊢
  by_cases value : leads d.marks.variableStart left = true
  · rw [if_pos value]
    exact (right _).trans ((if_neg (@apart .blockStart .variableStart (by decide))).trans
      (if_pos (plain.leads .variableStart later)))
  rw [if_neg value] at text fits ⊢
  by_cases comment : leads d.marks.commentStart left = true
  · rw [if_pos comment]
    exact (right _).trans ((if_neg (@apart .blockStart .commentStart (by decide))).trans
      ((if_neg (@apart .variableStart .commentStart (by decide))).trans
        (if_pos (plain.leads .commentStart later))))
  rw [if_neg comment] at text fits ⊢
  obtain ⟨first, rest, rfl⟩ := List.exists_cons_of_ne_nil more
  by_cases feed : atLineFeed (first :: rest) = true
  · rw [if_pos feed]
    obtain rfl : first = lineFeed := by simpa [atLineFeed] using feed
    have solid (which : Delimiter) :
        ¬leads (Text.bytes (d'.spelling which)) (lineFeed :: later) = true :=
      Bool.eq_false_iff.1 (plain.not_leads_space which (.inr rfl) later)
    exact (right _).trans ((if_neg (solid .blockStart)).trans
      ((if_neg (solid .variableStart)).trans ((if_neg (solid .commentStart)).trans (if_pos rfl))))
  rw [if_neg feed] at text fits ⊢
  obtain ⟨goes, stops⟩ := text rfl
  dsimp only at goes fits
  have free (byte : Nat) := @not_atLineFeed_before_run (first :: rest) later (atStart d.marks) byte
  have length := List.length_take_of_le fits.2
  dsimp only at length
  generalize run (fun r => atLineFeed r || atStart d.marks r) (first :: rest) = count
    at goes fits free length ⊢
  exact template_of_text plain.lineless (length.symm ▸ fits.1)
    (fun byte before => free byte (length ▸ before) fits.2)
    (fun byte before => goes byte (length ▸ before)) stops

/-- Inside a comment a token is read as it was, if in text the comment does not end before its
end. -/
theorem comment_spelled (plain : d'.Plain) (more : left ≠ [])
    (text : (comment d.marks left).kind = .text →
      (∀ byte < (comment d.marks left).width,
        leads d'.marks.commentEnd ((left.take (comment d.marks left).width ++ later).drop byte) =
          false) ∧
      (later = [] ∨ leads d'.marks.commentEnd later = true)) :
    comment d'.marks ((comment d.marks left).spelled d' left ++ later) =
      { comment d.marks left with width := ((comment d.marks left).spelled d' left).length } := by
  have fits := next_fits d.marks .comment false false more
  simp only [next] at fits
  by_cases ends : leads d.marks.commentEnd left = true
  · have read : comment d.marks left =
        ⟨.delimiter .commentEnd, d.marks.commentEnd.length, .template, false⟩ := if_pos ends
    rw [read]
    exact if_pos (plain.leads .commentEnd later)
  have read : comment d.marks left =
      ⟨.text, run (leads d.marks.commentEnd) left, .comment, false⟩ := if_neg ends
  rw [read] at text fits ⊢
  obtain ⟨goes, stops⟩ := text rfl
  dsimp only at goes fits
  generalize run (leads d.marks.commentEnd) left = count at goes fits ⊢
  change comment d'.marks (left.take count ++ later) =
    ⟨.text, (left.take count).length, .comment, false⟩
  unfold comment
  have length : (left.take count).length = count := by
    rw [List.length_take]
    exact Nat.min_eq_left fits.2
  have here := goes 0 fits.1
  rw [List.drop_zero] at here
  rw [if_neg (Bool.eq_false_iff.1 here), run_of_append (fun byte before => ?_) stops]
  exact goes byte (by omega)

/-- A token within a tag that does not begin with what ends the tag is read as it was. -/
structure Copied (d : Delimiters) (mode : Mode) (closer : Delimiter) (scan : Scan)
    (left later : List UInt8) : Prop where
  goes : leads (Text.bytes (d.spelling closer)) (left.take scan.width ++ later) = false
  follows : Follows mode scan left (left.take scan.width ++ later)

/-- The bytes of a token that is no delimiter are copied. -/
theorem spelled_of_not_structural {scan : Scan} (loose : scan.kind.isStructural = false) :
    scan.spelled d left = left.take scan.width := by
  unfold spelled
  split
  next which delimiter =>
    rw [delimiter] at loose
    contradiction
  · rfl

/-- Within a tag a token of the expression language is read as it was. -/
theorem expression_spelled {mode : Mode} {closer : Delimiter} {rawPending : Bool} (more : left ≠ [])
    (copied : Copied d' mode closer (expression mode rawPending left) left later) :
    expression mode rawPending ((expression mode rawPending left).spelled d' left ++ later) =
      { expression mode rawPending left with
        width := ((expression mode rawPending left).spelled d' left).length } := by
  have fits := expression_fits mode rawPending more
  have width : (left.take (expression mode rawPending left).width).length =
      (expression mode rawPending left).width := by
    rw [List.length_take]
    exact Nat.min_eq_left fits.2
  rw [spelled_of_not_structural (expression_loose mode rawPending left), width,
    expression_of_follows more copied.follows]

/-- Inside a tag what ends it is read as it is spelled, and any other token as it was. -/
theorem tag_spelled {closer : Delimiter} {scan : Scan} {mode after : Mode} {rawPending : Bool}
    {width : Nat} (plain : d'.Plain) (more : left ≠ [])
    (read : scan = if leads (Text.bytes (d.spelling closer)) left then
      ⟨.delimiter closer, width, after, false⟩ else expression mode rawPending left)
    (copied : scan.kind ≠ .delimiter closer → Copied d' mode closer scan left later) :
    (if leads (Text.bytes (d'.spelling closer)) (scan.spelled d' left ++ later) then
        ⟨.delimiter closer, (Text.bytes (d'.spelling closer)).length, after, false⟩
      else expression mode rawPending (scan.spelled d' left ++ later)) =
      { scan with width := (scan.spelled d' left).length } := by
  by_cases ends : leads (Text.bytes (d.spelling closer)) left = true
  · rw [read, if_pos ends]
    exact if_pos (plain.leads closer later)
  rw [if_neg ends] at read
  have loose := expression_loose mode rawPending left
  rw [← read] at loose
  have here := copied fun delimiter => by
    rw [delimiter] at loose
    contradiction
  have goes : ¬leads (Text.bytes (d'.spelling closer)) (scan.spelled d' left ++ later) = true := by
    rw [spelled_of_not_structural loose]
    exact Bool.eq_false_iff.1 here.goes
  rw [if_neg goes]
  subst read
  exact expression_spelled more here

/-- A mark does not lead bytes that do not begin with it. -/
theorem not_leads_of_not_prefix {mark rest : List UInt8} (apart : ¬mark <+: rest) :
    leads mark rest = false := by
  rw [leads, Bool.and_eq_false_iff]
  exact .inr (Bool.eq_false_iff.2 (mt List.isPrefixOf_iff_prefix.1 apart))

/-- Text leaves the mode as it is. -/
theorem Rule.mode_of_text {m : Marks} {mode : Mode} {rawPending : Bool} {scan : Scan}
    (rule : Rule m left mode lineStart rawPending scan) (text : scan.kind = .text) :
    scan.mode = mode := by
  cases rule with
  | text | within => rfl
  | _ => contradiction

/-- What comes after text between tags or in a comment ends it in the other dialect, too. -/
theorem Rule.stops_spelled {m : Marks} {mode : Mode} {rawPending : Bool} {scan : Scan}
    {stop : List UInt8 → Bool} (rule : Rule m left mode lineStart rawPending scan)
    (plain : d'.Plain) (ends : scan.kind ≠ .text) (among : mode = .template ∨ mode = .comment)
    (stops : mode.textStop? d'.marks = some stop) :
    stop (scan.spelled d' left ++ later) = true := by
  have starts (start : Delimiter)
      (listed : start = .blockStart ∨ start = .variableStart ∨ start = .commentStart) :
      atStart d'.marks (Text.bytes (d'.spelling start) ++ later) = true := by
    have leading := plain.leads start later
    rw [atStart, Bool.or_eq_true, Bool.or_eq_true]
    rcases listed with rfl | rfl | rfl
    · exact .inl (.inl leading)
    · exact .inl (.inr leading)
    · exact .inr leading
  have onward (start : Delimiter)
      (listed : start = .blockStart ∨ start = .variableStart ∨ start = .commentStart)
      (kind : scan.kind = .delimiter start) (template : mode = .template) :
      stop (scan.spelled d' left ++ later) = true := by
    subst template
    obtain rfl := Option.some.inj stops
    rw [spelled, kind]
    exact Bool.or_eq_true_iff.2 (.inr (starts start listed))
  cases rule with
  | lineStatement | blockStart => exact onward .blockStart (.inl rfl) rfl rfl
  | variableStart => exact onward .variableStart (.inr (.inl rfl)) rfl rfl
  | lineComment | commentStart => exact onward .commentStart (.inr (.inr rfl)) rfl rfl
  | newline feed places =>
    obtain rfl : mode = .template := by
      rcases among with rfl | rfl
      · rfl
      · simp at places
    obtain rfl := Option.some.inj stops
    obtain ⟨rest, rfl⟩ : ∃ rest, left = lineFeed :: rest := by
      rw [atLineFeed, decide_eq_true_eq] at feed
      exact List.head?_eq_some_iff.1 feed
    rfl
  | text => exact absurd rfl ends
  | blockEnd | variableEnd | endRaw => simp at among
  | commentEnd =>
    obtain rfl := Option.some.inj stops
    exact plain.leads .commentEnd later
  | within inside tags => rcases among with rfl | rfl <;> simp at tags

/-- Where a token is copied, what is left begins alike as much further. -/
theorem Agree.of_drop {size width : Nat} (fits : width ≤ left.length)
    (agree : Agree size (left.drop width) later) :
    Agree (width + size) left (left.take width ++ later) := by
  have length : (left.take width).length = width := by
    rw [List.length_take]
    exact Nat.min_eq_left fits
  have whole : (left.take width).take (width + size) = left.take width :=
    List.take_of_length_le (by omega)
  rw [Agree, List.take_add, List.take_append, length, Nat.add_sub_cancel_left, ← agree, whole]

end Scan

/-! ### What is left -/

namespace TokenStream

variable (stream : TokenStream) (d : Delimiters)

/-- What is left of the source in another dialect, from a token on. -/
def remainder (index : Nat) : List UInt8 :=
  (Text.bytes (stream.respelled d stream.size)).drop (stream.respelled d index).utf8ByteSize

/-- The tokens up to one come first in what is respelled. -/
theorem exists_respelled_append {early late : Nat} (order : early ≤ late) :
    ∃ later, stream.respelled d late = stream.respelled d early ++ later := by
  induction order with
  | refl => exact ⟨"", String.append_empty.symm⟩
  | @step late _ ih =>
    obtain ⟨later, split⟩ := ih
    exact ⟨later ++ stream.spelledAt d late, by rw [respelled, split, String.append_assoc]⟩

variable {stream d}

/-- A token is spelled before what is left after it. -/
theorem remainder_eq {index : Nat} (inside : index < stream.size) : stream.remainder d index =
    Text.bytes (stream.spelledAt d index) ++ stream.remainder d (index + 1) := by
  obtain ⟨later, split⟩ := stream.exists_respelled_append d (Nat.succ_le_of_lt inside)
  rw [remainder, remainder, split, ← Text.length_bytes, ← Text.length_bytes, Text.bytes_append,
    List.drop_left, respelled, Text.bytes_append, List.append_assoc, List.drop_left]

/-- Behind the last token nothing remains. -/
theorem remainder_size : stream.remainder d stream.size = [] := by
  rw [remainder, ← Text.length_bytes, List.drop_length]

/-- A delimiter leads what is left where it is spelled. -/
theorem spells_iff {index byte : Nat} {which : Delimiter} :
    d.Spells which (stream.respelled d stream.size)
        ((stream.respelled d index).utf8ByteSize + byte) ↔
      Text.bytes (d.spelling which) <+: (stream.remainder d index).drop byte := by
  rw [Delimiters.Spells, remainder, List.drop_drop]

end TokenStream

/-! ### Token by token -/

namespace Lexer

variable {source : String} {d d' : Delimiters} {limit : Nat} {stream : TokenStream}

/-- Reading is between tags, in a comment, or in a tag after which no raw content comes. -/
def Ordinary (lexer : Lexer) : Prop :=
  lexer.mode = .template ∨ lexer.mode = .comment ∨ lexer.mode = .variableTag ∨
    lexer.mode = .blockTag ∧ lexer.rawPending = false

/-- Without line forms and without the word `raw` reading stays ordinary. -/
theorem Ordinary.step {lexer : Lexer} (ordinary : lexer.Ordinary) (marks : lexer.marks = d.marks)
    (lineless : d.Lineless) (more : lexer.rest ≠ []) (noRaw : lexer.scan.kind ≠ .keyword .rawKw) :
    lexer.step.Ordinary := by
  have rule := lexer.scan_rule
  have line := Scan.leads_of_lineless lineless lexer.rest
  rw [step_of_some more]
  rw [marks] at rule
  simp only [after, Ordinary] at ordinary ⊢
  generalize lexer.scan = scan at rule noRaw ⊢
  generalize lexer.mode = mode, lexer.lineStart = lineStart, lexer.rawPending = rawPending
    at rule ordinary
  cases rule with
  | lineStatement leading =>
    rw [line.1] at leading
    contradiction
  | lineComment leading =>
    rw [line.2] at leading
    contradiction
  | blockStart => exact .inr (.inr (.inr ⟨rfl, rfl⟩))
  | variableStart => exact .inr (.inr (.inl rfl))
  | commentStart => exact .inr (.inl rfl)
  | newline | variableEnd | commentEnd => exact .inl rfl
  | blockEnd =>
    obtain ⟨-, quiet⟩ : Mode.blockTag = .blockTag ∧ rawPending = false := by simpa using ordinary
    rw [quiet]
    exact .inl rfl
  | endRaw => simp at ordinary
  | text stops =>
    rcases ordinary with rfl | rfl | rfl | ⟨rfl, -⟩
    · exact .inl rfl
    · exact .inr (.inl rfl)
    · contradiction
    · contradiction
  | within inside among announces =>
    rcases ordinary with rfl | rfl | rfl | ⟨rfl, quiet⟩
    · simp at among
    · simp at among
    · exact .inr (.inr (.inl rfl))
    · refine .inr (.inr (.inr ⟨rfl, ?_⟩))
      rw [announces rfl, quiet, decide_eq_false noRaw]
      rfl

variable (read : TokenStream.ofSource source d limit = .ok stream) {index : Nat}

include read

/-- The bytes of a token's text are those that are read of what is left. -/
theorem bytes_textAt (inside : index < stream.size) : Text.bytes (stream.textAt index) =
    ((ofSource source d).ahead index).rest.take ((ofSource source d).ahead index).scan.width := by
  obtain ⟨same, -, fills⟩ := TokenStream.ofSource_eq_ok_iff.1 read
  have more := (fills.lt_size_iff index).1 inside
  have token := fills.getElem?_tokens inside
  obtain ⟨begins, ends⟩ := TokenStream.isValid_of_ofSource read token
  have further : ((ofSource source d).ahead (index + 1)).offset =
      ((ofSource source d).ahead index).offset + ((ofSource source d).ahead index).scan.width := by
    rw [ahead, step_of_some more, after]
  dsimp only at begins ends
  rw [TokenStream.textAt, token, Option.map_some, Option.getD_some, Token.text, same,
    Text.bytes_slice (offset_le_offset (Nat.le_succ index)) begins ends, further,
    Nat.add_sub_cancel_left, ← ((tracked_ofSource source d).ahead index).rest]

/-- A token is spelled as its scan is. -/
theorem bytes_spelledAt (inside : index < stream.size) :
    Text.bytes (stream.spelledAt d' index) = ((ofSource source d).ahead index).scan.spelled d'
      ((ofSource source d).ahead index).rest := by
  obtain ⟨-, -, fills⟩ := TokenStream.ofSource_eq_ok_iff.1 read
  rw [TokenStream.spelledAt, fills.kindAt?_eq inside, Scan.spelled]
  split
  next which delimiter =>
    rw [Option.some.inj delimiter]
  next other =>
    split
    next which delimiter => exact absurd (congrArg some delimiter) (other which)
    · exact bytes_textAt read inside

omit read

/-- Reading is ordinary all the way. -/
theorem Fills.ordinary_ahead (fills : (ofSource source d).Fills stream) (lineless : d.Lineless)
    (noRaw : ∀ index, stream.kindAt? index ≠ some (.keyword .rawKw))
    (inside : index ≤ stream.size) : ((ofSource source d).ahead index).Ordinary := by
  induction index with
  | zero => exact .inl rfl
  | succ index ih =>
    refine (ih (Nat.le_of_succ_le inside)).step (marks_ahead index) lineless
      ((fills.lt_size_iff index).1 inside) fun raw => noRaw index ?_
    rw [fills.kindAt?_eq inside, raw]

/-- Before what ends its mode a token is followed by one in the same mode, where the reading ends
between tags. -/
theorem Fills.goes_on (fills : (ofSource source d).Fills stream) (ends : stream.endMode = .template)
    {mode : Mode} {closer : TokenKind} (here : ((ofSource source d).ahead index).mode = mode)
    (closes : mode.closer? = some closer) (inside : index < stream.size)
    (within : stream.kindAt? index ≠ some closer) :
    index + 1 < stream.size ∧ ((ofSource source d).ahead (index + 1)).mode = mode ∧
      ((ofSource source d).ahead index).scan.kind.isStructural = false := by
  have more := (fills.lt_size_iff index).1 inside
  rw [fills.kindAt?_eq inside] at within
  rw [← here] at closes
  obtain ⟨loose, same⟩ := (Scan.next_closes closes _ _ _ _).resolve_left
    fun closed => within (congrArg some closed)
  have onward : ((ofSource source d).ahead (index + 1)).mode = mode := by
    rw [ahead, step_of_some more, ← here]
    exact same
  refine ⟨?_, onward, loose⟩
  rw [fills.lt_size_iff]
  intro empty
  obtain ⟨count, ended, last⟩ := fills.ended
  rw [ends, ← ahead_of_ended empty ended, onward, ← here] at last
  rw [← last] at closes
  contradiction

include read

/-- What is left in the other dialect begins with the token as its scan spells it. -/
theorem remainder_eq_spelled (inside : index < stream.size) : stream.remainder d' index =
    ((ofSource source d).ahead index).scan.spelled d' ((ofSource source d).ahead index).rest ++
      stream.remainder d' (index + 1) := by
  rw [TokenStream.remainder_eq inside, bytes_spelledAt read inside]

/-- What is left in the other dialect begins with a copied token as it is. -/
theorem remainder_eq_copied (inside : index < stream.size)
    (loose : ((ofSource source d).ahead index).scan.kind.isStructural = false) :
    stream.remainder d' index = ((ofSource source d).ahead index).rest.take
      ((ofSource source d).ahead index).scan.width ++ stream.remainder d' (index + 1) := by
  rw [remainder_eq_spelled read inside, Scan.spelled_of_not_structural loose]

/-- Behind a copied token what is left begins alike as much as from there. -/
theorem agree_remainder (inside : index < stream.size)
    (loose : ((ofSource source d).ahead index).scan.kind.isStructural = false) {size : Nat}
    (agree : Scan.Agree size ((ofSource source d).ahead (index + 1)).rest
      (stream.remainder d' (index + 1))) :
    Scan.Agree (((ofSource source d).ahead index).scan.width + size)
      ((ofSource source d).ahead index).rest (stream.remainder d' index) := by
  obtain ⟨-, -, fills⟩ := TokenStream.ofSource_eq_ok_iff.1 read
  have more := (fills.lt_size_iff index).1 inside
  rw [ahead, step_of_some more] at agree
  rw [remainder_eq_copied read inside loose]
  exact agree.of_drop (scan_fits more).2

omit read in
/-- What closes a tag in the other dialect does not begin with space. -/
theorem solid_remainder (plain : d'.Plain) {closer : Delimiter} (mode : Mode)
    (inside : index < stream.size) (ends : stream.kindAt? index = some (.delimiter closer))
    {b : UInt8} (found : (stream.remainder d' index).head? = some b) :
    Scan.isTagSpace mode b = false := by
  have spelled : stream.spelledAt d' index = d'.spelling closer := by
    rw [TokenStream.spelledAt, ends]
  rw [TokenStream.remainder_eq inside, spelled,
    List.head?_append_of_ne_nil _ (Delimiters.spelling_ne plain.valid closer)] at found
  obtain ⟨solid, feed⟩ := Text.head?_bytes_of_trimmed (plain.trimmed closer.field) found
  rw [Scan.isTagSpace, solid, decide_eq_false feed]
  rfl

/-- Within a tag a point is no space. -/
theorem solid_of_point {mode : Mode} (tag : mode = .blockTag ∨ mode = .variableTag)
    (further : index < stream.size) (onward : ((ofSource source d).ahead index).mode = mode)
    (point : ((ofSource source d).ahead index).rest.head? = some 46) :
    stream.kindAt? index ≠ some .whitespace := by
  obtain ⟨-, -, fills⟩ := TokenStream.ofSource_eq_ok_iff.1 read
  rw [fills.kindAt?_eq further]
  intro space
  obtain ⟨rest, begins⟩ := List.head?_eq_some_iff.1 point
  have blank := Option.some.inj space
  rw [Lexer.scan, begins] at blank
  have dot := Scan.next_whitespace blank
  rw [onward] at dot
  rcases tag with rfl | rfl <;> contradiction

variable (regular : stream.Regular) (clear : stream.Respells d')

include regular clear

/-- A token within a tag is copied with all it looks at. -/
theorem copied_of_respells (plain : d'.Plain) {mode : Mode} {closer : Delimiter}
    (tag : mode = .blockTag ∧ closer = .blockEnd ∨ mode = .variableTag ∧ closer = .variableEnd)
    (here : ((ofSource source d).ahead index).mode = mode) (inside : index < stream.size)
    (within : stream.kindAt? index ≠ some (.delimiter closer)) :
    Scan.Copied d' mode closer ((ofSource source d).ahead index).scan
      ((ofSource source d).ahead index).rest (stream.remainder d' (index + 1)) := by
  obtain ⟨-, -, fills⟩ := TokenStream.ofSource_eq_ok_iff.1 read
  have closes : mode.closer? = some (.delimiter closer) := by
    rcases tag with ⟨rfl, rfl⟩ | ⟨rfl, rfl⟩ <;> rfl
  have ending : closer = .blockEnd ∨ closer = .variableEnd := tag.imp And.right And.right
  obtain ⟨further, onward, loose⟩ := fills.goes_on regular.ends here closes inside within
  have left : stream.remainder d' index = _ := remainder_eq_copied read inside loose
  constructor
  · have copied (which : Delimiter) : stream.kindAt? index ≠ some (.delimiter which) := by
      rw [fills.kindAt?_eq inside]
      intro delimiter
      rw [Option.some.inj delimiter] at loose
      contradiction
    have apart := clear.tag copied ((fills.getElem?_modes inside).trans (congrArg some here)) tag
    rw [← Nat.add_zero (String.utf8ByteSize _), TokenStream.spells_iff, List.drop_zero, left]
      at apart
    exact Scan.not_leads_of_not_prefix apart
  · rw [← left]
    by_cases ends : stream.kindAt? (index + 1) = some (.delimiter closer)
    · -- Space comes before what ends the tag, which does not begin with space.
      have space := regular.spaced ending ends
      rw [fills.kindAt?_eq inside] at space
      refine .spaced (Option.some.inj space) ?_ fun b found => ?_
      · exact agree_remainder read inside loose (.zero _ _)
      · have length := List.length_take_of_le (scan_fits ((fills.lt_size_iff index).1 inside)).2
        rw [left, List.getElem?_append_right (Nat.le_of_eq length), length, Nat.sub_self,
          ← List.head?_eq_getElem?] at found
        exact solid_remainder plain mode further ends found
    · obtain ⟨beyond, again, also⟩ := fills.goes_on regular.ends onward closes further ends
      have one := (scan_fits ((fills.lt_size_iff (index + 1)).1 further)).1
      refine .copied ?_ fun point => ?_
      · have agree : Scan.Agree _ _ (stream.remainder d' index) := agree_remainder read inside
          loose (agree_remainder read further also (.zero _ _))
        exact agree.take (by omega)
      · -- A point is no space, so that the tag goes on after the token that it begins.
        have next : ((ofSource source d).ahead (index + 1)).rest.head? = some 46 := by
          rw [ahead, step_of_some ((fills.lt_size_iff index).1 inside), after]
          rwa [List.head?_drop]
        have solid := solid_of_point read (tag.imp And.left And.left) further onward next
        have within' : stream.kindAt? (index + 1 + 1) ≠ some (.delimiter closer) :=
          mt (regular.spaced ending) solid
        obtain ⟨-, -, last⟩ := fills.goes_on regular.ends again closes beyond within'
        have two := (scan_fits ((fills.lt_size_iff (index + 1 + 1)).1 beyond)).1
        have agree : Scan.Agree _ _ (stream.remainder d' index) := agree_remainder read inside
          loose (agree_remainder read further also (agree_remainder read beyond last (.zero _ _)))
        exact agree.take (by omega)

omit clear in
/-- Behind a text comes what ends it, spelled in the other dialect, or nothing. -/
theorem remainder_stops (lineless : d.Lineless) (plain : d'.Plain) {stop : List UInt8 → Bool}
    (stops : ((ofSource source d).ahead index).mode.textStop? d'.marks = some stop)
    (inside : index < stream.size)
    (text : ((ofSource source d).ahead index).scan.kind = .text) :
    stream.remainder d' (index + 1) = [] ∨ stop (stream.remainder d' (index + 1)) = true := by
  obtain ⟨-, -, fills⟩ := TokenStream.ofSource_eq_ok_iff.1 read
  by_cases further : index + 1 < stream.size
  · have more := (fills.lt_size_iff index).1 inside
    have again := (fills.lt_size_iff (index + 1)).1 further
    have ordinary := fills.ordinary_ahead lineless regular.noRaw (Nat.le_of_lt inside)
    have rule := ((ofSource source d).ahead index).scan_rule
    have next := ((ofSource source d).ahead (index + 1)).scan_rule
    have among : ((ofSource source d).ahead index).mode = .template ∨
        ((ofSource source d).ahead index).mode = .comment := by
      rcases ordinary with template | comment | value | ⟨block, -⟩
      · exact .inl template
      · exact .inr comment
      · rw [value] at stops
        contradiction
      · rw [block] at stops
        contradiction
    have onward : ((ofSource source d).ahead (index + 1)).mode =
        ((ofSource source d).ahead index).mode := by
      rw [ahead, step_of_some more]
      exact rule.mode_of_text text
    have ends : ((ofSource source d).ahead (index + 1)).scan.kind ≠ .text := by
      have here : (ofSource source d).ahead (index + 1) =
          ((ofSource source d).ahead index).after ((ofSource source d).ahead index).scan := by
        rw [ahead, step_of_some more]
      rw [marks_ahead] at rule next
      rw [here] at next again ⊢
      exact rule.text_apart text again next
    rw [← onward] at stops among
    rw [remainder_eq_spelled read further]
    exact .inr (next.stops_spelled plain ends among stops)
  · have last : index + 1 = stream.size := by omega
    rw [last]
    exact .inl TokenStream.remainder_size

omit regular in
/-- In a text that is copied no tag or comment begins, and a comment does not end, in the other
dialect. -/
theorem text_apart_of_respells (inside : index < stream.size)
    (text : ((ofSource source d).ahead index).scan.kind = .text) {byte : Nat}
    (before : byte < ((ofSource source d).ahead index).scan.width) :
    (((ofSource source d).ahead index).mode = .template →
      Scan.atStart d'.marks ((((ofSource source d).ahead index).rest.take
        ((ofSource source d).ahead index).scan.width ++
          stream.remainder d' (index + 1)).drop byte) = false) ∧
    (((ofSource source d).ahead index).mode = .comment →
      Scan.leads d'.marks.commentEnd ((((ofSource source d).ahead index).rest.take
        ((ofSource source d).ahead index).scan.width ++
          stream.remainder d' (index + 1)).drop byte) = false) := by
  obtain ⟨-, -, fills⟩ := TokenStream.ofSource_eq_ok_iff.1 read
  have more := (fills.lt_size_iff index).1 inside
  have kind := (fills.kindAt?_eq inside).trans (congrArg some text)
  have mode := fills.getElem?_modes inside
  have within : byte < (stream.textAt index).utf8ByteSize := by
    rw [← Text.length_bytes, bytes_textAt read inside, List.length_take]
    exact Nat.lt_min.2 ⟨before, Nat.lt_of_lt_of_le before (scan_fits more).2⟩
  rw [← remainder_eq_copied read inside (by rw [text]; rfl)]
  constructor
  · intro template
    rw [template] at mode
    have apart (start : Delimiter)
        (starts : start = .blockStart ∨ start = .variableStart ∨ start = .commentStart) :
        Scan.leads (Text.bytes (d'.spelling start)) ((stream.remainder d' index).drop byte) =
          false :=
      Scan.not_leads_of_not_prefix
        (mt TokenStream.spells_iff.2 (clear.text kind mode within starts))
    rw [Scan.atStart, Bool.or_eq_false_iff, Bool.or_eq_false_iff]
    exact ⟨⟨apart .blockStart (.inl rfl), apart .variableStart (.inr (.inl rfl))⟩,
      apart .commentStart (.inr (.inr rfl))⟩
  · intro comment
    rw [comment] at mode
    have apart : Scan.leads (Text.bytes (d'.spelling .commentEnd))
        ((stream.remainder d' index).drop byte) = false :=
      Scan.not_leads_of_not_prefix (mt TokenStream.spells_iff.2 (clear.comment kind mode within))
    exact apart

/-- The lexer of the other dialect reads the token as it is spelled there. -/
theorem scan_respelled (lineless : d.Lineless) (plain : d'.Plain) (lineStart : Bool)
    (inside : index < stream.size) :
    Scan.next d'.marks ((ofSource source d).ahead index).mode lineStart
        ((ofSource source d).ahead index).rawPending (stream.remainder d' index) =
      { ((ofSource source d).ahead index).scan with
        width := (Text.bytes (stream.spelledAt d' index)).length } := by
  obtain ⟨-, -, fills⟩ := TokenStream.ofSource_eq_ok_iff.1 read
  have more := (fills.lt_size_iff index).1 inside
  have kind := fills.kindAt?_eq inside
  have ordinary := fills.ordinary_ahead lineless regular.noRaw (Nat.le_of_lt inside)
  have stops {stop : List UInt8 → Bool} (stopping : _ = some stop) :=
    remainder_stops read regular lineless plain stopping inside
  have apart := text_apart_of_respells read clear inside
  have copied {mode : Mode} {closer : Delimiter}
      (tag : mode = .blockTag ∧ closer = .blockEnd ∨ mode = .variableTag ∧ closer = .variableEnd)
      (here : _ = mode) := copied_of_respells read regular clear plain tag here inside
  have marks : ((ofSource source d).ahead index).marks = d.marks := marks_ahead index
  rw [remainder_eq_spelled read inside, bytes_spelledAt read inside]
  rw [kind] at copied
  generalize (ofSource source d).ahead index = here at *
  obtain ⟨_, rest, offset, mode, lineStart', rawPending⟩ := here
  obtain rfl := marks
  rcases ordinary with rfl | rfl | rfl | ⟨rfl, quiet⟩
  · exact Scan.template_spelled lineless plain more fun text =>
      ⟨fun byte before => (apart text before).1 rfl, stops rfl text⟩
  · exact Scan.comment_spelled plain more fun text =>
      ⟨fun byte before => (apart text before).2 rfl, stops rfl text⟩
  · exact Scan.tag_spelled plain more rfl fun within =>
      copied (.inr ⟨rfl, rfl⟩) rfl fun ends => within (Option.some.inj ends)
  · exact Scan.tag_spelled plain more rfl fun within =>
      copied (.inl ⟨rfl, rfl⟩) rfl fun ends => within (Option.some.inj ends)

omit regular clear in
/-- Tokens are spelled by some bytes in the other dialect. -/
theorem bytes_spelledAt_ne (plain : d'.Plain) (inside : index < stream.size) :
    Text.bytes (stream.spelledAt d' index) ≠ [] := by
  obtain ⟨-, -, fills⟩ := TokenStream.ofSource_eq_ok_iff.1 read
  have more := (fills.lt_size_iff index).1 inside
  rw [bytes_spelledAt read inside, Scan.spelled]
  split
  · exact Delimiters.spelling_ne plain.valid _
  · rw [ne_eq, List.take_eq_nil_iff, not_or]
    exact ⟨Nat.ne_of_gt (scan_fits more).1, more⟩

omit read regular clear in
/-- A lexer in the other dialect stands at a token where a lexer of the source does. -/
structure Meets (stream : TokenStream) (d' : Delimiters) (index : Nat) (left right : Lexer) :
    Prop where
  rest : right.rest = stream.remainder d' index
  offset : right.offset = (stream.respelled d' index).utf8ByteSize
  mode : right.mode = left.mode
  rawPending : right.rawPending = left.rawPending

variable (lineless : d.Lineless) (plain : d'.Plain)

include lineless plain

/-- Where the lexers meet they read tokens of the same kind, as these are spelled. -/
theorem Meets.scan_eq {right : Lexer}
    (meets : Meets stream d' index ((ofSource source d).ahead index) right)
    (marks : right.marks = d'.marks) (inside : index < stream.size) :
    right.scan = { ((ofSource source d).ahead index).scan with
      width := (Text.bytes (stream.spelledAt d' index)).length } := by
  rw [Lexer.scan, marks, meets.mode, meets.rawPending, meets.rest]
  exact scan_respelled read regular clear lineless plain right.lineStart inside

/-- The lexers meet at every token. -/
theorem meets_ahead (inside : index ≤ stream.size) :
    Meets stream d' index ((ofSource source d).ahead index)
      ((ofSource (stream.respelled d' stream.size) d').ahead index) := by
  obtain ⟨-, -, fills⟩ := TokenStream.ofSource_eq_ok_iff.1 read
  induction index with
  | zero =>
    refine ⟨?_, Nat.zero_min _, rfl, rfl⟩
    exact ((tracked_ofSource (stream.respelled d' stream.size) d').ahead 0).rest
  | succ index ih =>
    have meets := ih (Nat.le_of_succ_le inside)
    have same := meets.scan_eq read regular clear lineless plain (marks_ahead index) inside
    have more := (fills.lt_size_iff index).1 inside
    have split : stream.remainder d' index = _ := TokenStream.remainder_eq inside
    have more' : ((ofSource (stream.respelled d' stream.size) d').ahead index).rest ≠ [] := by
      rw [meets.rest, split]
      exact List.append_ne_nil_of_left_ne_nil (bytes_spelledAt_ne read plain inside) _
    rw [ahead, ahead, step_of_some more, step_of_some more', same]
    constructor
    · simp only [after, meets.rest, split, List.drop_left]
    · simp only [after, meets.offset, Text.length_bytes, TokenStream.respelled,
        String.utf8ByteSize_append]
    · rfl
    · rfl

end Lexer

namespace TokenStream

open Lexer (marks_ahead meets_ahead)

variable {source : String} {d d' : Delimiters} {limit : Nat} {stream : TokenStream}

/-- Past its tokens a stream has neither kinds nor texts. -/
theorem of_size_le {index : Nat} (past : stream.size ≤ index) :
    stream.kindAt? index = none ∧ stream.textAt index = "" := by
  rw [kindAt?, textAt, Array.getElem?_eq_none past]
  exact ⟨rfl, rfl⟩

/-- Between its place and that of the next a token is spelled in what is respelled. -/
theorem slice_respelled {index : Nat} (inside : index < stream.size)
    (solid : stream.spelledAt d index ≠ "") :
    Text.slice (stream.respelled d stream.size) (stream.respelled d index).utf8ByteSize
      (stream.respelled d (index + 1)).utf8ByteSize = stream.spelledAt d index := by
  have spelled : Text.bytes (stream.spelledAt d index) <+:
      (Text.bytes (stream.respelled d stream.size)).drop
        (stream.respelled d index).utf8ByteSize := by
    rw [← remainder, remainder_eq inside]
    exact List.prefix_append _ _
  have cut := Text.slice_of_bytes solid spelled
  rwa [Text.length_bytes, ← String.utf8ByteSize_append, ← respelled] at cut

/-- A source in another dialect in which nothing that is copied is read as a delimiter is read there
token by token as it was, in the same modes, with the delimiters spelled in that dialect. -/
theorem ofSource_respelled (lineless : d.Lineless) (plain : d'.Plain)
    (read : ofSource source d limit = .ok stream) (regular : stream.Regular)
    (clear : stream.Respells d') :
    ∃ two, ofSource (stream.respelled d' stream.size) d' limit = .ok two ∧
      (∀ index, two.kindAt? index = stream.kindAt? index) ∧
      (∀ index, two.textAt index = stream.spelledAt d' index) ∧
      two.modes = stream.modes ∧ two.endMode = stream.endMode := by
  obtain ⟨-, short, fills⟩ := ofSource_eq_ok_iff.1 read
  let right := Lexer.ofSource (stream.respelled d' stream.size) d'
  have meets {index : Nat} (inside : index ≤ stream.size) :
      Lexer.Meets stream d' index ((Lexer.ofSource source d).ahead index) (right.ahead index) :=
    meets_ahead read regular clear lineless plain inside
  have ended : (right.ahead stream.size).rest = [] :=
    (meets (Nat.le_refl _)).rest.trans remainder_size
  have fewer : stream.size ≤ limit := by
    apply Nat.le_of_not_lt
    intro more
    exact (fills.lt_size_iff limit).1 more (Lexer.token?_eq_none_iff.1 short)
  have short' : right.token? limit = none :=
    Lexer.token?_mono (Lexer.token?_eq_none_iff.2 ended) fewer
  obtain ⟨two, read', fills'⟩ : ∃ two, ofSource (stream.respelled d' stream.size) d' limit =
      .ok two ∧ right.Fills two :=
    ⟨_, ofSource_eq_ok_iff.2 ⟨rfl, short', fills_ofReading short'⟩, fills_ofReading short'⟩
  have some {index : Nat} (inside : index < stream.size) : (right.ahead index).rest ≠ [] := by
    rw [(meets (Nat.le_of_lt inside)).rest, remainder_eq inside]
    exact List.append_ne_nil_of_left_ne_nil (Lexer.bytes_spelledAt_ne read plain inside) _
  have size : two.size = stream.size := by
    apply Nat.le_antisymm
    · exact Nat.le_of_not_lt fun more => (fills'.lt_size_iff _).1 more ended
    · exact Nat.le_of_not_lt fun less => Nat.lt_irrefl _ ((fills'.lt_size_iff _).2 (some less))
  refine ⟨two, read', fun index => ?_, fun index => ?_, ?_, ?_⟩
  · rcases Nat.lt_or_ge index stream.size with inside | past
    · have same := (meets (Nat.le_of_lt inside)).scan_eq read regular clear lineless plain
        (marks_ahead index) inside
      rw [fills.kindAt?_eq inside, fills'.kindAt?_eq (size ▸ inside), same]
    · rw [(of_size_le past).1, (of_size_le (size ▸ past)).1]
  · rcases Nat.lt_or_ge index stream.size with inside | past
    · have here := meets (Nat.le_of_lt inside)
      have next := meets (Nat.succ_le_of_lt inside)
      have solid : stream.spelledAt d' index ≠ "" := fun empty =>
        Lexer.bytes_spelledAt_ne read plain inside (Text.bytes_eq_nil_iff.2 empty)
      rw [textAt, fills'.getElem?_tokens (size ▸ inside), here.offset, next.offset]
      rw [(ofSource_eq_ok_iff.1 read').1]
      exact slice_respelled inside solid
    · obtain ⟨kind, text⟩ := of_size_le past
      rw [(of_size_le (size ▸ past)).2, spelledAt, kind, text]
  · apply Array.ext_getElem?
    intro index
    rcases Nat.lt_or_ge index stream.size with inside | past
    · rw [fills.getElem?_modes inside, fills'.getElem?_modes (size ▸ inside)]
      exact congrArg Option.some (meets (Nat.le_of_lt inside)).mode
    · rw [fills.modes, fills'.modes, Lexer.token?_mono (Lexer.token?_eq_none_iff.2 ended) past,
        Lexer.token?_mono (Lexer.token?_eq_none_iff.2 fills.rest_size) past]
  · rw [fills.endMode_eq, fills'.endMode_eq, size]
    exact (meets (Nat.le_refl _)).mode

end TokenStream
end Stencil
