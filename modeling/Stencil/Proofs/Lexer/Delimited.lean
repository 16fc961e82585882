import Stencil.Proofs.Lexer.Layout
import Stencil.Proofs.Lexer.Tiling
/-!
# Tags in a stream

Between a start delimiter and the token that closes it a stream has no delimiter and no newline
(`TokenStream.Delimited`), and its tokens tile the source (`TokenStream.Tiled`). Every stream that
the lexer reads is of this form, with any delimiters: the mode after a start delimiter is left by
the closing token only, and in it all other tokens are loose (`Scan.next_closes`).
-/

namespace Stencil
namespace TokenStream

/-- The kind of token that closes what the token at a place begins, if it is a start delimiter. The
mode after it tells whether the end of the line does. -/
def closerAt? (stream : TokenStream) (index : Nat) : Option TokenKind :=
  match stream.kindAt? index with
  | some (.delimiter .variableStart) => some (.delimiter .variableEnd)
  | some (.delimiter .blockStart) =>
    some (if stream.modeAfter? index = some .lineStatement then .newline else .delimiter .blockEnd)
  | some (.delimiter .commentStart) =>
    some (if stream.modeAfter? index = some .lineComment then .newline
      else .delimiter .commentEnd)
  | _ => none

/-- What closes a tag is a delimiter or a newline. -/
theorem isStructural_of_closerAt? {stream : TokenStream} {index : Nat} {closer : TokenKind}
    (closes : stream.closerAt? index = some closer) : closer.isStructural = true := by
  rw [closerAt?] at closes
  split at closes
  · obtain rfl := Option.some.inj closes
    rfl
  · obtain rfl := Option.some.inj closes
    split <;> rfl
  · obtain rfl := Option.some.inj closes
    split <;> rfl
  · contradiction

/-- Between two places there are tokens, and none is a delimiter or a newline. -/
def Loose (stream : TokenStream) (start stop : Nat) : Prop :=
  ∀ index, start ≤ index → index < stop →
    (stream.kindAt? index).any (fun kind => !kind.isStructural) = true

/-- Between a start delimiter and the token that closes it, or the end of the stream, there is no
delimiter and no newline. -/
def Delimited (stream : TokenStream) : Prop :=
  ∀ ⦃index : Nat⦄ ⦃closer : TokenKind⦄, stream.closerAt? index = some closer →
    ∃ stop, index < stop ∧ stream.Loose (index + 1) stop ∧
      (stream.kindAt? stop = some closer ∨ stream.kindAt? stop = none)

/-- The tokens of the stream tile its source. -/
def Tiled (stream : TokenStream) : Prop :=
  Tiles 0 stream.source.utf8ByteSize stream.tokens.toList

end TokenStream

/-! ### The kinds of tokens in a mode -/

/-- The kind of token that ends the reading in a mode. -/
def Mode.closer? : Mode → Option TokenKind
  | .template | .raw => none
  | .blockTag => some (.delimiter .blockEnd)
  | .variableTag => some (.delimiter .variableEnd)
  | .comment => some (.delimiter .commentEnd)
  | .lineStatement | .lineComment => some .newline

/-- A word is neither a delimiter nor a newline. -/
theorem TokenKind.ofWord?_loose {word : String} {kind : TokenKind}
    (found : ofWord? word = some kind) : kind.isStructural = false := by
  have loose : ∀ entry ∈ words, entry.2.isStructural = false := by decide
  obtain ⟨entry, listed, rfl⟩ := Option.map_eq_some_iff.1 found
  exact loose entry (List.mem_of_find?_eq_some listed)

/-- A mark of one character is neither a delimiter nor a newline. -/
theorem TokenKind.ofMark?_loose {c : Char} {kind : TokenKind} (found : ofMark? c = some kind) :
    kind.isStructural = false := by
  unfold ofMark? at found
  split at found
  all_goals cases found
  all_goals rfl

namespace Scan

/-- A number is not structural. -/
theorem number_loose (mode : Mode) (rawPending : Bool) (rest : List UInt8) :
    (number mode rawPending rest).kind.isStructural = false := by
  unfold number
  dsimp only
  split
  · split <;> rfl
  · rfl

/-- A word is not structural. -/
theorem word_loose (mode : Mode) (rawPending : Bool) (rest : List UInt8) :
    (word mode rawPending rest).kind.isStructural = false := by
  rw [word]
  dsimp only
  cases found : TokenKind.ofWord? (asciiText (rest.takeWhile inWord)) with
  | none => rfl
  | some kind => exact TokenKind.ofWord?_loose found

/-- The expression language has neither delimiters nor newlines. -/
theorem expression_loose (mode : Mode) (rawPending : Bool) (rest : List UInt8) :
    (expression mode rawPending rest).kind.isStructural = false := by
  unfold expression
  split
  · rfl
  · split
    · rfl
    split
    · rfl
    split
    next found => exact TokenKind.ofMark?_loose found
    split
    · rfl
    split
    · exact number_loose mode rawPending _
    split
    · exact word_loose mode rawPending _
    · rfl

/-- In a mode that something ends, reading goes on in the mode up to there, with loose tokens. -/
theorem next_closes {mode : Mode} {closer : TokenKind} (closes : mode.closer? = some closer)
    (m : Marks) (lineStart rawPending : Bool) (rest : List UInt8) :
    let scan := next m mode lineStart rawPending rest
    scan.kind = closer ∨ scan.kind.isStructural = false ∧ scan.mode = mode := by
  have within (mode : Mode) (rawPending : Bool) :
      (expression mode rawPending rest).kind.isStructural = false ∧
        (expression mode rawPending rest).mode = mode :=
    ⟨expression_loose mode rawPending rest, expression_mode mode rawPending rest⟩
  intro scan
  cases mode with
  | template => contradiction
  | raw => contradiction
  | blockTag =>
    cases closes
    simp only [scan, next, blockTag]
    split
    · exact .inl rfl
    · exact .inr (within .blockTag rawPending)
  | variableTag =>
    cases closes
    simp only [scan, next, variableTag]
    split
    · exact .inl rfl
    · exact .inr (within .variableTag false)
  | comment =>
    cases closes
    simp only [scan, next, comment]
    split
    · exact .inl rfl
    · exact .inr ⟨rfl, rfl⟩
  | lineStatement =>
    cases closes
    simp only [scan, next, lineStatement]
    split
    · exact .inl rfl
    · exact .inr (within .lineStatement false)
  | lineComment =>
    cases closes
    simp only [scan, next, lineComment]
    split
    · exact .inl rfl
    · exact .inr ⟨rfl, rfl⟩

/-- A start delimiter leads into a tag or a comment of its form. -/
def Enters (scan : Scan) : Prop :=
  match scan.kind with
  | .delimiter .variableStart => scan.mode = .variableTag
  | .delimiter .blockStart => scan.mode = .blockTag ∨ scan.mode = .lineStatement
  | .delimiter .commentStart => scan.mode = .comment ∨ scan.mode = .lineComment
  | _ => True

/-- Start delimiters are read between tags and at the end of raw content. -/
theorem next_enters (m : Marks) (mode : Mode) (lineStart rawPending : Bool) (rest : List UInt8) :
    (next m mode lineStart rawPending rest).Enters := by
  cases closes : mode.closer? with
  | some closer =>
    rw [Enters]
    rcases next_closes closes m lineStart rawPending rest with closed | ⟨loose, -⟩
    · rw [closed]
      cases mode <;> cases closes <;> trivial
    · split <;> simp_all [TokenKind.isStructural, TokenKind.isDelimiter]
  | none =>
    cases mode with
    | template =>
      simp only [next, template]
      split
      · exact .inr rfl
      split
      · exact .inr rfl
      split
      · exact .inl rfl
      split
      · rfl
      split
      · exact .inl rfl
      split <;> trivial
    | raw =>
      simp only [next, raw]
      split
      · exact .inl rfl
      · trivial
    | _ => contradiction

end Scan

/-! ### Streams -/

namespace Lexer

variable {lexer : Lexer} {stream : TokenStream} (fills : lexer.Fills stream) {place : Nat}

include fills

/-- The kind of each token is the one that the lexer scans there. -/
theorem Fills.kindAt?_eq (inside : place < stream.size) :
    stream.kindAt? place = some (lexer.ahead place).scan.kind := by
  rw [TokenStream.kindAt?, fills.getElem?_tokens inside]
  rfl

/-- The mode after a token is that of the state after it. -/
theorem Fills.modeAfter?_eq (inside : place < stream.size) :
    stream.modeAfter? place = some (lexer.ahead (place + 1)).mode := by
  rw [TokenStream.modeAfter?, if_pos inside]
  by_cases further : place + 1 < stream.size
  · rw [fills.getElem?_modes further]
    rfl
  · have empty : (lexer.ahead (place + 1)).rest = [] := by
      simpa using mt (fills.lt_size_iff (place + 1)).2 further
    obtain ⟨count, ended, mode⟩ := fills.ended
    rw [fills.modes, token?_eq_none_iff.2 empty, ahead_of_ended empty ended]
    exact congrArg some mode

/-- Behind a start delimiter the reading is in a mode that its closing token ends. -/
theorem Fills.closer?_eq {closer : TokenKind} (closes : stream.closerAt? place = some closer) :
    (lexer.ahead (place + 1)).mode.closer? = some closer := by
  have inside : place < stream.size := by
    apply Classical.byContradiction
    intro beyond
    rw [TokenStream.closerAt?, TokenStream.kindAt?,
      Array.getElem?_eq_none (Nat.le_of_not_lt beyond)] at closes
    contradiction
  have some := (fills.lt_size_iff place).1 inside
  have mode : (lexer.ahead (place + 1)).mode = (lexer.ahead place).scan.mode := by
    rw [ahead, step_of_some some, after]
  have enters : (lexer.ahead place).scan.Enters := Scan.next_enters _ _ _ _ _
  rw [TokenStream.closerAt?, fills.kindAt?_eq inside, fills.modeAfter?_eq inside, mode] at closes
  rw [mode]
  rw [Scan.Enters] at enters
  split at closes
  next kind =>
    rw [Option.some.inj kind] at enters
    rw [enters]
    exact closes
  next kind =>
    rw [Option.some.inj kind] at enters
    rcases enters with tag | line
    · rw [tag] at closes ⊢
      exact closes
    · rw [line] at closes ⊢
      exact closes
  next kind =>
    rw [Option.some.inj kind] at enters
    rcases enters with comment | line
    · rw [comment] at closes ⊢
      exact closes
    · rw [line] at closes ⊢
      exact closes
  · contradiction

/-- From a place in a mode that something ends there are loose tokens up to there or to the end. -/
theorem Fills.loose {closer : TokenKind}
    (closes : (lexer.ahead place).mode.closer? = some closer) :
    ∃ stop, place ≤ stop ∧ stream.Loose place stop ∧
      (stream.kindAt? stop = some closer ∨ stream.kindAt? stop = none) := by
  induction left : stream.size - place generalizing place with
  | zero =>
    refine ⟨place, Nat.le_refl _, fun index after before => by omega, .inr ?_⟩
    rw [TokenStream.kindAt?, Array.getElem?_eq_none (Nat.sub_eq_zero_iff_le.1 left)]
    rfl
  | succ left ih =>
    have inside : place < stream.size := by omega
    have more := (fills.lt_size_iff place).1 inside
    have here := fills.kindAt?_eq inside
    rcases Scan.next_closes closes (lexer.ahead place).marks (lexer.ahead place).lineStart
      (lexer.ahead place).rawPending (lexer.ahead place).rest with closed | ⟨loose, same⟩
    · exact ⟨place, Nat.le_refl _, fun index after before => by omega,
        .inl (here.trans (congrArg some closed))⟩
    · have within : (lexer.ahead (place + 1)).mode.closer? = some closer := by
        rw [ahead, step_of_some more]
        exact (congrArg Mode.closer? same).trans closes
      obtain ⟨stop, past, between, ended⟩ := ih within (by omega)
      refine ⟨stop, by omega, fun index after before => ?_, ended⟩
      rcases Nat.eq_or_lt_of_le after with rfl | later
      · rw [here]
        exact congrArg not loose
      · exact between index later before

/-- The stream that a lexer fills is delimited. -/
theorem Fills.delimited : stream.Delimited :=
  fun _ _ closes => fills.loose (fills.closer?_eq closes)

end Lexer

namespace TokenStream

/-- A fresh stream is the one of its source. -/
theorem ofSource_of_isFresh {stream : TokenStream} {d : Delimiters}
    (fresh : stream.isFresh d = true) : ofSource stream.source d = .ok stream := by
  rw [isFresh, decide_eq_true_iff] at fresh
  cases read : ofSource stream.source d with
  | error fault =>
    rw [read] at fresh
    contradiction
  | ok found =>
    rw [read] at fresh
    exact congrArg Except.ok (Option.some.inj fresh)

/-- The tokens of a range that is read tile it. -/
theorem tiles_ofRange {source : String} {start stop : Nat} {mode : Mode} {d : Delimiters}
    {stream : TokenStream} (forward : start ≤ stop) (inside : stop ≤ source.utf8ByteSize)
    (fills : (Lexer.ofRange source start stop mode d).Fills stream) :
    Tiles start stop stream.tokens.toList := by
  have length := Lexer.length_rest_ofRange source start stop mode d
  have offset : (Lexer.ofRange source start stop mode d).offset = start := by
    rw [Lexer.ofRange, Nat.min_eq_left inside, Nat.min_eq_left forward]
  rw [Nat.min_eq_left inside, Nat.min_eq_left forward] at length
  generalize Lexer.ofRange source start stop mode d = lexer at fills length offset
  have listed : stream.tokens.toList = lexer.readAll.1.toList.map (·.token) := by
    apply List.ext_getElem?
    intro place
    rw [Array.getElem?_toList, fills.tokens, List.getElem?_map, Array.getElem?_toList,
      Lexer.getElem?_readAll]
  have tiles := (lexer.read_tiles (Nat.le_refl _)).1
  rw [← Lexer.readAll, ← listed, offset, length, Nat.add_sub_cancel' forward] at tiles
  exact tiles

/-- The stream of a source has the form of those that the lexer reads, with any delimiters. -/
theorem delimited_ofSource {source : String} {d : Delimiters} {limit : Nat} {stream : TokenStream}
    (read : ofSource source d limit = .ok stream) : stream.Delimited ∧ stream.Tiled := by
  obtain ⟨rfl, -, fills⟩ := (ofRange_eq_ok_iff (Nat.zero_le _) (Nat.le_refl _)).1 read
  exact ⟨fills.delimited, tiles_ofRange (Nat.zero_le _) (Nat.le_refl _) fills⟩

end TokenStream
end Stencil
