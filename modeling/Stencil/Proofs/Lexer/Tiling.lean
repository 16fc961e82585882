import Stencil.Proofs.Lexer.Reading
import Stencil.Proofs.Text.Bytes
/-!
# Tokens tile their range

Whatever the delimiters are, also empty, equal or nested ones, and wherever a range begins and ends,
the lexer hands out tokens that lie one after another from the start of the range to its end, and
then nothing more (`readAll_tiles`). The reason is that every scanning rule takes at least one byte
by itself: a guard against a scan of no bytes would change nothing (`guardedNext?_eq`).
-/

namespace Stencil

/-- Tokens one after another from one offset to another, each over at least one byte. -/
inductive Tiles : Nat → Nat → List Token → Prop where
  | nil (offset : Nat) : Tiles offset offset []
  | cons {token : Token} {stop : Nat} {rest : List Token} (solid : token.start < token.stop)
      (further : Tiles token.stop stop rest) : Tiles token.start stop (token :: rest)

namespace Tiles

variable {start stop : Nat} {tokens : List Token}

/-- There are no more tokens than bytes. -/
theorem length_le (tiles : Tiles start stop tokens) : start + tokens.length ≤ stop := by
  induction tiles with
  | nil offset => exact Nat.le_refl _
  | cons solid further ih =>
    rw [List.length_cons]
    omega

/-- No token starts before the range. -/
theorem le_start (tiles : Tiles start stop tokens) {token : Token} (member : token ∈ tokens) :
    start ≤ token.start := by
  induction tiles with
  | nil => contradiction
  | cons solid further ih =>
    rcases List.mem_cons.1 member with rfl | later
    · exact Nat.le_refl _
    · exact Nat.le_trans (Nat.le_of_lt solid) (ih later)

/-- Tokens up to one of them are joined by tokens that go on from its start. -/
theorem join (tiles : Tiles start stop tokens) {token : Token} (member : token ∈ tokens)
    {last : Nat} {tail : List Token} (further : Tiles token.start last tail) :
    Tiles start last ((tokens.takeWhile fun earlier => earlier.start < token.start) ++ tail) := by
  induction tiles with
  | nil => contradiction
  | @cons first stop rest solid onward ih =>
    by_cases before : first.start < token.start
    · have later : token ∈ rest := by
        rcases List.mem_cons.1 member with rfl | later
        · exact absurd before (Nat.lt_irrefl _)
        · exact later
      rw [List.takeWhile_cons_of_pos (by simpa using before), List.cons_append]
      exact .cons solid (ih later)
    · have here : token = first := by
        rcases List.mem_cons.1 member with here | later
        · exact here
        · exact absurd (Nat.lt_of_lt_of_le solid (onward.le_start later)) before
      rw [List.takeWhile_cons_of_neg (by simpa using before), List.nil_append]
      exact here ▸ further

/-- The first token starts with the range. -/
theorem head (tiles : Tiles start stop tokens) :
    (tokens[0]?.map (·.start)).getD stop = start := by
  cases tiles with
  | nil => rfl
  | cons => rfl

/-- A token covers at least one byte and ends where the next one starts, or with the range. -/
theorem next (tiles : Tiles start stop tokens) {index : Nat} {token : Token}
    (listed : tokens[index]? = some token) :
    token.start < token.stop ∧ (tokens[index + 1]?.map (·.start)).getD stop = token.stop := by
  induction tiles generalizing index with
  | nil => contradiction
  | cons solid further ih =>
    cases index with
    | zero =>
      obtain rfl := Option.some.inj listed
      exact ⟨solid, further.head⟩
    | succ index => exact ih listed

end Tiles

namespace Scan

/-! ### Rules that take a byte -/

/-- Every rule takes at least one byte, and none beyond the end, wherever a scan comes to it. -/
structure Advancing (m : Marks) : Prop where
  template (lineStart : Bool) {rest : List UInt8} (some : rest ≠ []) :
    (template m lineStart rest).Fits rest
  blockTag (rawPending : Bool) {rest : List UInt8} (some : rest ≠ []) :
    (blockTag m rawPending rest).Fits rest
  variableTag {rest : List UInt8} (some : rest ≠ []) : (variableTag m rest).Fits rest
  lineStatement {rest : List UInt8} (some : rest ≠ []) : (lineStatement rest).Fits rest
  comment {rest : List UInt8} (some : rest ≠ []) : (comment m rest).Fits rest
  lineComment {rest : List UInt8} (some : rest ≠ []) : (lineComment rest).Fits rest
  raw {rest : List UInt8} (some : rest ≠ []) : (raw m rest).Fits rest
  expression (mode : Mode) (rawPending : Bool) {rest : List UInt8} (some : rest ≠ []) :
    (expression mode rawPending rest).Fits rest
  number (mode : Mode) (rawPending : Bool) {b : UInt8} (digit : isDigit b = true)
    (tail : List UInt8) : (number mode rawPending (b :: tail)).Fits (b :: tail)
  word (mode : Mode) (rawPending : Bool) {b : UInt8} (letter : startsWord b = true)
    (tail : List UInt8) : (word mode rawPending (b :: tail)).Fits (b :: tail)
  string (quote : UInt8) (tail : List UInt8) :
    1 ≤ stringFrom quote 0 1 tail ∧ stringFrom quote 0 1 tail ≤ (quote :: tail).length

/-- All rules advance. -/
theorem advancing (m : Marks) : Advancing m where
  template lineStart _ some := next_fits m .template lineStart false some
  blockTag rawPending _ some := next_fits m .blockTag false rawPending some
  variableTag some := next_fits m .variableTag false false some
  lineStatement some := next_fits m .lineStatement false false some
  comment some := next_fits m .comment false false some
  lineComment some := next_fits m .lineComment false false some
  raw some := next_fits m .raw false false some
  expression mode rawPending _ some := expression_fits mode rawPending some
  number mode rawPending b digit tail := number_fits mode rawPending b tail digit
  word mode rawPending b letter tail := word_fits mode rawPending b tail letter
  string quote tail := by
    rw [List.length_cons, Nat.add_comm tail.length]
    exact stringFrom_bounds quote 0 1 tail

/-- A scan that takes no byte takes a character instead, or what is left of one. -/
def orCharacter (scan : Scan) (rest : List UInt8) : Scan :=
  if scan.width = 0 then
    { scan with width := min ((rest.head?.map charWidth).getD 1) rest.length }
  else
    scan

end Scan

namespace Lexer

/-- The next token and the lexer after it, with a guard against a scan of no bytes. -/
def guardedNext? (lexer : Lexer) : Option (Lexed × Lexer) :=
  if lexer.rest.isEmpty then
    none
  else
    let scan := lexer.scan.orCharacter lexer.rest
    some (⟨⟨scan.kind, lexer.offset, lexer.offset + scan.width⟩, lexer.mode⟩, lexer.after scan)

/-- The guard changes nothing. -/
theorem guardedNext?_eq (lexer : Lexer) : lexer.guardedNext? = lexer.next? := by
  rw [guardedNext?, next?]
  split
  · rfl
  next some =>
    have fits : lexer.scan.Fits lexer.rest := Scan.next_fits _ _ _ _ (by simpa using some)
    have positive : ¬lexer.scan.width = 0 := Nat.ne_of_gt fits.1
    rw [Scan.orCharacter, if_neg positive]

/-! ### Runs -/

/-- With a budget of a token for each byte all bytes are read, into tokens that tile them. -/
theorem read_tiles (lexer : Lexer) {budget : Nat} (enough : lexer.rest.length ≤ budget) :
    Tiles lexer.offset (lexer.offset + lexer.rest.length)
        ((lexer.read budget).1.toList.map (·.token)) ∧ (lexer.read budget).2.rest = [] := by
  induction budget generalizing lexer with
  | zero =>
    have empty : lexer.rest = [] := List.length_eq_zero_iff.1 (Nat.le_zero.1 enough)
    refine ⟨?_, empty⟩
    rw [empty]
    exact .nil _
  | succ budget ih =>
    rw [read_succ]
    split
    next empty =>
      rw [List.isEmpty_iff] at empty
      refine ⟨?_, empty⟩
      rw [empty]
      exact .nil _
    next some =>
      have fits : lexer.scan.Fits lexer.rest := Scan.next_fits _ _ _ _ (by simpa using some)
      have least := fits.1
      have most := fits.2
      have stepped : lexer.step = lexer.after lexer.scan := if_neg some
      have length : lexer.step.rest.length = lexer.rest.length - lexer.scan.width := by
        rw [stepped, after, List.length_drop]
      have offset : lexer.step.offset = lexer.offset + lexer.scan.width := by rw [stepped, after]
      obtain ⟨tiles, nothing⟩ := ih lexer.step (by omega)
      rw [offset, length, Nat.add_assoc, Nat.add_sub_cancel' most] at tiles
      refine ⟨?_, nothing⟩
      have first : Tiles lexer.offset (lexer.offset + lexer.rest.length) (lexer.current.token ::
          (lexer.step.read budget).1.toList.map (·.token)) :=
        @Tiles.cons lexer.current.token _ _ (Nat.lt_add_of_pos_right least) tiles
      simpa using first

/-- A call gives the token that is read then, if one is. -/
theorem next?_ahead (lexer : Lexer) (call : Nat) :
    (lexer.ahead call).next?.map (·.1) = lexer.token? call := by
  rw [next?_eq, token?]
  split <;> rfl

/-- The calls give the tokens of the whole reading in order, and nothing after them. -/
theorem getElem?_readAll (lexer : Lexer) (call : Nat) :
    lexer.readAll.1[call]? = lexer.token? call := by
  rw [readAll, getElem?_read]
  split
  · rfl
  next past =>
    have nothing := (lexer.read_tiles (Nat.le_refl _)).2
    rw [read_snd] at nothing
    exact (token?_mono (token?_eq_none_iff.2 nothing) (Nat.le_of_not_lt past)).symm

/-- What is left at the start of a range is the range. -/
theorem length_rest_ofRange (source : String) (start stop : Nat) (mode : Mode) (d : Delimiters) :
    (ofRange source start stop mode d).rest.length =
      min stop source.utf8ByteSize - min start (min stop source.utf8ByteSize) := by
  have size := Text.length_bytes source
  simp only [ofRange, List.length_take, List.length_drop, size]
  omega

/-- Every range of every source is read with any delimiters and from any mode: call by call the
lexer gives tokens that tile the range, no more than it has bytes, and then nothing. Every scanning
rule takes a byte by itself, so that no guard is needed. -/
theorem readAll_tiles (source : String) (start stop : Nat) (mode : Mode) (d : Delimiters) :
    let last := min stop source.utf8ByteSize
    let first := min start last
    let lexer := ofRange source start stop mode d
    let tokens := lexer.readAll.1.toList.map (·.token)
    Tiles first last tokens ∧ tokens.length ≤ last - first ∧
      (∀ call, (lexer.ahead call).next?.map (·.1.token) = tokens[call]?) ∧
      lexer.readAll.2.next? = none ∧
      (∀ other : Lexer, other.guardedNext? = other.next?) ∧ Scan.Advancing d.marks := by
  intro last first lexer tokens
  have length : lexer.rest.length = last - first := length_rest_ofRange source start stop mode d
  have offset : lexer.offset = first := rfl
  have order : first ≤ last := Nat.min_le_right _ _
  have stop : lexer.offset + lexer.rest.length = last := by omega
  obtain ⟨tiled, nothing⟩ := lexer.read_tiles (Nat.le_refl _)
  have tiles : Tiles first last tokens := stop ▸ tiled
  have few := tiles.length_le
  refine ⟨tiles, Nat.le_sub_of_add_le' few, fun call => ?_, ?_, guardedNext?_eq,
    Scan.advancing d.marks⟩
  · have given := congrArg (Option.map (·.token)) (lexer.next?_ahead call)
    rw [← getElem?_readAll, Option.map_map] at given
    rw [List.getElem?_map, Array.getElem?_toList]
    exact given
  · rw [next?_eq, readAll, if_pos (List.isEmpty_iff.2 nothing)]

end Lexer
end Stencil
