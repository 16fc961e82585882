import Stencil.Lexer.Relex
/-!
# Reading token by token

What a lexer reads is told by its states: `ahead` is the lexer after so many tokens and `token?` the
token it reads then. `ofRange_eq_ok_iff` says which stream a range gives in these terms, and
`Fills.unique` that there is one only.
-/

namespace Stencil
namespace Lexer

/-- The lexer after the next token, or as it is where nothing is left. -/
def step (lexer : Lexer) : Lexer := if lexer.rest.isEmpty then lexer else lexer.after lexer.scan

/-- The lexer after so many tokens. -/
def ahead (lexer : Lexer) : Nat → Lexer
  | 0 => lexer
  | count + 1 => (lexer.ahead count).step

/-- The token with a given number, and the mode it is read in. -/
def token? (lexer : Lexer) (place : Nat) : Option Lexed :=
  if (lexer.ahead place).rest.isEmpty then none else some (lexer.ahead place).current

/-- The next token is the current one, and the step leads past it. -/
theorem next?_eq (lexer : Lexer) :
    lexer.next? = if lexer.rest.isEmpty then none else some (lexer.current, lexer.step) := by
  rw [next?, step]
  split <;> rfl

/-- Going ahead one token and then more is going ahead by all of them. -/
theorem ahead_step (lexer : Lexer) (count : Nat) :
    lexer.step.ahead count = lexer.ahead (count + 1) := by
  induction count with
  | zero => rfl
  | succ count ih =>
    rw [ahead, ih]
    rfl

/-- Going ahead twice is going ahead by both. -/
theorem ahead_ahead (lexer : Lexer) (first second : Nat) :
    (lexer.ahead first).ahead second = lexer.ahead (first + second) := by
  induction second with
  | zero => rfl
  | succ second ih => rw [ahead, ih, ← Nat.add_assoc, ahead]

/-- The tokens after some are the tokens of the lexer after these. -/
theorem token?_ahead (lexer : Lexer) (first second : Nat) :
    (lexer.ahead first).token? second = lexer.token? (first + second) := by
  rw [token?, token?, ahead_ahead]

/-- A lexer with nothing left stays as it is. -/
theorem ahead_of_isEmpty {lexer : Lexer} (ended : lexer.rest.isEmpty = true) (count : Nat) :
    lexer.ahead count = lexer := by
  induction count with
  | zero => rfl
  | succ count ih => rw [ahead, ih, step, if_pos ended]

/-- With nothing left the lexer is in one state only. -/
theorem ahead_of_ended {lexer : Lexer} {early late : Nat} (empty : (lexer.ahead early).rest = [])
    (also : (lexer.ahead late).rest = []) : lexer.ahead early = lexer.ahead late := by
  have forward := ahead_of_isEmpty (List.isEmpty_iff.2 empty) late
  have backward := ahead_of_isEmpty (List.isEmpty_iff.2 also) early
  rw [ahead_ahead] at forward backward
  rw [← forward, ← backward, Nat.add_comm]

/-- After the end no token comes. -/
theorem token?_mono {lexer : Lexer} {place later : Nat} (ended : lexer.token? place = none)
    (past : place ≤ later) : lexer.token? later = none := by
  obtain ⟨more, rfl⟩ := Nat.exists_eq_add_of_le past
  rw [token?, ite_eq_left_iff] at ended
  have empty : (lexer.ahead place).rest.isEmpty = true := by
    by_cases empty : (lexer.ahead place).rest.isEmpty = true
    · exact empty
    · exact absurd (ended empty) (Option.some_ne_none _)
  rw [← token?_ahead, token?, ahead_of_isEmpty empty, if_pos empty]

/-- No token comes exactly where nothing is left. -/
theorem token?_eq_none_iff {lexer : Lexer} {place : Nat} :
    lexer.token? place = none ↔ (lexer.ahead place).rest = [] := by
  rw [token?]
  split
  next empty => simpa using empty
  next some => simpa using some

/-- What has been read before stays in front of what is read. -/
theorem readOnto_eq (read : Array Lexed) (lexer : Lexer) (budget : Nat) :
    readOnto read lexer budget = (read ++ (lexer.read budget).1, (lexer.read budget).2) := by
  induction budget generalizing read lexer with
  | zero => simp [Lexer.read, readOnto]
  | succ budget ih =>
    rw [Lexer.read, readOnto, readOnto]
    cases next : lexer.next? with
    | none => simp
    | some found =>
      obtain ⟨lexed, later⟩ := found
      dsimp only
      rw [ih (read.push lexed) later, ih (#[].push lexed) later]
      rw [Array.push_eq_append, Array.push_eq_append, Array.empty_append, Array.append_assoc]

/-- A token is read as long as there is one, and then what comes after it. -/
theorem read_succ (lexer : Lexer) (budget : Nat) : lexer.read (budget + 1) =
    if lexer.rest.isEmpty then (#[], lexer)
    else (#[lexer.current] ++ (lexer.step.read budget).1, (lexer.step.read budget).2) := by
  rw [Lexer.read, readOnto, next?_eq]
  by_cases empty : lexer.rest.isEmpty = true
  · rw [if_pos empty, if_pos empty]
  · rw [if_neg empty, if_neg empty]
    dsimp only
    rw [readOnto_eq]
    rfl

/-- Reading reads the tokens in order, up to the budget. -/
theorem getElem?_read (lexer : Lexer) (budget place : Nat) :
    (lexer.read budget).1[place]? = if place < budget then lexer.token? place else none := by
  induction budget generalizing lexer place with
  | zero => simp [Lexer.read, readOnto]
  | succ budget ih =>
    rw [read_succ]
    split
    next empty =>
      have ended : lexer.token? place = none :=
        @token?_mono lexer 0 place (if_pos empty) (Nat.zero_le _)
      rw [ended, ite_self]
      rfl
    next some =>
      cases place with
      | zero =>
        rw [Array.getElem?_append_left (by simp), if_pos (Nat.succ_pos _), token?, ahead,
          if_neg some]
        rfl
      | succ place =>
        rw [Array.getElem?_append_right (by simp)]
        simp only [List.size_toArray, List.length_cons, List.length_nil, Nat.zero_add,
          Nat.add_sub_cancel, Nat.add_lt_add_iff_right]
        rw [ih, token?, token?, ahead_step]

/-- Reading leads past the tokens that were read. -/
theorem read_snd (lexer : Lexer) (budget : Nat) : (lexer.read budget).2 = lexer.ahead budget := by
  induction budget generalizing lexer with
  | zero => rfl
  | succ budget ih =>
    rw [read_succ]
    split
    next empty => rw [ahead_of_isEmpty empty]
    next => rw [ih, ahead_step]

/-- The tokens and modes of a stream are those a lexer reads to the end. -/
structure Fills (lexer : Lexer) (stream : TokenStream) : Prop where
  tokens : ∀ place, stream.tokens[place]? = (lexer.token? place).map (·.token)
  modes : ∀ place, stream.modes[place]? = (lexer.token? place).map (·.mode)
  ended : ∃ count, (lexer.ahead count).rest = [] ∧ stream.endMode = (lexer.ahead count).mode

/-- A lexer fills one stream of a source only. -/
theorem Fills.unique {lexer : Lexer} {left right : TokenStream} (first : lexer.Fills left)
    (second : lexer.Fills right) (source : left.source = right.source) : left = right := by
  obtain ⟨leftSource, leftTokens, leftModes, leftEnd⟩ := left
  obtain ⟨rightSource, rightTokens, rightModes, rightEnd⟩ := right
  obtain rfl : leftSource = rightSource := source
  obtain rfl : leftTokens = rightTokens :=
    Array.ext_getElem? fun place => (first.tokens place).trans (second.tokens place).symm
  obtain rfl : leftModes = rightModes :=
    Array.ext_getElem? fun place => (first.modes place).trans (second.modes place).symm
  obtain ⟨early, empty, here⟩ := first.ended
  obtain ⟨late, also, there⟩ := second.ended
  obtain rfl : leftEnd = rightEnd := by
    dsimp only at here there
    rw [here, there, ahead_of_ended empty also]
  rfl

/-- The number of tokens of a stream that a lexer fills is where no more come. -/
theorem Fills.lt_size_iff {lexer : Lexer} {stream : TokenStream} (fills : lexer.Fills stream)
    (place : Nat) : place < stream.size ↔ (lexer.ahead place).rest ≠ [] := by
  have listed := fills.tokens place
  rw [ne_eq, ← token?_eq_none_iff, TokenStream.size]
  cases token : lexer.token? place with
  | none =>
    rw [token, Option.map_none, Array.getElem?_eq_none_iff] at listed
    simpa using listed
  | some lexed =>
    rw [token, Option.map_some] at listed
    simpa using (Array.getElem?_eq_some_iff.1 listed).1

end Lexer

namespace TokenStream

/-- A range is read by its lexer, up to the limit. -/
theorem readRange_eq (source : String) (start stop : Nat) (mode : Mode) (d : Delimiters)
    (limit : Nat) : readRange source start stop mode d limit =
      ⟨((Lexer.ofRange source start stop mode d).read limit).1,
        (Lexer.ofRange source start stop mode d).ahead limit⟩ := by
  rw [← Lexer.read_snd]
  rfl

/-- What was read of a range fills its stream, if it was read to the end. -/
theorem fills_ofReading {source : String} {start stop : Nat} {mode : Mode} {d : Delimiters}
    {limit : Nat}
    (ended : (Lexer.ofRange source start stop mode d).token? limit = none) :
    (Lexer.ofRange source start stop mode d).Fills
      (ofReading source (readRange source start stop mode d limit)) := by
  generalize reads : Lexer.ofRange source start stop mode d = lexer at ended ⊢
  have within (place : Nat) : (if place < limit then lexer.token? place else none) =
      lexer.token? place := by
    split
    · rfl
    next past => exact (Lexer.token?_mono ended (Nat.le_of_not_lt past)).symm
  rw [readRange_eq, reads]
  refine ⟨fun place => ?_, fun place => ?_, limit, Lexer.token?_eq_none_iff.1 ended, rfl⟩
  · rw [ofReading, Array.getElem?_map, Lexer.getElem?_read, within]
  · rw [ofReading, Array.getElem?_map, Lexer.getElem?_read, within]

/-- A range that is read lies in its source. -/
theorem range_of_ofRange {source : String} {start stop : Nat} {mode : Mode} {d : Delimiters}
    {limit : Nat} {stream : TokenStream}
    (read : ofRange source start stop mode d limit = .ok stream) :
    start ≤ stop ∧ stop ≤ source.utf8ByteSize := by
  rw [ofRange, rangeFault?] at read
  by_cases outside : (decide (start > stop) || decide (stop > source.utf8ByteSize)) = true
  · rw [if_pos outside] at read
    contradiction
  · simp only [Bool.or_eq_true, decide_eq_true_eq, not_or, Nat.not_lt] at outside
    exact outside

/-- A range of the source gives the stream that its lexer fills, if that is within the limit. -/
theorem ofRange_eq_ok_iff {source : String} {start stop : Nat} {mode : Mode} {d : Delimiters}
    {limit : Nat} {stream : TokenStream} (forward : start ≤ stop)
    (inside : stop ≤ source.utf8ByteSize) :
    ofRange source start stop mode d limit = .ok stream ↔
      stream.source = source ∧ (Lexer.ofRange source start stop mode d).token? limit = none ∧
        (Lexer.ofRange source start stop mode d).Fills stream := by
  have sound : rangeFault? source start stop = none := by
    rw [rangeFault?, if_neg]
    simp only [Bool.or_eq_true, decide_eq_true_eq]
    omega
  have next : ((readRange source start stop mode d limit).lexer.next?.isSome = true) ↔
      ¬(Lexer.ofRange source start stop mode d).token? limit = none := by
    rw [Lexer.token?_eq_none_iff, readRange_eq, Lexer.next?_eq]
    split
    next empty => simpa using empty
    next some => simpa using some
  rw [ofRange, sound]
  dsimp only
  by_cases ended : (Lexer.ofRange source start stop mode d).token? limit = none
  · rw [if_neg (by rw [next]; exact not_not_intro ended)]
    have filled := fills_ofReading ended
    constructor
    · intro same
      obtain rfl := Except.ok.inj same
      exact ⟨rfl, ended, filled⟩
    · rintro ⟨same, _, fills⟩
      rw [filled.unique fills same.symm]
  · rw [if_pos (next.2 ended)]
    constructor
    · intro impossible
      contradiction
    · rintro ⟨_, also, _⟩
      exact absurd also ended

end TokenStream

namespace Scan

/-- Between tags no token is white space. -/
theorem template_kind (m : Marks) (lineStart : Bool) (rest : List UInt8) :
    (template m lineStart rest).kind ≠ .whitespace := by
  unfold template
  repeat' split
  all_goals exact nofun

end Scan

namespace TokenStream

/-- A stream that was read from a source does not begin with white space. -/
theorem ofSource_kindAt?_zero {source : String} {d : Delimiters} {limit : Nat}
    {stream : TokenStream} (read : ofSource source d limit = .ok stream) :
    stream.kindAt? 0 ≠ some .whitespace := by
  obtain ⟨_, _, fills⟩ := (ofRange_eq_ok_iff (Nat.zero_le _) (Nat.le_refl _)).1 read
  rw [kindAt?, fills.tokens, Lexer.token?, Lexer.ahead]
  split
  · exact nofun
  · intro space
    exact Scan.template_kind _ _ _ (Option.some.inj space)

end TokenStream
end Stencil
