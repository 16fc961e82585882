import Stencil.Proofs.Lexer.Resuming
/-!
# Where the tokens of a stream lie

The tokens of a stream that a lexer fills lie one after another between the offsets of the lexer's
states. So the places that an edit is measured by are numbers of tokens: how many are kept before
an offset (`keptBefore_offset`), which one an edit touches (`touched?_eq_some`), and where reading
can resume (`restartPoint_eq`).
-/

namespace Stencil
namespace Lexer

variable {lexer : Lexer} {stream : TokenStream}

/-- With some tokens left there were more before. -/
theorem rest_ne_nil_mono {early late : Nat} (order : early ≤ late)
    (some : (lexer.ahead late).rest ≠ []) : (lexer.ahead early).rest ≠ [] := by
  intro empty
  obtain ⟨more, rfl⟩ := Nat.exists_eq_add_of_le order
  rw [← ahead_ahead, ahead_of_isEmpty (List.isEmpty_iff.2 empty)] at some
  exact some empty

/-- A token leads at least one byte further. -/
theorem offset_lt_offset_succ {place : Nat} (some : (lexer.ahead place).rest ≠ []) :
    (lexer.ahead place).offset < (lexer.ahead (place + 1)).offset := by
  have fits := (scan_fits some).1
  rw [ahead, step_of_some some, after]
  dsimp only
  omega

/-- Offsets do not go back. -/
theorem offset_le_offset {early late : Nat} (order : early ≤ late) :
    (lexer.ahead early).offset ≤ (lexer.ahead late).offset := by
  induction order with
  | refl => exact Nat.le_refl _
  | @step late _ ih =>
    by_cases empty : (lexer.ahead late).rest = []
    · rw [ahead, Lexer.step, if_pos (List.isEmpty_iff.2 empty)]
      exact ih
    · exact Nat.le_trans ih (Nat.le_of_lt (offset_lt_offset_succ empty))

/-- Where tokens are left offsets go on. -/
theorem offset_lt_offset {early late : Nat} (order : early < late)
    (some : (lexer.ahead early).rest ≠ []) :
    (lexer.ahead early).offset < (lexer.ahead late).offset :=
  Nat.lt_of_lt_of_le (offset_lt_offset_succ some) (offset_le_offset order)

/-- What is left after some tokens is what comes after their bytes. -/
theorem rest_ahead (lexer : Lexer) (count : Nat) :
    (lexer.ahead count).rest = lexer.rest.drop ((lexer.ahead count).offset - lexer.offset) := by
  induction count with
  | zero => rw [ahead, Nat.sub_self, List.drop_zero]
  | succ count ih =>
    rw [ahead]
    by_cases empty : (lexer.ahead count).rest = []
    · rw [Lexer.step, if_pos (List.isEmpty_iff.2 empty)]
      exact ih
    · have forward : lexer.offset ≤ (lexer.ahead count).offset := offset_le_offset (Nat.zero_le _)
      have width : (lexer.ahead count).offset + (lexer.ahead count).scan.width - lexer.offset =
          (lexer.ahead count).offset - lexer.offset + (lexer.ahead count).scan.width := by omega
      rw [step_of_some empty, after]
      dsimp only
      rw [ih, List.drop_drop, width]

variable (fills : lexer.Fills stream)

include fills

/-- A token of the stream lies between two states of the lexer. -/
theorem Fills.getElem?_tokens {place : Nat} (inside : place < stream.size) :
    stream.tokens[place]? = some ⟨(lexer.ahead place).scan.kind, (lexer.ahead place).offset,
      (lexer.ahead (place + 1)).offset⟩ := by
  have some := (fills.lt_size_iff place).1 inside
  rw [fills.tokens, token?, if_neg (by simpa using some), ahead, step_of_some some]
  rfl

/-- A token of the stream was read in the mode of its state. -/
theorem Fills.getElem?_modes {place : Nat} (inside : place < stream.size) :
    stream.modes[place]? = some (lexer.ahead place).mode := by
  have some := (fills.lt_size_iff place).1 inside
  rw [fills.modes, token?, if_neg (by simpa using some)]
  rfl

/-- After the tokens of the stream nothing is left. -/
theorem Fills.rest_size : (lexer.ahead stream.size).rest = [] :=
  Classical.byContradiction fun more => Nat.lt_irrefl _ ((fills.lt_size_iff _).2 more)

/-- The stream ends in the mode after its tokens. -/
theorem Fills.endMode_eq : stream.endMode = (lexer.ahead stream.size).mode := by
  obtain ⟨count, ended, mode⟩ := fills.ended
  rw [mode, ahead_of_ended ended fills.rest_size]

end Lexer

/-- A leading run is as long as the first element that does not belong to it lets it be. -/
theorem length_takeWhile_eq {α : Type} {inClass : α → Bool} {list : List α} {count : Nat}
    (before : ∀ place < count, ∃ x, list[place]? = some x ∧ inClass x = true)
    (stop : ∀ x, list[count]? = some x → inClass x = false) :
    (list.takeWhile inClass).length = count := by
  induction count generalizing list with
  | zero =>
    cases list with
    | nil => rfl
    | cons first rest => rw [List.takeWhile_cons, stop first rfl]; rfl
  | succ count ih =>
    obtain ⟨first, found, member⟩ := before 0 (Nat.succ_pos _)
    cases list with
    | nil => contradiction
    | cons head rest =>
      obtain rfl : head = first := Option.some.inj found
      rw [List.takeWhile_cons, if_pos member, List.length_cons, ih]
      · exact fun place below => before (place + 1) (by omega)
      · exact fun x listed => stop x listed

namespace TokenStream

variable {lexer : Lexer} {stream : TokenStream} (fills : lexer.Fills stream)

/-- Walking back over block tags ends at the first token or outside block tags. -/
theorem restartIndex_eq (place : Nat) (inside : place < stream.modes.size) :
    ∃ start ≤ place, stream.restartIndex place = .ok start ∧
      (start = 0 ∨ stream.modes[start]? ≠ some .blockTag) := by
  induction place with
  | zero => exact ⟨0, Nat.le_refl _, rfl, Or.inl rfl⟩
  | succ place ih =>
    have listed : stream.modes[place + 1]? = some stream.modes[place + 1] :=
      Array.getElem?_eq_getElem inside
    rw [restartIndex, listed]
    by_cases block : stream.modes[place + 1] = .blockTag
    · obtain ⟨start, before, found, outside⟩ := ih (by omega)
      rw [block]
      exact ⟨start, by omega, found, outside⟩
    · refine ⟨place + 1, Nat.le_refl _, ?_, Or.inr ?_⟩
      · cases mode : stream.modes[place + 1] <;> first | rfl | exact absurd mode block
      · rw [listed]
        exact fun same => block (Option.some.inj same)

include fills

/-- As many tokens start before a token as come before it. -/
theorem keptBefore_offset {place : Nat} (inside : place < stream.size) :
    stream.keptBefore (lexer.ahead place).offset = place := by
  refine length_takeWhile_eq (fun earlier before => ?_) fun token listed => ?_
  · have within : earlier < stream.size := by omega
    have some := (fills.lt_size_iff earlier).1 within
    rw [Array.getElem?_toList, fills.getElem?_tokens within]
    exact ⟨_, rfl, decide_eq_true (Lexer.offset_lt_offset before some)⟩
  · rw [Array.getElem?_toList, fills.getElem?_tokens inside] at listed
    obtain rfl := Option.some.inj listed
    exact decide_eq_false (Nat.lt_irrefl _)

/-- The token an edit touches is one of the stream, and those before it end before the edit. -/
theorem touched?_eq_some {edit touched : Nat} (found : stream.touched? edit = some touched) :
    touched < stream.size ∧ ∀ place < touched, (lexer.ahead (place + 1)).offset < edit := by
  unfold touched? at found
  cases first : stream.tokens.findIdx? fun token => decide (edit ≤ token.stop) with
  | some index =>
    rw [first] at found
    obtain rfl := Option.some.inj found
    obtain ⟨inside, -, before⟩ := Array.findIdx?_eq_some_iff_getElem.1 first
    refine ⟨inside, fun place earlier => ?_⟩
    have token := fills.getElem?_tokens (Nat.lt_trans earlier inside)
    have past := before place earlier
    rw [Array.getElem?_eq_getElem (Nat.lt_trans earlier inside)] at token
    rw [Option.some.inj token] at past
    simpa using past
  | none =>
    rw [first] at found
    dsimp only at found
    split at found
    · contradiction
    next some =>
      obtain rfl := Option.some.inj found
      have positive : 0 < stream.size := by
        simpa [isEmpty, size, Array.size_pos_iff] using some
      refine ⟨by omega, fun place earlier => ?_⟩
      have within : place < stream.size := by omega
      have token := fills.getElem?_tokens within
      have past := Array.findIdx?_eq_none_iff.1 first _ (Array.mem_of_getElem? token)
      simpa using past

omit fills in
/-- An edit of a stream with tokens touches one. -/
theorem touched?_of_size_zero {edit : Nat} (nothing : stream.touched? edit = none) :
    stream.size = 0 := by
  unfold touched? at nothing
  split at nothing
  · contradiction
  · split at nothing
    next empty => simpa [isEmpty, size] using empty
    · contradiction

/-- Reading can resume for a token at a token before it or at itself, which does not lie in a block
tag unless it is the first. -/
theorem restartPoint_eq {place : Nat} (inside : place < stream.size) :
    ∃ start ≤ place, stream.restartPoint place =
        .ok ((lexer.ahead start).offset, (lexer.ahead start).mode) ∧
      (start = 0 ∨ (lexer.ahead start).mode ≠ .blockTag) := by
  have recorded := (Array.getElem?_eq_some_iff.1 (fills.getElem?_modes inside)).1
  obtain ⟨start, before, found, outside⟩ := restartIndex_eq place recorded
  have within : start < stream.size := by omega
  refine ⟨start, before, ?_, outside.imp_right fun other block => other ?_⟩
  · rw [restartPoint, if_pos inside, found]
    simp only [bind, Except.bind, fills.getElem?_tokens within, fills.getElem?_modes within]
    rfl
  · rw [fills.getElem?_modes within, block]

end TokenStream
end Stencil
