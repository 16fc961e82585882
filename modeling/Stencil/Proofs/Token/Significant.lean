import Stencil.Proofs.Parser.Abreast
/-!
# Significant tokens

The tokens of a stream that are not white space are its significant ones, and a token is named among
them by how many come before it (`rank`). The `profile` of a stream is all that a parser sees of it:
the kind of each significant token and the mode after it. What a parser sees at a place is the entry
of the profile at the rank of that place.
-/

namespace Stencil
namespace TokenStream

variable (stream : TokenStream)

/-- There is a token at an index, and it is not white space. -/
def isSignificant (index : Nat) : Bool := (stream.kindAt? index).any (· ≠ .whitespace)

/-- The tokens that are not white space, in order. -/
def significant : List Nat := (List.range stream.size).filter stream.isSignificant

/-- The number of tokens before an index that are not white space. -/
def rank (index : Nat) : Nat := (List.range index).countP stream.isSignificant

/-- The kinds of the tokens that are not white space, and the modes after them. -/
def profile : List (Option TokenKind × Option Mode) :=
  stream.significant.map fun index => (stream.kindAt? index, stream.modeAfter? index)

/-- The offset of a significant token, or of the end of the source if there are not so many. -/
def offsetOf (rank : Nat) : Nat :=
  (stream.significant[rank]?.map stream.offsetAt).getD stream.source.utf8ByteSize

/-! ### Ranks -/

/-- A token counts for those after it if it is not white space. -/
theorem rank_succ (index : Nat) :
    stream.rank (index + 1) = stream.rank index + if stream.isSignificant index then 1 else 0 := by
  rw [rank, rank, List.range_succ, List.countP_append, List.countP_singleton]

/-- White space is not significant. -/
theorem isSignificant_of_space {index : Nat} (space : stream.kindAt? index = some .whitespace) :
    stream.isSignificant index = false := by
  rw [isSignificant, space]
  rfl

/-- White space counts for nothing. -/
theorem rank_of_space {index : Nat} (space : stream.kindAt? index = some .whitespace) :
    stream.rank (index + 1) = stream.rank index := by
  rw [rank_succ, stream.isSignificant_of_space space]
  rfl

/-- A token other than white space is significant. -/
theorem isSignificant_of_lt {index : Nat} (solid : stream.kindAt? index ≠ some .whitespace)
    (inside : index < stream.size) : stream.isSignificant index = true := by
  obtain ⟨kind, found⟩ := Option.isSome_iff_exists.1 ((stream.kindAt?_isSome index).2 inside)
  rw [found] at solid
  rw [isSignificant, found, Option.any_some, decide_eq_true_iff]
  exact fun same => solid (congrArg some same)

/-- No tokens are passed over on the way to the one that is seen. -/
theorem rank_visible (index : Nat) : stream.rank (stream.visible index) = stream.rank index := by
  by_cases space : stream.kindAt? index = some .whitespace
  · have inside : index < stream.size := by
      rw [← kindAt?_isSome, space]
      rfl
    rw [stream.visible_of_space space, rank_visible (index + 1), stream.rank_of_space space]
  · rw [stream.visible_of_not_space space]
termination_by stream.size - index

/-- A significant token stands at its rank among all, and past the end there are no more. -/
theorem getElem?_significant {index : Nat} (solid : stream.kindAt? index ≠ some .whitespace) :
    stream.significant[stream.rank index]? = if index < stream.size then some index else none := by
  rw [significant, rank, List.countP_eq_length_filter]
  split
  next inside =>
    obtain ⟨more, size⟩ := Nat.exists_eq_add_of_lt inside
    have cut : List.range stream.size =
        List.range index ++ index :: List.range' (index + 1) more := by
      rw [size, List.range_eq_range', List.range_eq_range', Nat.add_assoc,
        ← List.range'_append_1, Nat.zero_add, List.range'_succ]
    have own := stream.isSignificant_of_lt solid inside
    rw [cut, List.filter_append, List.filter_cons_of_pos own,
      List.getElem?_append_right (Nat.le_refl _), Nat.sub_self, List.getElem?_cons_zero]
  next beyond =>
    obtain ⟨more, rfl⟩ := Nat.exists_eq_add_of_le (Nat.le_of_not_lt beyond)
    have none : (List.range' stream.size more).filter stream.isSignificant = [] := by
      rw [List.filter_eq_nil_iff]
      intro place member
      have past := (List.mem_range'_1.1 member).1
      rw [isSignificant, stream.kindAt?_eq_none.2 past]
      simp
    rw [List.range_eq_range', List.range_eq_range', ← List.range'_append_1, Nat.zero_add,
      List.filter_append, none, List.append_nil]
    exact List.getElem?_eq_none (Nat.le_refl _)

/-- What a parser sees at a token stands in the profile at the token's rank. -/
theorem getElem?_profile {index : Nat} (solid : stream.kindAt? index ≠ some .whitespace) :
    stream.profile[stream.rank index]? =
      if index < stream.size then some (stream.kindAt? index, stream.modeAfter? index)
      else none := by
  rw [profile, List.getElem?_map, stream.getElem?_significant solid]
  exact apply_ite (Option.map _) _ _ _

/-- The kind of a token other than white space is read off the profile. -/
theorem kindAt?_eq_profile {index : Nat} (solid : stream.kindAt? index ≠ some .whitespace) :
    stream.kindAt? index = stream.profile[stream.rank index]?.bind (·.1) := by
  rw [stream.getElem?_profile solid]
  split
  · rfl
  next beyond => exact stream.kindAt?_eq_none.2 (Nat.le_of_not_lt beyond)

/-- The mode after a token other than white space is read off the profile. -/
theorem modeAfter?_eq_profile {index : Nat} (solid : stream.kindAt? index ≠ some .whitespace) :
    stream.modeAfter? index = stream.profile[stream.rank index]?.bind (·.2) := by
  rw [stream.getElem?_profile solid]
  split
  · rfl
  next beyond => rw [modeAfter?, if_neg beyond]; rfl

/-- There is a token where the profile goes on. -/
theorem lt_size_iff_profile {index : Nat} (solid : stream.kindAt? index ≠ some .whitespace) :
    index < stream.size ↔ (stream.profile[stream.rank index]?).isSome := by
  rw [stream.getElem?_profile solid]
  split
  next inside => simpa using inside
  next beyond => simpa using beyond

/-- The offset of a place that is not white space is that of its rank. -/
theorem offsetAt_eq {index : Nat} (solid : stream.kindAt? index ≠ some .whitespace) :
    stream.offsetAt index = stream.offsetOf (stream.rank index) := by
  rw [offsetOf, stream.getElem?_significant solid]
  split
  · rfl
  next beyond =>
    rw [offsetAt, Array.getElem?_eq_none (Nat.le_of_not_lt beyond)]
    rfl

end TokenStream

/-! ### What a parser sees -/

namespace Parser

variable (p : Parser)

/-- The number of significant tokens that a parser has read. -/
def rank : Nat := p.stream.rank p.position

/-- The token that a parser sees is read off the profile. -/
theorem current?_eq_profile : p.current? = p.stream.profile[p.rank]?.bind (·.1) := by
  rw [current?_eq, p.stream.kindAt?_eq_profile (p.stream.kindAt?_visible _),
    TokenStream.rank_visible, rank]

/-- The mode after the token that a parser sees is read off the profile. -/
theorem nextMode?_eq_profile : p.nextMode? = p.stream.profile[p.rank]?.bind (·.2) := by
  rw [nextMode?_eq, p.stream.modeAfter?_eq_profile (p.stream.kindAt?_visible _),
    TokenStream.rank_visible, rank]

/-- The token after the one that a parser sees is read off the profile. -/
theorem nth?_one_eq_profile : p.nth? 1 = p.stream.profile[p.rank + 1]?.bind (·.1) := by
  have seen := p.stream.kindAt?_visible p.position
  rw [nth?_one_eq, p.stream.kindAt?_eq_profile (p.stream.kindAt?_visible _),
    TokenStream.rank_visible]
  by_cases inside : p.stream.visible p.position < p.stream.size
  · rw [TokenStream.rank_succ, p.stream.isSignificant_of_lt seen inside, if_pos rfl,
      TokenStream.rank_visible, rank]
  · have ended := p.stream.getElem?_profile seen
    have past := p.stream.kindAt?_eq_none.2 (Nat.le_of_not_lt inside)
    have skipped : p.stream.isSignificant (p.stream.visible p.position) = false := by
      rw [TokenStream.isSignificant, past]
      rfl
    rw [if_neg inside, TokenStream.rank_visible] at ended
    have beyond : p.stream.profile[p.rank + 1]? = none := by
      rw [List.getElem?_eq_none_iff] at ended ⊢
      exact Nat.le_succ_of_le ended
    rw [TokenStream.rank_succ, skipped, TokenStream.rank_visible, beyond, if_neg Bool.false_ne_true,
      Nat.add_zero, ended]

/-- A parser is at the offset of the significant token that it sees. -/
theorem offset_eq_offsetOf : p.offset = p.stream.offsetOf p.rank := by
  rw [offset_eq, p.stream.offsetAt_eq (p.stream.kindAt?_visible _), TokenStream.rank_visible, rank]

end Parser
end Stencil
