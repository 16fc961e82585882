/-!
# Ranges of code points

A class of characters is a list of inclusive ranges of code points in increasing order, and each
table carries that order. Whether a code point lies in a class is decided by a search that ends at
the first range above it; `CodeRanges.has_iff` says that this search passes over no range.
-/

namespace Stencil.Text

namespace CodeRanges

/-- Whether each range begins where or after the one before it does. -/
def isIncreasing : List (Nat × Nat) → Bool
  | [] => true
  | range :: rest => rest.head?.all (range.1 ≤ ·.1) && isIncreasing rest

/-- In increasing order no range begins before the first. -/
theorem le_of_isIncreasing {first range : Nat × Nat} {rest : List (Nat × Nat)}
    (increasing : isIncreasing (first :: rest) = true) (member : range ∈ rest) :
    first.1 ≤ range.1 := by
  induction rest generalizing first with
  | nil => contradiction
  | cons second rest ih =>
    obtain ⟨next, further⟩ := Bool.and_eq_true_iff.1 increasing
    have next : first.1 ≤ second.1 := of_decide_eq_true next
    rcases List.mem_cons.1 member with rfl | member
    · exact next
    · exact Nat.le_trans next (ih further member)

end CodeRanges

/-- Inclusive ranges of code points, in increasing order. -/
structure CodeRanges where
  ranges : List (Nat × Nat)
  increasing : CodeRanges.isIncreasing ranges = true

namespace CodeRanges

/-- A code point lies in a class when it lies in one of its ranges. -/
instance : Membership Nat CodeRanges where
  mem table point := ∃ range ∈ table.ranges, range.1 ≤ point ∧ point ≤ range.2

/-- Whether a code point lies in one of the ranges. The search ends at the first range above it. -/
def has : List (Nat × Nat) → Nat → Bool
  | [], _ => false
  | (first, last) :: rest, point => first ≤ point && (point ≤ last || has rest point)

/-- A code point that is found lies in a range. -/
theorem exists_mem_of_has {ranges : List (Nat × Nat)} {point : Nat}
    (found : has ranges point = true) : ∃ range ∈ ranges, range.1 ≤ point ∧ point ≤ range.2 := by
  induction ranges with
  | nil => simp [has] at found
  | cons range rest ih =>
    obtain ⟨first, last⟩ := range
    simp only [has, Bool.and_eq_true, Bool.or_eq_true, decide_eq_true_eq] at found
    obtain ⟨above, inFirst | later⟩ := found
    · exact ⟨(first, last), List.mem_cons_self, above, inFirst⟩
    · obtain ⟨other, member, bounds⟩ := ih later
      exact ⟨other, List.mem_cons_of_mem _ member, bounds⟩

/-- A code point of one of the ranges is found if they are in increasing order. -/
theorem has_of_mem {ranges : List (Nat × Nat)} {point : Nat} {range : Nat × Nat}
    (increasing : isIncreasing ranges = true) (member : range ∈ ranges)
    (low : range.1 ≤ point) (high : point ≤ range.2) : has ranges point = true := by
  induction ranges with
  | nil => contradiction
  | cons first rest ih =>
    simp only [has, Bool.and_eq_true, Bool.or_eq_true, decide_eq_true_eq]
    rcases List.mem_cons.1 member with rfl | later
    · exact ⟨low, Or.inl high⟩
    · have further := (Bool.and_eq_true_iff.1 increasing).2
      exact ⟨Nat.le_trans (le_of_isIncreasing increasing later) low, Or.inr (ih further later)⟩

/-- The search finds the code points of a class and no others. -/
theorem has_iff {table : CodeRanges} {point : Nat} :
    has table.ranges point = true ↔ point ∈ table :=
  ⟨exists_mem_of_has, fun ⟨_, member, low, high⟩ => has_of_mem table.increasing member low high⟩

instance (point : Nat) (table : CodeRanges) : Decidable (point ∈ table) :=
  decidable_of_iff _ has_iff

end CodeRanges
end Stencil.Text
