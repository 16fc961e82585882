import Mathlib.Data.List.Nodup
import Stencil.Delimiters.Validation
import Stencil.Proofs.Text.Bytes
/-!
# What validation checks

Validation goes through the values one by one and then twice through the pairs, and stops at the
first fault. Which dialects pass does not depend on the order of these checks (`isValid_iff`). In a
dialect that passes no delimiter occurs in another. Validation compares characters and the lexer
bytes, and the one carries over to the other (`not_infix_of_isValid`).
-/

namespace Stencil
namespace Delimiters

/-- What a dialect has to be: its required strings are not blank, no string is too long, and no
string that is not empty occurs in one of another setting. -/
structure Usable (d : Delimiters) : Prop where
  solid : ∀ field : Field, field.isRequired = true →
    ∃ c ∈ (d.get field).toList, Text.isBlank c = false
  short : ∀ field : Field, (d.get field).length ≤ Limits.maxDelimiterLength
  apart : ∀ inner outer : Field, inner ≠ outer → d.get inner ≠ "" → d.get outer ≠ "" →
    ¬(d.get inner).toList <:+: (d.get outer).toList

/-! ### Values -/

/-- A value has no fault if it is not blank where it must not be and not too long. -/
theorem valueFault?_eq_none_iff (field : Field) (value : String) :
    valueFault? field value = none ↔
      (field.isRequired = true → ∃ c ∈ value.toList, Text.isBlank c = false) ∧
        value.length ≤ Limits.maxDelimiterLength := by
  rw [valueFault?, Text.isBlankText]
  split
  next blank =>
    rw [Bool.and_eq_true, List.all_eq_true] at blank
    refine iff_of_false nofun fun ⟨solid, _⟩ => ?_
    obtain ⟨c, member, other⟩ := solid blank.1
    exact Bool.false_ne_true (other.symm.trans (blank.2 c member))
  next present =>
    have solid : field.isRequired = true → ∃ c ∈ value.toList, Text.isBlank c = false := by
      intro required
      simpa [required] using present
    split
    next long => exact iff_of_false nofun fun ⟨_, short⟩ => Nat.not_le.2 long short
    next short => exact iff_of_true rfl ⟨solid, Nat.not_lt.1 short⟩

/-! ### Pairs -/

/-- One text contains another exactly if its characters occur in it. -/
theorem occursIn_iff (inner outer : List Char) :
    occursIn inner outer = true ↔ inner <:+: outer := by
  induction outer with
  | nil => rw [occursIn, List.isEmpty_iff, List.infix_nil]
  | cons c rest ih =>
    rw [occursIn, Bool.or_eq_true, List.isPrefixOf_iff_prefix, ih, List.infix_cons_iff]

/-- A pair has no fault if neither value contains the other. Equal values contain each other, so
that the check for them adds nothing. -/
theorem pairFault?_eq_none_iff (pair : (Field × String) × (Field × String)) :
    (duplicateFault? pair = none ∧ overlapFault? pair = none) ↔
      contains pair.1.2 pair.2.2 = false ∧ contains pair.2.2 pair.1.2 = false := by
  have itself (text : String) : contains text text = true := (occursIn_iff _ _).2 List.infix_rfl
  rw [duplicateFault?, overlapFault?]
  constructor
  · rintro ⟨-, clear⟩
    split at clear
    · contradiction
    next outer =>
      split at clear
      · contradiction
      next inner => exact ⟨Bool.eq_false_iff.2 outer, Bool.eq_false_iff.2 inner⟩
  · rintro ⟨outer, inner⟩
    refine ⟨if_neg fun same => ?_, by rw [outer, inner]; rfl⟩
    rw [same, itself] at outer
    contradiction

/-- The pairs of a list are its members two by two, the earlier one first. -/
theorem mem_orderedPairs_iff {α : Type} {first second : α} {list : List α} :
    (first, second) ∈ orderedPairs list ↔ [first, second].Sublist list := by
  induction list with
  | nil => simp [orderedPairs]
  | cons head rest ih =>
    rw [orderedPairs, List.mem_append, List.mem_map, ih]
    constructor
    · rintro (⟨later, member, same⟩ | order)
      · obtain ⟨rfl, rfl⟩ := Prod.mk.inj same
        exact (List.singleton_sublist.2 member).cons_cons _
      · exact order.cons _
    · intro order
      cases order with
      | cons _ later => exact Or.inr later
      | cons_cons _ later => exact Or.inl ⟨second, List.singleton_sublist.1 later, rfl⟩

/-- Of any two settings one comes before the other. -/
theorem Field.ordered {f g : Field} (distinct : f ≠ g) :
    [f, g].Sublist Field.all ∨ [g, f].Sublist Field.all := by
  cases f <;> cases g <;> first | exact absurd rfl distinct | decide

/-- Two settings that are not turned off are compared. -/
theorem mem_pairs_of_ordered {d : Delimiters} {f g : Field} (order : [f, g].Sublist Field.all)
    (some : d.get f ≠ "") (also : d.get g ≠ "") :
    ((f, d.get f), (g, d.get g)) ∈ orderedPairs d.active := by
  have entries := order.map fun field => (field, d.get field)
  have kept := entries.filter fun entry => entry.2 ≠ ""
  exact mem_orderedPairs_iff.2 (by simpa [active, Delimiters.entries, some, also] using kept)

/-- The pairs that are compared are made of two settings that are not turned off. -/
theorem mem_pairs {d : Delimiters} {pair : (Field × String) × (Field × String)}
    (member : pair ∈ orderedPairs d.active) :
    ∃ f g : Field, f ≠ g ∧ d.get f ≠ "" ∧ d.get g ≠ "" ∧ pair = ((f, d.get f), (g, d.get g)) := by
  have active {entry : Field × String} (listed : entry ∈ d.active) :
      d.get entry.1 ≠ "" ∧ entry = (entry.1, d.get entry.1) := by
    obtain ⟨kept, some⟩ := List.mem_filter.1 listed
    obtain ⟨field, -, rfl⟩ := List.mem_map.1 kept
    exact ⟨by simpa using some, rfl⟩
  have order := mem_orderedPairs_iff.1 member
  obtain ⟨some, first⟩ := active (order.subset (List.mem_cons_self ..))
  obtain ⟨also, second⟩ := active (order.subset (List.mem_cons_of_mem _ (List.mem_cons_self ..)))
  have fields : [pair.1.1, pair.2.1].Sublist Field.all :=
    (order.trans List.filter_sublist).map Prod.fst
  refine ⟨pair.1.1, pair.2.1, fun same => ?_, some, also, Prod.ext first second⟩
  have once : Field.all.Nodup := by decide
  simpa [same] using once.sublist fields

/-! ### Dialects -/

/-- A dialect has no fault if no value and no pair of values has one. -/
theorem isValid_iff_faultless (d : Delimiters) :
    d.isValid = true ↔
      (∀ field : Field, valueFault? field (d.get field) = none) ∧
        ∀ pair ∈ orderedPairs d.active,
          duplicateFault? pair = none ∧ overlapFault? pair = none := by
  have listed (field : Field) : field ∈ Field.all := by cases field <;> decide
  simp only [isValid, Option.isNone_iff_eq_none, fault?, Option.orElse_eq_or,
    Option.orElse_eq_orElse, Option.or_eq_none_iff, List.findSome?_eq_none_iff, entries,
    List.forall_mem_map, listed, forall_const, forall_and]

/-- Validation passes exactly the dialects that are usable. -/
theorem isValid_iff (d : Delimiters) : d.isValid = true ↔ d.Usable := by
  rw [isValid_iff_faultless]
  constructor
  · rintro ⟨values, pairs⟩
    have value (field : Field) := (valueFault?_eq_none_iff field _).1 (values field)
    refine ⟨fun field => (value field).1, fun field => (value field).2, ?_⟩
    intro inner outer distinct some also occurs
    rw [← occursIn_iff] at occurs
    change contains (d.get outer) (d.get inner) = true at occurs
    rcases Field.ordered distinct with order | order
    · have clear := (pairFault?_eq_none_iff _).1 (pairs _ (mem_pairs_of_ordered order some also))
      exact Bool.false_ne_true (clear.2.symm.trans occurs)
    · have clear := (pairFault?_eq_none_iff _).1 (pairs _ (mem_pairs_of_ordered order also some))
      exact Bool.false_ne_true (clear.1.symm.trans occurs)
  · intro usable
    have values (field : Field) : valueFault? field (d.get field) = none :=
      (valueFault?_eq_none_iff field _).2 ⟨usable.solid field, usable.short field⟩
    refine ⟨values, fun pair member => (pairFault?_eq_none_iff pair).2 ?_⟩
    obtain ⟨f, g, distinct, some, also, rfl⟩ := mem_pairs member
    have without {inner outer : Field} (distinct : inner ≠ outer) (some : d.get inner ≠ "")
        (also : d.get outer ≠ "") : contains (d.get outer) (d.get inner) = false := by
      rw [Bool.eq_false_iff, ne_eq, contains, occursIn_iff]
      exact usable.apart inner outer distinct some also
    exact ⟨without distinct.symm also some, without distinct some also⟩

/-- In a usable dialect the bytes of a delimiter do not occur in those of another. -/
theorem not_infix_of_isValid {d : Delimiters} (valid : d.isValid = true) {f g : Field}
    (distinct : f ≠ g) (some : d.get g ≠ "") :
    ¬Text.bytes (d.get g) <:+: Text.bytes (d.get f) := by
  rintro ⟨before, more, same⟩
  rw [Text.bytes_eq (d.get f), Text.bytes_eq (d.get g)] at same
  have solid : (d.get g).toList ≠ [] := fun empty => some (String.toList_eq_nil_iff.1 empty)
  obtain ⟨first, rest, spelled⟩ := List.exists_cons_of_ne_nil solid
  rw [spelled, List.append_assoc] at same
  have occurs := Text.infix_of_bytes_infix same.symm
  have also : d.get f ≠ "" := by
    intro empty
    rw [empty] at occurs
    exact absurd (List.infix_nil.1 occurs) (List.cons_ne_nil _ _)
  rw [← spelled] at occurs
  exact ((isValid_iff d).1 valid).apart g f (Ne.symm distinct) some also occurs

end Delimiters
end Stencil
