import Mathlib
import Stencil.Facts.Clients
import Stencil.Proofs.Files.Paths
/-!
# What the facts cache keeps

Every action leaves a cache with one entry a path at most and no more entries than it has room for
(`Proper`), and its counters account for every look-up and every store under a new path (`Tallied`).
Neither needs that the numbers of stores never start over, and neither depends on the order in which
the table lists its entries.
-/

namespace Stencil

/-- Two lists of the same things in different orders have the same first thing of a kind, if there
is one of that kind at most. -/
theorem find?_eq_of_perm {β : Type} {p : β → Bool} {one other : List β} (perm : one.Perm other)
    (unique : ∀ a ∈ one, ∀ b ∈ one, p a → p b → a = b) : one.find? p = other.find? p := by
  cases found : one.find? p with
  | none =>
    refine (List.find?_eq_none.2 fun b listed => ?_).symm
    exact List.find?_eq_none.1 found b (perm.mem_iff.2 listed)
  | some a =>
    have listed := List.mem_of_find?_eq_some found
    cases again : other.find? p with
    | none =>
      exact absurd (List.find?_some found) (List.find?_eq_none.1 again a (perm.mem_iff.1 listed))
    | some b =>
      have same := unique a listed b (perm.mem_iff.2 (List.mem_of_find?_eq_some again))
        (List.find?_some found) (List.find?_some again)
      rw [same]

namespace Cache

variable {α : Type} {cache : Cache α} {path : Path} {modified : Nat} {value : α}
  {entry : CacheEntry α} {listing : Listing (CacheEntry α)} {room lookups stores : Nat}

/-! ### Entries -/

/-- Nothing is found exactly if no entry has the components of the path. -/
theorem find?_eq_none : cache.find? path = none ↔
    ∀ entry ∈ cache.entries, entry.path.components ≠ path.components := by
  simp only [find?, List.find?_eq_none, Path.same_iff, ne_eq]

/-- What is found is an entry with the components of the path. -/
theorem mem_of_find? (found : cache.find? path = some entry) :
    entry ∈ cache.entries ∧ entry.path.components = path.components := by
  have its := List.find?_some found
  exact ⟨List.mem_of_find?_eq_some found, Path.same_iff.1 its⟩

/-- The others are the entries of other paths. -/
theorem mem_others : entry ∈ cache.others path ↔
    entry ∈ cache.entries ∧ entry.path.components ≠ path.components := by
  rw [others, List.mem_filter, Bool.not_eq_true', ← Bool.not_eq_true, Path.same_iff]

/-- Without an entry of a path all entries are those of other paths. -/
theorem others_of_find?_none (absent : cache.find? path = none) :
    cache.others path = cache.entries := by
  refine List.filter_eq_self.2 fun entry listed => ?_
  rw [Bool.not_eq_true', ← Bool.not_eq_true, Path.same_iff]
  exact find?_eq_none.1 absent entry listed

/-- One entry a path at most, no more entries than there is room for, and room for one at least. -/
structure Proper (cache : Cache α) (room : Nat) : Prop where
  distinct : (cache.entries.map fun entry => entry.path.components).Nodup
  capacity : cache.capacity = room
  fits : cache.size ≤ room
  roomy : 0 < room

/-- An empty cache is proper. -/
theorem proper_ofCapacity (capacity : Nat) :
    (ofCapacity capacity : Cache α).Proper (max capacity 1) :=
  ⟨List.nodup_nil, rfl, Nat.zero_le _, Nat.le_max_right ..⟩

namespace Proper

/-- Entries of one path are one entry. -/
theorem unique (proper : cache.Proper room) {other : CacheEntry α} (one : entry ∈ cache.entries)
    (two : other ∈ cache.entries) (same : entry.path.components = other.path.components) :
    entry = other :=
  List.inj_on_of_nodup_map proper.distinct one two same

/-- Dropping the entry of a path leaves one entry less. -/
theorem length_others (proper : cache.Proper room) (listed : entry ∈ cache.entries)
    (same : entry.path.components = path.components) :
    (cache.others path).length + 1 = cache.size := by
  have once : cache.entries.countP (fun entry => entry.path.same path) = 1 := by
    rw [← List.count_eq_one_of_mem proper.distinct (List.mem_map.2 ⟨entry, listed, same⟩),
      List.count, List.countP_map]
    refine List.countP_congr fun entry _ => ?_
    rw [Path.same_iff, Function.comp_apply, beq_iff_eq]
  have all := cache.entries.length_eq_countP_add_countP fun entry => entry.path.same path
  rw [once, ← size] at all
  rw [others, ← List.countP_eq_length_filter, all, Nat.add_comm]
  simp

/-- Entries can be left out, and how often the cache was used does not matter. -/
theorem of_sublist (proper : cache.Proper room) {next : Cache α}
    (same : next.capacity = cache.capacity) (fewer : next.entries.Sublist cache.entries) :
    next.Proper room :=
  ⟨proper.distinct.sublist (fewer.map _), same.trans proper.capacity,
    Nat.le_trans fewer.length_le proper.fits, proper.roomy⟩

end Proper

/-! ### Counters -/

/-- The counters of a cache after so many look-ups and so many stores under new paths: each look-up
was a hit or a miss, and each store under a new path gave an entry that is still there, made way for
another or was dropped. The numbers are kept modulo the size of a counter. -/
structure Tallied (cache : Cache α) (lookups stores : Nat) : Prop where
  looked : ∃ hits misses, hits + misses = lookups ∧
    cache.hits = .ofNat hits ∧ cache.misses = .ofNat misses
  stored : ∃ evictions invalidations, cache.size + evictions + invalidations = stores ∧
    cache.evictions = .ofNat evictions ∧ cache.invalidations = .ofNat invalidations

/-- An empty cache is tallied. -/
theorem tallied_ofCapacity (capacity : Nat) : (ofCapacity capacity : Cache α).Tallied 0 0 :=
  ⟨⟨0, 0, rfl, rfl, rfl⟩, 0, 0, rfl, rfl, rfl⟩

namespace Tallied

/-- In the arithmetic of the counters, hits and misses are the look-ups. -/
theorem lookups_eq (tallied : cache.Tallied lookups stores) :
    cache.hits + cache.misses = .ofNat lookups := by
  obtain ⟨hits, misses, rfl, hit, missed⟩ := tallied.looked
  rw [hit, missed, UInt64.ofNat_add]

/-- In the arithmetic of the counters, what is there and what is gone are the stores. -/
theorem stores_eq (tallied : cache.Tallied lookups stores) :
    .ofNat cache.size + cache.evictions + cache.invalidations = .ofNat stores := by
  obtain ⟨evictions, invalidations, rfl, evicted, invalidated⟩ := tallied.stored
  rw [evicted, invalidated, UInt64.ofNat_add, UInt64.ofNat_add]

/-- Few enough look-ups are counted exactly. -/
theorem toNat_lookups (tallied : cache.Tallied lookups stores) (few : lookups < 2 ^ 64) :
    cache.hits.toNat + cache.misses.toNat = lookups := by
  obtain ⟨hits, misses, rfl, hit, missed⟩ := tallied.looked
  rw [hit, missed, UInt64.toNat_ofNat_of_lt' (Nat.lt_of_le_of_lt (Nat.le_add_right ..) few),
    UInt64.toNat_ofNat_of_lt' (Nat.lt_of_le_of_lt (Nat.le_add_left ..) few)]

/-- Few enough stores are counted exactly. -/
theorem toNat_stores (tallied : cache.Tallied lookups stores) (few : stores < 2 ^ 64) :
    cache.size + cache.evictions.toNat + cache.invalidations.toNat = stores := by
  obtain ⟨evictions, invalidations, rfl, evicted, invalidated⟩ := tallied.stored
  rw [evicted, invalidated, UInt64.toNat_ofNat_of_lt' (by omega : evictions < 2 ^ 64),
    UInt64.toNat_ofNat_of_lt' (by omega : invalidations < 2 ^ 64)]

end Tallied

/-! ### Look-ups -/

/-- A look-up finds nothing, finds a value, or finds one that is stale and drops it. -/
theorem get_cases (cache : Cache α) (path : Path) (modified : Nat) :
    (cache.find? path = none ∧
      cache.get path modified = (none, { cache with misses := cache.misses + 1 }, [])) ∨
    (∃ entry, cache.find? path = some entry ∧ entry.modified = modified ∧
      cache.get path modified = (some entry.value, { cache with hits := cache.hits + 1 }, [])) ∨
    ∃ entry, cache.find? path = some entry ∧ entry.modified ≠ modified ∧
      cache.get path modified = (none,
        { cache with
          entries := cache.others path
          misses := cache.misses + 1
          invalidations := cache.invalidations + 1 },
        [staleEvent path]) := by
  rw [get]
  cases found : cache.find? path with
  | none => exact .inl ⟨rfl, rfl⟩
  | some entry =>
    by_cases fresh : entry.modified = modified
    · exact .inr (.inl ⟨entry, rfl, fresh, by simp only [if_pos fresh]⟩)
    · exact .inr (.inr ⟨entry, rfl, fresh, by simp only [if_neg fresh]⟩)

/-- After a look-up that gives nothing there is no entry of the path. -/
theorem find?_get (missed : (cache.get path modified).1 = none) :
    (cache.get path modified).2.1.find? path = none := by
  obtain ⟨absent, same⟩ | ⟨entry, -, -, same⟩ | ⟨entry, -, -, same⟩ := cache.get_cases path modified
  · rw [same]
    exact absent
  · rw [same] at missed
    contradiction
  · rw [same]
    exact find?_eq_none.2 fun entry listed => (mem_others.1 listed).2

/-- A lookup adds no entry. -/
theorem sublist_get (cache : Cache α) (path : Path) (modified : Nat) :
    (cache.get path modified).2.1.entries.Sublist cache.entries := by
  obtain ⟨-, same⟩ | ⟨entry, -, -, same⟩ | ⟨entry, -, -, same⟩ := cache.get_cases path modified <;>
    rw [same]
  exact List.filter_sublist

/-- A lookup keeps a cache proper. -/
theorem Proper.get (proper : cache.Proper room) (path : Path) (modified : Nat) :
    (cache.get path modified).2.1.Proper room := by
  refine proper.of_sublist ?_ (cache.sublist_get path modified)
  obtain ⟨-, same⟩ | ⟨entry, -, -, same⟩ | ⟨entry, -, -, same⟩ := cache.get_cases path modified <;>
    rw [same]

/-- A lookup is counted once. -/
theorem Tallied.get (tallied : cache.Tallied lookups stores) (proper : cache.Proper room)
    (path : Path) (modified : Nat) :
    (cache.get path modified).2.1.Tallied (lookups + 1) stores := by
  obtain ⟨hits, misses, looked, hit, missed⟩ := tallied.looked
  obtain ⟨evictions, invalidations, stored, evicted, invalidated⟩ := tallied.stored
  obtain ⟨-, same⟩ | ⟨entry, -, -, same⟩ | ⟨entry, found, -, same⟩ :=
    cache.get_cases path modified <;> rw [same]
  · refine ⟨⟨hits, misses + 1, by omega, hit, ?_⟩, tallied.stored⟩
    rw [missed, UInt64.ofNat_add]
    rfl
  · refine ⟨⟨hits + 1, misses, by omega, ?_, missed⟩, tallied.stored⟩
    rw [hit, UInt64.ofNat_add]
    rfl
  · obtain ⟨listed, its⟩ := mem_of_find? found
    have fewer := proper.length_others listed its
    refine ⟨⟨hits, misses + 1, by omega, hit, ?_⟩, evictions, invalidations + 1, ?_, evicted, ?_⟩
    · rw [missed, UInt64.ofNat_add]
      rfl
    · rw [← stored, ← fewer]
      dsimp only [size]
      omega
    · rw [invalidated, UInt64.ofNat_add]
      rfl

/-! ### Stores -/

/-- Room is made, where there is none, by the entry with the least number. -/
theorem makeRoom_cases (proper : cache.Proper room) (listing : Listing (CacheEntry α)) :
    (cache.size < room ∧ cache.makeRoom listing = cache) ∨
    (cache.size = room ∧ ∃ oldest ∈ cache.entries,
      (∀ entry ∈ cache.entries, oldest.sequence ≤ entry.sequence) ∧
      cache.makeRoom listing =
        { cache with entries := cache.others oldest.path, evictions := cache.evictions + 1 }) := by
  rw [makeRoom, proper.capacity]
  by_cases free : cache.size < room
  · exact .inl ⟨free, if_pos free⟩
  · have full := Nat.le_antisymm proper.fits (Nat.le_of_not_lt free)
    have listed := listing.perm cache.entries
    have some : listing.arrange cache.entries ≠ [] := by
      rw [← List.length_pos_iff, listed.length_eq, ← size, full]
      exact proper.roomy
    refine .inr ⟨full, List.minOn (·.sequence) _ some, listed.mem_iff.1 List.minOn_mem, ?_, ?_⟩
    · exact fun entry held => List.apply_minOn_le_of_mem (listed.mem_iff.2 held)
    · rw [if_neg free, List.minOn?_eq_some_minOn some]

/-- To make room adds no entry. -/
theorem sublist_makeRoom (proper : cache.Proper room) (listing : Listing (CacheEntry α)) :
    (cache.makeRoom listing).entries.Sublist cache.entries := by
  obtain ⟨-, same⟩ | ⟨-, oldest, -, -, same⟩ := makeRoom_cases proper listing <;> rw [same]
  exact List.filter_sublist

/-- To make room leaves the capacity as it is. -/
@[simp]
theorem capacity_makeRoom : (cache.makeRoom listing).capacity = cache.capacity := by
  rw [makeRoom]
  split
  · rfl
  · split <;> rfl

/-- To make room leaves the sequence number as it is. -/
@[simp]
theorem sequence_makeRoom : (cache.makeRoom listing).sequence = cache.sequence := by
  rw [makeRoom]
  split
  · rfl
  · split <;> rfl

/-- To make room keeps a cache proper. -/
theorem Proper.makeRoom (proper : cache.Proper room) : (cache.makeRoom listing).Proper room :=
  proper.of_sublist capacity_makeRoom (sublist_makeRoom proper listing)

/-- Once room is made, there is place for an entry. -/
theorem size_makeRoom_lt (proper : cache.Proper room) :
    (cache.makeRoom listing).size < room := by
  obtain ⟨free, same⟩ | ⟨full, oldest, listed, -, same⟩ := makeRoom_cases proper listing <;>
    rw [same]
  · exact free
  · have fewer := proper.length_others listed rfl
    dsimp only [size] at fewer full ⊢
    omega

/-- An eviction is counted once. -/
theorem Tallied.makeRoom (tallied : cache.Tallied lookups stores) (proper : cache.Proper room) :
    (cache.makeRoom listing).Tallied lookups stores := by
  obtain ⟨-, same⟩ | ⟨-, oldest, listed, -, same⟩ := makeRoom_cases proper listing <;> rw [same]
  · exact tallied
  · obtain ⟨evictions, invalidations, stored, evicted, invalidated⟩ := tallied.stored
    have fewer := proper.length_others listed rfl
    refine ⟨tallied.looked, evictions + 1, invalidations, ?_, ?_, invalidated⟩
    · rw [← stored, ← fewer]
      dsimp only [size]
      omega
    · rw [evicted, UInt64.ofNat_add]
      rfl

/-- What is put into the table is written as the path was, which has the same components. -/
theorem components_written (cache : Cache α) (path : Path) :
    (((cache.find? path).map (·.path)).getD path).components = path.components := by
  cases found : cache.find? path with
  | none => rfl
  | some entry => exact (mem_of_find? found).2

/-- A stored entry is added to those of other paths. -/
theorem size_put : (cache.put path modified value).size = (cache.others path).length + 1 := by
  rw [size, put, List.length_append, List.length_singleton]

/-- Where there is place, a stored entry keeps a cache proper. -/
theorem Proper.put (proper : cache.Proper room) (free : (cache.others path).length < room) :
    (cache.put path modified value).Proper room where
  distinct := by
    rw [Cache.put, List.map_append, List.map_singleton, components_written,
      ← List.concat_eq_append]
    refine List.Nodup.concat (fun listed => ?_)
      (proper.distinct.sublist (List.filter_sublist.map _))
    obtain ⟨entry, other, same⟩ := List.mem_map.1 listed
    exact (mem_others.1 other).2 same
  capacity := proper.capacity
  fits := size_put ▸ free
  roomy := proper.roomy

/-- Storing puts an entry into the table, after room is made for a new path. -/
theorem insert_cases (cache : Cache α) (path : Path) (modified : Nat) (value : α)
    (listing : Listing (CacheEntry α)) :
    ((cache.find? path).isSome ∧
      cache.insert path modified value listing = cache.put path modified value) ∨
    (cache.find? path = none ∧
      cache.insert path modified value listing =
        (cache.makeRoom listing).put path modified value) := by
  rw [insert]
  cases found : cache.find? path with
  | none => exact .inr ⟨rfl, rfl⟩
  | some entry => exact .inl ⟨rfl, rfl⟩

/-- Making room gives no path an entry. -/
theorem find?_makeRoom (proper : cache.Proper room) (absent : cache.find? path = none) :
    (cache.makeRoom listing).find? path = none :=
  find?_eq_none.2 fun entry listed =>
    find?_eq_none.1 absent entry ((sublist_makeRoom proper listing).subset listed)

/-- To store a value keeps a cache proper. -/
theorem Proper.insert (proper : cache.Proper room) :
    (cache.insert path modified value listing).Proper room := by
  obtain ⟨found, same⟩ | ⟨absent, same⟩ := cache.insert_cases path modified value listing <;>
    rw [same]
  · obtain ⟨entry, found⟩ := Option.isSome_iff_exists.1 found
    obtain ⟨listed, its⟩ := mem_of_find? found
    have fewer := proper.length_others listed its
    have fits := proper.fits
    exact proper.put (by omega)
  · refine proper.makeRoom.put ?_
    rw [others_of_find?_none (find?_makeRoom proper absent)]
    exact size_makeRoom_lt proper

/-- To store a value under a new path is counted once. -/
theorem Tallied.insert (tallied : cache.Tallied lookups stores) (proper : cache.Proper room)
    (path : Path) (modified : Nat) (value : α) (listing : Listing (CacheEntry α)) :
    (cache.insert path modified value listing).Tallied lookups
      (stores + (cache.find? path).isNone.toNat) := by
  obtain ⟨found, same⟩ | ⟨absent, same⟩ := cache.insert_cases path modified value listing <;>
    rw [same]
  · obtain ⟨entry, found⟩ := Option.isSome_iff_exists.1 found
    obtain ⟨listed, its⟩ := mem_of_find? found
    obtain ⟨evictions, invalidations, stored, counted⟩ := tallied.stored
    refine ⟨tallied.looked, evictions, invalidations, ?_, counted⟩
    rw [size_put, proper.length_others listed its, found, stored]
    rfl
  · obtain ⟨evictions, invalidations, stored, counted⟩ := (tallied.makeRoom proper).stored
    refine ⟨(tallied.makeRoom proper).looked, evictions, invalidations, ?_, counted⟩
    rw [size_put, others_of_find?_none (find?_makeRoom proper absent), absent, ← stored]
    dsimp only [size, Option.isNone_none, Bool.toNat_true]
    omega

/-! ### Dropping entries -/

/-- An entry is dropped if there is one. -/
theorem invalidate_cases (cache : Cache α) (path : Path) :
    (cache.find? path = none ∧ cache.invalidate path = (false, cache)) ∨
    (∃ entry, cache.find? path = some entry ∧ cache.invalidate path =
      (true,
        { cache with
          entries := cache.others path, invalidations := cache.invalidations + 1 })) := by
  rw [invalidate]
  cases found : cache.find? path with
  | none => exact .inl ⟨rfl, rfl⟩
  | some entry => exact .inr ⟨entry, rfl, rfl⟩

/-- An invalidation adds no entry. -/
theorem sublist_invalidate (cache : Cache α) (path : Path) :
    (cache.invalidate path).2.entries.Sublist cache.entries := by
  obtain ⟨-, same⟩ | ⟨entry, -, same⟩ := cache.invalidate_cases path <;> rw [same]
  exact List.filter_sublist

/-- An invalidation leaves the sequence number as it is. -/
theorem sequence_invalidate : (cache.invalidate path).2.sequence = cache.sequence := by
  obtain ⟨-, same⟩ | ⟨entry, -, same⟩ := cache.invalidate_cases path <;> rw [same]

/-- An invalidation keeps a cache proper. -/
theorem Proper.invalidate (proper : cache.Proper room) : (cache.invalidate path).2.Proper room := by
  refine proper.of_sublist ?_ (cache.sublist_invalidate path)
  obtain ⟨-, same⟩ | ⟨entry, -, same⟩ := cache.invalidate_cases path <;> rw [same]

/-- An invalidation is counted for the entry that it takes out. -/
theorem Tallied.invalidate (tallied : cache.Tallied lookups stores) (proper : cache.Proper room) :
    (cache.invalidate path).2.Tallied lookups stores := by
  obtain ⟨-, same⟩ | ⟨entry, found, same⟩ := cache.invalidate_cases path <;> rw [same]
  · exact tallied
  · obtain ⟨evictions, invalidations, stored, evicted, invalidated⟩ := tallied.stored
    obtain ⟨listed, its⟩ := mem_of_find? found
    have fewer := proper.length_others listed its
    refine ⟨tallied.looked, evictions, invalidations + 1, ?_, evicted, ?_⟩
    · rw [← stored, ← fewer]
      dsimp only [size]
      omega
    · rw [invalidated, UInt64.ofNat_add]
      rfl

/-- A cleared cache is proper. -/
theorem Proper.clear (proper : cache.Proper room) : cache.clear.Proper room :=
  proper.of_sublist rfl (List.nil_sublist _)

/-- To clear a cache counts the entries that are taken out. -/
theorem Tallied.clear (tallied : cache.Tallied lookups stores) :
    cache.clear.Tallied lookups stores := by
  obtain ⟨evictions, invalidations, stored, evicted, invalidated⟩ := tallied.stored
  refine ⟨tallied.looked, evictions, invalidations + cache.size, ?_, evicted, ?_⟩
  · rw [← stored]
    dsimp only [Cache.clear, size, List.length_nil]
    omega
  · rw [Cache.clear, invalidated, UInt64.ofNat_add]

/-! ### Actions -/

/-- Every action keeps a cache proper. -/
theorem Proper.act (proper : cache.Proper room) (listing : Listing (CacheEntry α))
    (action : CacheAction α) : (cache.act listing action).2.Proper room := by
  cases action with
  | get path modified => exact proper.get path modified
  | insert finding => exact proper.insert
  | invalidate path => exact proper.invalidate
  | clear => exact proper.clear

/-- Every action is counted as a lookup, a new entry or neither. -/
theorem Tallied.act (tallied : cache.Tallied lookups stores) (proper : cache.Proper room)
    (listing : Listing (CacheEntry α)) (action : CacheAction α) :
    (cache.act listing action).2.Tallied (lookups + action.looksUp.toNat)
      (stores + (cache.storesNew action).toNat) := by
  cases action with
  | get path modified => exact tallied.get proper path modified
  | insert finding =>
    exact tallied.insert proper finding.path finding.modified finding.value listing
  | invalidate path => exact tallied.invalidate proper
  | clear => exact tallied.clear

/-- The entries after an action were there before, but for the one that it stores. -/
theorem mem_entries_act (proper : cache.Proper room) {action : CacheAction α}
    (listed : entry ∈ (cache.act listing action).2.entries) :
    entry ∈ cache.entries ∨ ∃ finding, action = .insert finding ∧
      entry.path.components = finding.path.components ∧ entry.modified = finding.modified ∧
      entry.value = finding.value := by
  cases action with
  | get path modified => exact .inl ((cache.sublist_get path modified).subset listed)
  | insert finding =>
    have stored (earlier : Cache α) (within : earlier.entries.Sublist cache.entries)
        (put : entry ∈ (earlier.put finding.path finding.modified finding.value).entries) :
        entry ∈ cache.entries ∨ ∃ stored, CacheAction.insert finding = .insert stored ∧
          entry.path.components = stored.path.components ∧ entry.modified = stored.modified ∧
          entry.value = stored.value := by
      obtain old | new := List.mem_append.1 put
      · exact .inl (within.subset (mem_others.1 old).1)
      · obtain rfl := List.mem_singleton.1 new
        exact .inr ⟨finding, rfl, earlier.components_written finding.path, rfl, rfl⟩
    dsimp only [act] at listed
    obtain ⟨-, same⟩ | ⟨-, same⟩ :=
      cache.insert_cases finding.path finding.modified finding.value listing
    · exact stored cache (.refl _) (same ▸ listed)
    · exact stored (cache.makeRoom listing) (sublist_makeRoom proper listing) (same ▸ listed)
  | invalidate path => exact .inl ((cache.sublist_invalidate path).subset listed)
  | clear => contradiction

end Cache
end Stencil
