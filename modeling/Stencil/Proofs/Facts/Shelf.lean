import Stencil.Proofs.Facts.Cache
/-!
# The facts cache is a shelf

What a cache keeps, in the order of the last stores, is a shelf: a list that is filled at one end
and makes room at the other. The numbers of stores put the entries of the table into that order, so
that the entry with the least number is the first on the shelf however the table lists its entries.
As long as the numbers do not start over, every answer of the cache is that of the shelf
(`run_refines_shelf`).
-/

namespace Stencil

/-- What is kept for a file. Its path counts by its components. -/
structure ShelfItem (α : Type) where
  path : List Component
  modified : Nat
  value : α
  deriving DecidableEq

/-- What is kept of a finding. -/
def Finding.item {α : Type} (finding : Finding α) : ShelfItem α :=
  ⟨finding.path.components, finding.modified, finding.value⟩

/-- Items in the order in which they were last stored, oldest first, and the number of items that
there is room for. -/
structure Shelf (α : Type) where
  room : Nat
  items : List (ShelfItem α) := []

namespace Shelf

variable {α : Type}

/-- An empty shelf; it has room for one item at least. -/
def ofCapacity (capacity : Nat) : Shelf α := { room := max capacity 1 }

/-- The item of a path. -/
def find? (shelf : Shelf α) (path : List Component) : Option (ShelfItem α) :=
  shelf.items.find? fun item => item.path = path

/-- The items of the other paths. -/
def others (shelf : Shelf α) (path : List Component) : List (ShelfItem α) :=
  shelf.items.filter fun item => item.path ≠ path

/-- The shelf without the item of a path. -/
def drop (shelf : Shelf α) (path : List Component) : Shelf α :=
  { shelf with items := shelf.others path }

/-- The value of a path and a time, and the shelf after the look-up. An item with another time is
dropped. -/
def get (shelf : Shelf α) (path : List Component) (modified : Nat) : Option α × Shelf α :=
  match shelf.find? path with
  | none => (none, shelf)
  | some item =>
    if item.modified = modified then (some item.value, shelf) else (none, shelf.drop path)

/-- The shelf after an item was stored: the newest is the last. A path that is there makes way for
itself, a new one for the oldest if the shelf is full. -/
def insert (shelf : Shelf α) (item : ShelfItem α) : Shelf α :=
  if (shelf.find? item.path).isSome then { shelf with items := shelf.others item.path ++ [item] }
  else if shelf.items.length < shelf.room then { shelf with items := shelf.items ++ [item] }
  else { shelf with items := shelf.items.tail ++ [item] }

/-- The answer to an operation, and the shelf after it. -/
def perform (shelf : Shelf α) : CacheOperation α → CacheAnswer α × Shelf α
  | .act (.get path modified) =>
    let (found, shelf) := shelf.get path.components modified
    (.found found, shelf)
  | .act (.insert finding) => (.stored, shelf.insert finding.item)
  | .act (.invalidate path) =>
    (.dropped (shelf.find? path.components).isSome, shelf.drop path.components)
  | .act .clear => (.cleared, { shelf with items := [] })
  | .getOrCompute computed =>
    match shelf.get computed.path.components computed.modified with
    | (some value, shelf) => (.supplied value true, shelf)
    | (none, shelf) => (.supplied computed.value false, shelf.insert computed.item)

/-- The answers to operations, and the shelf after them. -/
def run (shelf : Shelf α) : List (CacheOperation α) → List (CacheAnswer α) × Shelf α
  | [] => ([], shelf)
  | operation :: operations =>
    let (answer, shelf) := shelf.perform operation
    let (answers, shelf) := run shelf operations
    (answer :: answers, shelf)

/-- Without an item of a path all items are those of other paths. -/
theorem others_of_find?_none {shelf : Shelf α} {path : List Component}
    (absent : shelf.find? path = none) : shelf.others path = shelf.items := by
  refine List.filter_eq_self.2 fun item listed => ?_
  have other := List.find?_eq_none.1 absent item listed
  rw [decide_eq_true_eq] at other ⊢
  exact other

/-- Whether an operation stores an item under a path that is not on the shelf by then. -/
def storesNew (shelf : Shelf α) : CacheOperation α → Bool
  | .act (.insert finding) => (shelf.find? finding.path.components).isNone
  | .act _ => false
  | .getOrCompute computed =>
    let (found, shelf) := shelf.get computed.path.components computed.modified
    found.isNone && (shelf.find? computed.path.components).isNone

/-- How many operations of a run store an item under a path that is not on the shelf by then. -/
def newStores (shelf : Shelf α) : List (CacheOperation α) → Nat
  | [] => 0
  | operation :: operations =>
    (shelf.storesNew operation).toNat + newStores (shelf.perform operation).2 operations

/-- No more entries are new than there are operations. -/
theorem newStores_le_length (shelf : Shelf α) (operations : List (CacheOperation α)) :
    shelf.newStores operations ≤ operations.length := by
  induction operations generalizing shelf with
  | nil => exact Nat.le_refl _
  | cons operation operations ih =>
    have rest := ih (shelf.perform operation).2
    have once := Bool.toNat_le (shelf.storesNew operation)
    rw [newStores, List.length_cons]
    omega

end Shelf

namespace Cache

variable {α : Type} {cache : Cache α} {shelf : Shelf α} {path : Path} {modified : Nat} {value : α}
  {listing : Listing (CacheEntry α)} {room lookups stores : Nat}

/-- The entries of a cache are the items of a shelf, and the numbers of their stores ascend. -/
structure Represents (cache : Cache α) (shelf : Shelf α) : Prop where
  room : shelf.room = cache.capacity
  ordered : ∃ entries : List (CacheEntry α), entries.Perm cache.entries ∧
    (entries.map fun entry => entry.item) = shelf.items ∧
    entries.Pairwise (fun earlier later => earlier.sequence < later.sequence) ∧
    ∀ entry ∈ entries, entry.sequence < cache.sequence

/-- An empty cache represents an empty shelf. -/
theorem represents_ofCapacity (capacity : Nat) :
    (ofCapacity capacity : Cache α).Represents (.ofCapacity capacity) :=
  ⟨rfl, [], .nil, rfl, .nil, nofun⟩

namespace Represents

/-- The items on the shelf are the entries in another order. -/
theorem perm (represents : cache.Represents shelf) :
    (cache.entries.map fun entry => entry.item).Perm shelf.items := by
  obtain ⟨entries, perm, items, -, -⟩ := represents.ordered
  exact items ▸ (perm.map _).symm

/-- A shelf has as many items as the cache that represents it. -/
theorem length_items (represents : cache.Represents shelf) : shelf.items.length = cache.size := by
  rw [← represents.perm.length_eq, List.length_map, size]

/-- Both have the same item of a path. -/
theorem find? (represents : cache.Represents shelf) (proper : cache.Proper room) (path : Path) :
    shelf.find? path.components = (cache.find? path).map fun entry => entry.item := by
  obtain ⟨entries, perm, items, -, -⟩ := represents.ordered
  rw [Shelf.find?, ← items, List.find?_map, Cache.find?]
  congr 1
  refine find?_eq_of_perm perm fun one listed other also its others => ?_
  exact proper.unique (perm.mem_iff.1 listed) (perm.mem_iff.1 also)
    ((Path.same_iff.1 its).trans (Path.same_iff.1 others).symm)

/-- Counters do not matter. -/
theorem of_same (represents : cache.Represents shelf) {next : Cache α}
    (capacity : next.capacity = cache.capacity) (entries : next.entries = cache.entries)
    (sequence : next.sequence = cache.sequence) : next.Represents shelf := by
  refine ⟨represents.room.trans capacity.symm, ?_⟩
  rw [entries, sequence]
  exact represents.ordered

/-- Both can drop a path. -/
theorem drop (represents : cache.Represents shelf) {next : Cache α}
    (capacity : next.capacity = cache.capacity) (entries : next.entries = cache.others path)
    (sequence : next.sequence = cache.sequence) :
    next.Represents (shelf.drop path.components) := by
  obtain ⟨ordered, perm, items, ascending, numbered⟩ := represents.ordered
  refine ⟨represents.room.trans capacity.symm,
    ordered.filter (fun entry => !entry.path.same path), ?_, ?_, ascending.filter _, ?_⟩
  · rw [entries]
    exact perm.filter _
  · rw [Shelf.drop, Shelf.others, ← items, List.filter_map]
    congr 1
    refine List.filter_congr fun entry _ => ?_
    rw [Path.same, Function.comp_apply]
    exact decide_not.symm
  · intro entry listed
    rw [sequence]
    exact numbered entry (List.mem_of_mem_filter listed)

/-! ### Look-ups -/

/-- A lookup answers as the shelf does, and what is left represents what is left of the shelf. -/
theorem get (represents : cache.Represents shelf) (proper : cache.Proper room) (path : Path)
    (modified : Nat) :
    (cache.get path modified).1 = (shelf.get path.components modified).1 ∧
      (cache.get path modified).2.1.Represents (shelf.get path.components modified).2 := by
  rw [Shelf.get, represents.find? proper]
  obtain ⟨absent, same⟩ | ⟨entry, found, fresh, same⟩ | ⟨entry, found, stale, same⟩ :=
    cache.get_cases path modified
  · rw [same, absent]
    exact ⟨rfl, represents.of_same rfl rfl rfl⟩
  · rw [same, found]
    dsimp only [Option.map_some, Finding.item]
    rw [if_pos fresh]
    exact ⟨rfl, represents.of_same rfl rfl rfl⟩
  · rw [same, found]
    dsimp only [Option.map_some, Finding.item]
    rw [if_neg stale]
    exact ⟨rfl, represents.drop rfl rfl rfl⟩

/-! ### Stores -/

/-- The first item on the shelf is the entry that makes way. -/
theorem makeRoom (represents : cache.Represents shelf) (proper : cache.Proper room)
    (listing : Listing (CacheEntry α)) :
    (cache.makeRoom listing).Represents
      (if shelf.items.length < shelf.room then shelf
        else { shelf with items := shelf.items.tail }) := by
  rw [represents.length_items, represents.room]
  rw [proper.capacity]
  obtain ⟨free, same⟩ | ⟨full, oldest, listed, least, same⟩ := makeRoom_cases proper listing
  · rw [same, if_pos free]
    exact represents
  rw [same, if_neg (by omega)]
  obtain ⟨entries, perm, items, ascending, numbered⟩ := represents.ordered
  cases entries with
  | nil => exact absurd (perm.mem_iff.2 listed) List.not_mem_nil
  | cons first rest =>
    obtain ⟨before, onward⟩ := List.pairwise_cons.1 ascending
    have held := perm.mem_iff.1 List.mem_cons_self
    obtain rfl : oldest = first := by
      obtain same | later := List.mem_cons.1 (perm.mem_iff.2 listed)
      · exact same
      · exact absurd (before oldest later) (UInt64.not_lt.2 (least first held))
    have apart : rest.filter (fun entry => !entry.path.same oldest.path) = rest := by
      refine List.filter_eq_self.2 fun entry later => ?_
      rw [Bool.not_eq_true', ← Bool.not_eq_true, Path.same_iff]
      intro its
      have := proper.unique (perm.mem_iff.1 (List.mem_cons_of_mem _ later)) held its
      exact UInt64.lt_irrefl _ (this ▸ before entry later)
    have left := perm.filter fun entry => !entry.path.same oldest.path
    rw [List.filter_cons_of_neg (by simp [Path.same]), apart] at left
    refine ⟨proper.capacity.symm, rest, left, ?_, onward, fun entry later =>
      numbered entry (List.mem_cons_of_mem _ later)⟩
    rw [← items]
    rfl

/-- The newest entry is the last item on the shelf. -/
theorem put (represents : cache.Represents shelf) (unused : cache.sequence.toNat + 1 < 2 ^ 64)
    (path : Path) (modified : Nat) (value : α) :
    (cache.put path modified value).Represents
      { shelf with
        items := shelf.others path.components ++ [⟨path.components, modified, value⟩] } := by
  have dropped : { cache with entries := cache.others path }.Represents
      (shelf.drop path.components) := represents.drop rfl rfl rfl
  obtain ⟨entries, perm, items, ascending, numbered⟩ := dropped.ordered
  have next : cache.sequence < cache.sequence + 1 := by
    rw [UInt64.lt_iff_toNat_lt, UInt64.toNat_add]
    have one : (1 : UInt64).toNat = 1 := rfl
    omega
  refine ⟨represents.room, entries ++ [_], perm.append_right _, ?_, ?_, ?_⟩
  · rw [List.map_append, items, List.map_singleton, Finding.item, components_written]
    rfl
  · refine List.pairwise_append.2 ⟨ascending, List.pairwise_singleton .., ?_⟩
    rintro earlier listed later (_ | ⟨_, ⟨⟩⟩)
    exact numbered earlier listed
  · intro entry listed
    obtain old | new := List.mem_append.1 listed
    · exact UInt64.lt_trans (numbered entry old) next
    · obtain rfl := List.mem_singleton.1 new
      exact next

/-- A value that is stored goes onto the shelf, as long as sequence numbers are left. -/
theorem insert (represents : cache.Represents shelf) (proper : cache.Proper room)
    (unused : cache.sequence.toNat + 1 < 2 ^ 64) :
    (cache.insert path modified value listing).Represents
      (shelf.insert ⟨path.components, modified, value⟩) := by
  have search := represents.find? proper path
  rw [Shelf.insert, search]
  obtain ⟨found, same⟩ | ⟨absent, same⟩ := cache.insert_cases path modified value listing
  · rw [same, Option.isSome_map, if_pos found]
    exact represents.put unused path modified value
  · have roomy := represents.makeRoom proper listing
    have search := roomy.find? proper.makeRoom path
    rw [find?_makeRoom proper absent] at search
    have stored := roomy.put (sequence_makeRoom.symm ▸ unused) path modified value
    rw [Shelf.others_of_find?_none search] at stored
    rw [same, absent, Option.map_none, Option.isSome_none, if_neg Bool.false_ne_true]
    split at stored
    next free =>
      rw [if_pos free]
      exact stored
    next full =>
      rw [if_neg full]
      exact stored

/-- An invalidation answers as the shelf does, and what is left represents what is left of the
shelf. -/
theorem invalidate (represents : cache.Represents shelf) (proper : cache.Proper room)
    (path : Path) :
    (cache.invalidate path).1 = (shelf.find? path.components).isSome ∧
      (cache.invalidate path).2.Represents (shelf.drop path.components) := by
  have search := represents.find? proper path
  rw [search, Option.isSome_map]
  obtain ⟨absent, same⟩ | ⟨entry, found, same⟩ := cache.invalidate_cases path
  · rw [same, absent]
    exact ⟨rfl, represents.drop rfl (others_of_find?_none absent).symm rfl⟩
  · rw [same, found]
    exact ⟨rfl, represents.drop rfl rfl rfl⟩

/-- A cleared cache represents a cleared shelf. -/
theorem clear (represents : cache.Represents shelf) :
    cache.clear.Represents { shelf with items := [] } :=
  ⟨represents.room, [], .nil, rfl, .nil, nofun⟩

end Represents

/-! ### Operations -/

/-- A cache and the shelf that it is, after so many look-ups and so many stores under new paths. -/
structure Mirrors (cache : Cache α) (shelf : Shelf α) (room lookups stores : Nat) : Prop where
  proper : cache.Proper room
  represents : cache.Represents shelf
  tallied : cache.Tallied lookups stores

/-- A lookup leaves the sequence number as it is. -/
theorem sequence_get : (cache.get path modified).2.1.sequence = cache.sequence := by
  obtain ⟨-, same⟩ | ⟨entry, -, -, same⟩ | ⟨entry, -, -, same⟩ := cache.get_cases path modified <;>
    rw [same]

/-- To store a value takes one sequence number at most. -/
theorem sequence_insert_le :
    (cache.insert path modified value listing).sequence.toNat ≤ cache.sequence.toNat + 1 := by
  have put (earlier : Cache α) (same : earlier.sequence = cache.sequence) :
      (earlier.put path modified value).sequence.toNat ≤ cache.sequence.toNat + 1 := by
    rw [Cache.put, same, UInt64.toNat_add]
    exact Nat.mod_le ..
  obtain ⟨-, same⟩ | ⟨-, same⟩ := cache.insert_cases path modified value listing <;> rw [same]
  · exact put cache rfl
  · exact put _ sequence_makeRoom

/-- A look-up that is followed by a store if nothing is found. -/
theorem perform_getOrCompute (cache : Cache α) (listing : Listing (CacheEntry α))
    (computed : Finding α) :
    cache.perform listing (.getOrCompute computed) =
      match cache.get computed.path computed.modified with
      | (some value, next, _) => (.supplied value true, next)
      | (none, next, _) =>
        (.supplied computed.value false,
          next.insert computed.path computed.modified computed.value listing) := by
  rw [perform, getOrCompute]
  rcases cache.get computed.path computed.modified with ⟨_ | value, next, events⟩ <;> rfl

namespace Mirrors

/-- Both answer an operation alike. -/
theorem perform (mirrors : cache.Mirrors shelf room lookups stores)
    (unused : cache.sequence.toNat + 1 < 2 ^ 64) (listing : Listing (CacheEntry α))
    (operation : CacheOperation α) :
    (cache.perform listing operation).1 = (shelf.perform operation).1 ∧
      (cache.perform listing operation).2.Mirrors (shelf.perform operation).2 room
        (lookups + operation.looksUp.toNat) (stores + (shelf.storesNew operation).toNat) ∧
      (cache.perform listing operation).2.sequence.toNat ≤ cache.sequence.toNat + 1 := by
  obtain ⟨proper, represents, tallied⟩ := mirrors
  cases operation with
  | act action =>
    have next := proper.act listing action
    have counted := tallied.act proper listing action
    cases action with
    | get path modified =>
      obtain ⟨answer, after⟩ := represents.get proper path modified
      exact ⟨congrArg CacheAnswer.found answer, ⟨next, after, counted⟩,
        Nat.le_succ_of_le (Nat.le_of_eq (congrArg UInt64.toNat sequence_get))⟩
    | insert finding =>
      have search := represents.find? proper finding.path
      refine ⟨rfl, ⟨next, represents.insert proper unused, ?_⟩, sequence_insert_le⟩
      rw [Shelf.storesNew, search, Option.isNone_map]
      exact counted
    | invalidate path =>
      obtain ⟨answer, after⟩ := represents.invalidate proper path
      exact ⟨congrArg CacheAnswer.dropped answer, ⟨next, after, counted⟩,
        Nat.le_succ_of_le (Nat.le_of_eq (congrArg UInt64.toNat sequence_invalidate))⟩
    | clear => exact ⟨rfl, ⟨next, represents.clear, counted⟩, Nat.le_succ _⟩
  | getOrCompute computed =>
    obtain ⟨path, modified, value⟩ := computed
    obtain ⟨answer, after⟩ := represents.get proper path modified
    have next := proper.get path modified
    have counted := tallied.get proper path modified
    have search := after.find? next path
    have same : (cache.get path modified).2.1.sequence = cache.sequence := sequence_get
    rw [perform_getOrCompute, Shelf.perform, Shelf.storesNew]
    dsimp only
    rcases looked : cache.get path modified with ⟨found, later, events⟩
    rcases seen : shelf.get path.components modified with ⟨item, rest⟩
    rw [looked] at next counted same
    rw [looked, seen] at answer after search
    obtain rfl : found = item := answer
    cases found with
    | some kept =>
      have fewer := Nat.le_of_eq (congrArg UInt64.toNat same)
      exact ⟨rfl, ⟨next, after, counted⟩, Nat.le_succ_of_le fewer⟩
    | none =>
      have absent := find?_get (congrArg Prod.fst looked)
      rw [looked] at absent
      have stored := counted.insert next path modified value listing
      refine ⟨rfl, ⟨next.insert, after.insert next (same.symm ▸ unused), ?_⟩, ?_⟩
      · rw [absent] at stored
        rw [search, absent]
        exact stored
      · rw [← same]
        exact sequence_insert_le

/-- Both answer every operation of a run alike. -/
theorem run (mirrors : cache.Mirrors shelf room lookups stores) (calls : List (CacheCall α))
    (unused : cache.sequence.toNat + calls.length < 2 ^ 64) :
    (cache.run calls).1 = (shelf.run (calls.map (·.operation))).1 ∧
      (cache.run calls).2.Mirrors (shelf.run (calls.map (·.operation))).2 room
        (lookups + calls.countP (·.operation.looksUp))
        (stores + shelf.newStores (calls.map (·.operation))) := by
  induction calls generalizing cache shelf lookups stores with
  | nil => exact ⟨rfl, mirrors⟩
  | cons call calls ih =>
    rw [List.length_cons] at unused
    obtain ⟨answer, next, used⟩ := mirrors.perform (by omega) call.listing call.operation
    obtain ⟨answers, last⟩ := ih next (by omega)
    refine ⟨?_, ?_⟩
    · exact congrArg₂ List.cons answer answers
    · have once : call.operation.looksUp.toNat = if call.operation.looksUp then 1 else 0 := by
        cases call.operation.looksUp <;> rfl
      rw [List.countP_cons, ← once, Nat.add_comm (List.countP ..), List.map_cons, Shelf.newStores,
        ← Nat.add_assoc, ← Nat.add_assoc]
      exact last

end Mirrors

/-- A cache answers every operation as a shelf does, in whatever orders its table lists the entries,
and what it keeps is what is on the shelf, with one item a path and no more than there is room for.
Hits and misses are the look-ups; what is kept, what made way and what was dropped are the stores
under new paths. -/
theorem run_refines_shelf (capacity : Nat) (calls : List (CacheCall α))
    (short : calls.length < 2 ^ 64) :
    let operations := calls.map (·.operation)
    let ran := (ofCapacity capacity : Cache α).run calls
    let expected := (Shelf.ofCapacity capacity : Shelf α).run operations
    ran.1 = expected.1 ∧
      (ran.2.entries.map fun entry => entry.item).Perm expected.2.items ∧
      (expected.2.items.map (·.path)).Nodup ∧ expected.2.items.length ≤ max capacity 1 ∧
      ran.2.hits.toNat + ran.2.misses.toNat = operations.countP (·.looksUp) ∧
      ran.2.size + ran.2.evictions.toNat + ran.2.invalidations.toNat =
        (Shelf.ofCapacity capacity : Shelf α).newStores operations := by
  have start : (ofCapacity capacity : Cache α).Mirrors (.ofCapacity capacity) _ 0 0 :=
    ⟨proper_ofCapacity capacity, represents_ofCapacity capacity, tallied_ofCapacity capacity⟩
  have unused : (ofCapacity capacity : Cache α).sequence.toNat + calls.length < 2 ^ 64 :=
    (Nat.zero_add _).symm ▸ short
  obtain ⟨answers, proper, represents, tallied⟩ := start.run calls unused
  rw [Nat.zero_add, Nat.zero_add] at tallied
  have lookups : (calls.map (·.operation)).countP (·.looksUp) =
      calls.countP (·.operation.looksUp) := List.countP_map
  have stores := (Shelf.ofCapacity capacity).newStores_le_length (calls.map (·.operation))
  refine ⟨answers, represents.perm, ?_, ?_, ?_, ?_⟩
  · rw [← (represents.perm.map ShelfItem.path).nodup_iff, List.map_map]
    exact proper.distinct
  · rw [represents.length_items]
    exact proper.fits
  · rw [lookups]
    exact tallied.toNat_lookups (Nat.lt_of_le_of_lt List.countP_le_length short)
  · rw [List.length_map] at stores
    exact tallied.toNat_stores (Nat.lt_of_le_of_lt stores short)

/-- With room for two: storing `a` again makes it the newest and evicts nothing, so that `b` makes
way for `c`, although the table lists the newest first; looking `a` up for another time drops it. -/
theorem run_refines_shelf_again :
    let backwards : Listing (CacheEntry Nat) := ⟨List.reverse, List.reverse_perm⟩
    let operations : List (CacheOperation Nat) := [
      .act (.insert ⟨⟨"a"⟩, 1, 10⟩), .act (.insert ⟨⟨"b"⟩, 1, 20⟩), .act (.insert ⟨⟨"a/."⟩, 2, 11⟩),
      .act (.insert ⟨⟨"c"⟩, 1, 30⟩), .act (.get ⟨"b"⟩ 1), .act (.get ⟨"a"⟩ 1),
      .getOrCompute ⟨⟨"c"⟩, 1, 31⟩]
    let calls := operations.map fun operation => (⟨operation, backwards⟩ : CacheCall Nat)
    calls.length < 2 ^ 64 ∧ ((ofCapacity 2).run calls).1 =
      [.stored, .stored, .stored, .stored, .found none, .found none, .supplied 30 true] := by
  intro backwards operations calls
  have short : calls.length < 2 ^ 64 := by
    simp [calls, operations]
  refine ⟨short, (run_refines_shelf 2 calls short).1.trans ?_⟩
  cbv

end Cache
end Stencil
