import Stencil.Decimal.Ratio
import Stencil.Files.Path
import Stencil.Journal.Event
/-!
# The facts cache

What was found out about a file is kept until the file changes. Entries are in a table that lists
them in an order of its own; each has the number of the store that put it there, and where there is
no room the entry with the least number makes way. A look-up with another modification time than the
entry was stored with drops the entry.
-/

namespace Stencil

/-- What was found out about a file that was modified at a time. -/
structure Finding (α : Type) where
  path : Path
  modified : Nat
  value : α
  deriving DecidableEq

/-- What is kept for a file. -/
structure CacheEntry (α : Type) extends Finding α where
  /-- The number of the store that put it here. -/
  sequence : UInt64

/-- An order in which a table may list what it holds. -/
structure Listing (β : Type) where
  arrange : List β → List β
  perm : ∀ held, (arrange held).Perm held

/-- The order in which things were put into a table. -/
def Listing.asPut {β : Type} : Listing β := ⟨id, .refl⟩

/-- What is kept for files, and how the cache was used. -/
structure Cache (α : Type) where
  capacity : Nat
  entries : List (CacheEntry α) := []
  /-- The number of the next store. -/
  sequence : UInt64 := 0
  hits : UInt64 := 0
  misses : UInt64 := 0
  invalidations : UInt64 := 0
  evictions : UInt64 := 0

namespace Cache

variable {α : Type}

/-- An empty cache; it has room for one entry at least. -/
def ofCapacity (capacity : Nat) : Cache α := { capacity := max capacity 1 }

/-- The number of entries. -/
def size (cache : Cache α) : Nat := cache.entries.length

/-- The entry of a path. -/
def find? (cache : Cache α) (path : Path) : Option (CacheEntry α) :=
  cache.entries.find? fun entry => entry.path.same path

/-- The entries of the other paths. -/
def others (cache : Cache α) (path : Path) : List (CacheEntry α) :=
  cache.entries.filter fun entry => !entry.path.same path

/-- What is told when an entry is dropped because its file changed. -/
def staleEvent (path : Path) : Event := .debug "Cached facts are stale" [("path", path.text)]

/-- What is kept for a file that was modified at a time, the cache after the look-up, and what is
told of it. -/
def get (cache : Cache α) (path : Path) (modified : Nat) : Option α × Cache α × List Event :=
  match cache.find? path with
  | none => (none, { cache with misses := cache.misses + 1 }, [])
  | some entry =>
    if entry.modified = modified then
      (some entry.value, { cache with hits := cache.hits + 1 }, [])
    else
      (none,
        { cache with
          entries := cache.others path
          misses := cache.misses + 1
          invalidations := cache.invalidations + 1 },
        [staleEvent path])

/-- The cache with room for another entry. If there is none, the entry that was stored first makes
way; it is looked for in the order in which the table lists its entries. -/
def makeRoom (cache : Cache α) (listing : Listing (CacheEntry α)) : Cache α :=
  if cache.size < cache.capacity then cache
  else
    match (listing.arrange cache.entries).minOn? (·.sequence) with
    | none => cache
    | some oldest =>
      { cache with entries := cache.others oldest.path, evictions := cache.evictions + 1 }

/-- The cache after a store with the next number. A path that is in the table stays there as it was
written. -/
def put (cache : Cache α) (path : Path) (modified : Nat) (value : α) : Cache α :=
  let written := ((cache.find? path).map (·.path)).getD path
  { cache with
    entries := cache.others path ++ [⟨⟨written, modified, value⟩, cache.sequence⟩]
    sequence := cache.sequence + 1 }

/-- Stores a value. A path that is stored already makes way for itself, a new one for the oldest if
there is no room. -/
def insert (cache : Cache α) (path : Path) (modified : Nat) (value : α)
    (listing : Listing (CacheEntry α) := .asPut) : Cache α :=
  let cache := if (cache.find? path).isSome then cache else cache.makeRoom listing
  cache.put path modified value

/-- What is kept for a file, or else a value that is computed and stored; whether it was kept; and
what is told. -/
def getOrCompute (cache : Cache α) (path : Path) (modified : Nat) (compute : Unit → α × List Event)
    (listing : Listing (CacheEntry α) := .asPut) : (α × Bool) × Cache α × List Event :=
  match cache.get path modified with
  | (some value, cache, events) => ((value, true), cache, events)
  | (none, cache, events) =>
    let (value, computing) := compute ()
    ((value, false), cache.insert path modified value listing, events ++ computing)

/-- Drops the entry of a path, and says whether there was one. -/
def invalidate (cache : Cache α) (path : Path) : Bool × Cache α :=
  match cache.find? path with
  | none => (false, cache)
  | some _ =>
    (true,
      { cache with entries := cache.others path, invalidations := cache.invalidations + 1 })

/-- Drops all entries. -/
def clear (cache : Cache α) : Cache α :=
  { cache with entries := [], invalidations := cache.invalidations + .ofNat cache.size }

/-- The share of look-ups that found something. -/
def hitRate (cache : Cache α) : Ratio :=
  Ratio.quotient cache.hits.toNat (cache.hits + cache.misses).toNat

/-- How the cache was used, as data. -/
def toJson (cache : Cache α) : Json :=
  .obj
    [("entries", cache.size), ("capacity", cache.capacity), ("hits", cache.hits.toNat),
     ("misses", cache.misses.toNat), ("invalidations", cache.invalidations.toNat),
     ("evictions", cache.evictions.toNat)]

end Cache
end Stencil
