import Stencil.Facts.Cache
/-!
# Clients of a cache

What is asked of a cache, as data. A cache is shared by clients that take turns in any order. In one
turn a client does one action, which nothing comes between; a look-up that is to be followed by a
store takes two turns, and the value to be stored is computed between them.
-/

namespace Stencil

/-- What is done to a cache at once. -/
inductive CacheAction (α : Type) where
  | get (path : Path) (modified : Nat)
  | insert (finding : Finding α)
  | invalidate (path : Path)
  | clear

/-- What is asked of a cache. -/
inductive CacheOperation (α : Type) where
  | act (action : CacheAction α)
  /-- A look-up, with the finding that is computed if nothing is found. -/
  | getOrCompute (computed : Finding α)

/-- An operation and the order in which the table would list its entries then. -/
structure CacheCall (α : Type) where
  operation : CacheOperation α
  listing : Listing (CacheEntry α)

/-- What a cache answers. -/
inductive CacheAnswer (α : Type) where
  | found (value : Option α)
  | stored
  /-- A value, and whether it was kept. -/
  | supplied (value : α) (wasKept : Bool)
  /-- Whether there was an entry to be dropped. -/
  | dropped (wasThere : Bool)
  | cleared
  deriving DecidableEq

/-- Whether something is looked up. -/
def CacheAction.looksUp {α : Type} : CacheAction α → Bool
  | .get .. => true
  | _ => false

namespace CacheOperation

variable {α : Type}

/-- Whether something is looked up. -/
def looksUp : CacheOperation α → Bool
  | .act action => action.looksUp
  | .getOrCompute _ => true

/-- The finding that is stored, or may be. -/
def finding? : CacheOperation α → Option (Finding α)
  | .act (.insert finding) => some finding
  | .getOrCompute computed => some computed
  | _ => none

end CacheOperation

namespace Cache

variable {α : Type}

/-- Whether an action would store something under a path that has no entry. -/
def storesNew (cache : Cache α) : CacheAction α → Bool
  | .insert finding => (cache.find? finding.path).isNone
  | _ => false

/-- The answer to an action, and the cache after it. -/
def act (cache : Cache α) (listing : Listing (CacheEntry α)) :
    CacheAction α → CacheAnswer α × Cache α
  | .get path modified =>
    let (found, cache, _) := cache.get path modified
    (.found found, cache)
  | .insert ⟨path, modified, value⟩ => (.stored, cache.insert path modified value listing)
  | .invalidate path =>
    let (wasThere, cache) := cache.invalidate path
    (.dropped wasThere, cache)
  | .clear => (.cleared, cache.clear)

/-- The answer to an operation, and the cache after it. -/
def perform (cache : Cache α) (listing : Listing (CacheEntry α)) :
    CacheOperation α → CacheAnswer α × Cache α
  | .act action => cache.act listing action
  | .getOrCompute ⟨path, modified, value⟩ =>
    let ((value, wasKept), cache, _) :=
      cache.getOrCompute path modified (fun _ => (value, [])) listing
    (.supplied value wasKept, cache)

/-- The answers to calls, and the cache after them. -/
def run (cache : Cache α) : List (CacheCall α) → List (CacheAnswer α) × Cache α
  | [] => ([], cache)
  | call :: calls =>
    let (answer, cache) := cache.perform call.listing call.operation
    let (answers, cache) := run cache calls
    (answer :: answers, cache)

end Cache

/-- Someone who uses a cache. -/
structure CacheClient (α : Type) where
  /-- What was computed after a look-up that found nothing, and is stored next. -/
  storing : Option (Finding α) := none
  pending : List (CacheOperation α)
  /-- What it was given, for the path and the time it asked for. -/
  received : List (Finding α) := []

namespace CacheClient

variable {α : Type}

/-- What the client does next. -/
def next? (client : CacheClient α) : Option (CacheAction α) :=
  match client.storing, client.pending with
  | some computed, _ => some (.insert computed)
  | none, .act action :: _ => some action
  | none, .getOrCompute ⟨path, modified, _⟩ :: _ => some (.get path modified)
  | none, [] => none

/-- The client after it was answered. -/
def after (client : CacheClient α) (answer : CacheAnswer α) : CacheClient α :=
  match client.storing, client.pending, answer with
  | some computed, pending, _ => ⟨none, pending, client.received ++ [computed]⟩
  | none, .act (.get path modified) :: rest, .found (some value) =>
    ⟨none, rest, client.received ++ [⟨path, modified, value⟩]⟩
  | none, .getOrCompute computed :: rest, .found (some value) =>
    ⟨none, rest, client.received ++ [{ computed with value := value }]⟩
  | none, .getOrCompute computed :: rest, _ => ⟨some computed, rest, client.received⟩
  | none, _ :: rest, _ => ⟨none, rest, client.received⟩
  | none, [], _ => client

end CacheClient

/-- A cache and its clients. -/
structure SharedCache (α : Type) where
  cache : Cache α
  clients : List (CacheClient α)

/-- Whose turn it is, and the order in which the table would list its entries then. -/
structure CacheTurn (α : Type) where
  client : Nat
  listing : Listing (CacheEntry α)

namespace SharedCache

variable {α : Type}

/-- Clients that have done nothing yet, each with what it is to ask. -/
def start (cache : Cache α) (programs : List (List (CacheOperation α))) : SharedCache α :=
  ⟨cache, programs.map fun program => { pending := program }⟩

/-- A turn of one client. A client that is not there or has nothing more to do does nothing. -/
def step (shared : SharedCache α) (turn : CacheTurn α) : SharedCache α :=
  match shared.clients[turn.client]? with
  | none => shared
  | some client =>
    match client.next? with
    | none => shared
    | some action =>
      let (answer, cache) := shared.cache.act turn.listing action
      ⟨cache, shared.clients.set turn.client (client.after answer)⟩

/-- Turns one after another. -/
def run (shared : SharedCache α) (turns : List (CacheTurn α)) : SharedCache α :=
  turns.foldl step shared

/-- Whether no client has anything more to do. -/
def isFinished (shared : SharedCache α) : Bool :=
  shared.clients.all fun client => client.next?.isNone

end SharedCache
end Stencil
