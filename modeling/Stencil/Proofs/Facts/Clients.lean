import Stencil.Proofs.Facts.Cache
/-!
# Clients share a cache coherently

A look-up that finds nothing and the store that follows it are two turns, and other clients may look
up, store and drop entries between them. If what is computed depends on the path and the time only,
that does no harm: whatever is kept is what would be computed (`Coherent`), no turn loses count of
the look-ups and stores, and there is never more than there is room for (`run_coherent`).
-/

namespace Stencil

/-- Replacing something in a list changes a sum over the list by as much as it changes its part. -/
theorem sum_map_set {β : Type} (part : β → Nat) {items : List β} {index : Nat} {old : β}
    (listed : items[index]? = some old) (new : β) :
    ((items.set index new).map part).sum + part old = (items.map part).sum + part new := by
  induction items generalizing index with
  | nil => contradiction
  | cons first rest ih =>
    cases index with
    | zero =>
      obtain rfl := Option.some.inj listed
      simp only [List.set_cons_zero, List.map_cons, List.sum_cons]
      omega
    | succ index =>
      have := ih listed
      simp only [List.set_cons_succ, List.map_cons, List.sum_cons]
      omega

/-- A finding is what a computation finds out from the path and the time. -/
def Finding.Agrees {α : Type} (compute : List Component → Nat → α) (finding : Finding α) : Prop :=
  finding.value = compute finding.path.components finding.modified

variable {α : Type} {compute : List Component → Nat → α}

/-- What is stored, or may be, is what a computation finds out. -/
def CacheOperation.Computes (compute : List Component → Nat → α)
    (operation : CacheOperation α) : Prop :=
  ∀ finding, operation.finding? = some finding → finding.Agrees compute

/-! ### The cache -/

namespace Cache

variable {cache : Cache α} {listing : Listing (CacheEntry α)} {room : Nat}

/-- All that is kept is what a computation finds out. -/
def Agrees (compute : List Component → Nat → α) (cache : Cache α) : Prop :=
  ∀ entry ∈ cache.entries, entry.Agrees compute

/-- It stays so if what is stored is computed. -/
theorem Agrees.act (agrees : cache.Agrees compute) (proper : cache.Proper room)
    {action : CacheAction α} (computes : (CacheOperation.act action).Computes compute) :
    (cache.act listing action).2.Agrees compute := by
  intro entry listed
  obtain old | ⟨finding, rfl, path, modified, value⟩ := mem_entries_act proper listed
  · exact agrees entry old
  · have := computes finding rfl
    rwa [Finding.Agrees, value, path, modified]

/-- What is found is what would be computed. -/
theorem Agrees.found (agrees : cache.Agrees compute) {path : Path} {modified : Nat} {value : α}
    (found : (cache.get path modified).1 = some value) :
    value = compute path.components modified := by
  obtain ⟨-, same⟩ | ⟨entry, kept, rfl, same⟩ | ⟨entry, -, -, same⟩ :=
    cache.get_cases path modified <;> rw [same] at found
  · contradiction
  · obtain ⟨listed, its⟩ := mem_of_find? kept
    obtain rfl := Option.some.inj found
    rw [← its]
    exact agrees entry listed
  · contradiction

end Cache

/-! ### A client -/

namespace CacheClient

variable {client : CacheClient α} {action : CacheAction α} {answer : CacheAnswer α}

/-- All that a client received, will store or may store is what a computation finds out. -/
structure Agrees (compute : List Component → Nat → α) (client : CacheClient α) : Prop where
  storing : ∀ finding, client.storing = some finding → finding.Agrees compute
  pending : ∀ operation ∈ client.pending, operation.Computes compute
  received : ∀ finding ∈ client.received, finding.Agrees compute

/-- The number of look-ups that a client will still do. -/
def lookupsLeft (client : CacheClient α) : Nat := client.pending.countP (·.looksUp)

/-- A client stores what it computed, does the next action it was asked to do, or looks up what it
may have to compute. -/
theorem next?_cases (next : client.next? = some action) :
    (∃ computed, client.storing = some computed ∧ action = .insert computed ∧
      ∀ answer, client.after answer =
        ⟨none, client.pending, client.received ++ [computed]⟩) ∨
    (∃ rest, client.pending = .act action :: rest ∧
      ∀ answer, client.after answer = ⟨none, rest, client.received⟩ ∨
        ∃ path modified value, action = .get path modified ∧ answer = .found (some value) ∧
          client.after answer = ⟨none, rest, client.received ++ [⟨path, modified, value⟩]⟩) ∨
    (∃ computed rest, client.pending = .getOrCompute computed :: rest ∧
      action = .get computed.path computed.modified ∧
      ∀ answer, client.after answer = ⟨some computed, rest, client.received⟩ ∨
        ∃ value, answer = .found (some value) ∧
          client.after answer =
            ⟨none, rest, client.received ++ [{ computed with value := value }]⟩) := by
  obtain ⟨_ | computed, pending, received⟩ := client
  · cases pending with
    | nil => contradiction
    | cons operation rest =>
      cases operation with
      | act asked =>
        obtain rfl := Option.some.inj next
        refine .inr (.inl ⟨rest, rfl, fun answer => ?_⟩)
        -- Only a look-up that finds something gives the client anything.
        cases asked with
        | get path modified =>
          cases answer with
          | found found =>
            cases found with
            | none => exact .inl rfl
            | some value => exact .inr ⟨path, modified, value, rfl, rfl, rfl⟩
          | _ => exact .inl rfl
        | _ => exact .inl rfl
      | getOrCompute computed =>
        obtain rfl := Option.some.inj next
        refine .inr (.inr ⟨computed, rest, rfl, rfl, fun answer => ?_⟩)
        cases answer with
        | found found =>
          cases found with
          | none => exact .inl rfl
          | some value => exact .inr ⟨value, rfl, rfl⟩
        | _ => exact .inl rfl
  · exact .inl ⟨computed, rfl, (Option.some.inj next).symm, fun answer => rfl⟩

/-- What a client does next stores nothing but what is computed. -/
theorem Agrees.next (agrees : client.Agrees compute) (next : client.next? = some action) :
    (CacheOperation.act action).Computes compute := by
  obtain ⟨computed, storing, rfl, -⟩ | ⟨rest, pending, -⟩ | ⟨computed, rest, -, rfl, -⟩ :=
    next?_cases next
  · rintro _ ⟨⟩
    exact agrees.storing computed storing
  · exact agrees.pending _ (pending ▸ List.mem_cons_self)
  · nofun

/-- The client stays so if what is found is what is computed. -/
theorem Agrees.after (agrees : client.Agrees compute) (next : client.next? = some action)
    (found : ∀ path modified value, action = .get path modified → answer = .found (some value) →
      value = compute path.components modified) :
    (client.after answer).Agrees compute := by
  have more {finding : Finding α} (agree : finding.Agrees compute) :
      ∀ received ∈ client.received ++ [finding], received.Agrees compute := by
    intro received listed
    obtain old | new := List.mem_append.1 listed
    · exact agrees.received received old
    · exact List.mem_singleton.1 new ▸ agree
  obtain ⟨computed, storing, -, after⟩ | ⟨rest, pending, after⟩ |
    ⟨computed, rest, pending, get, after⟩ := next?_cases next
  · rw [after]
    exact ⟨nofun, agrees.pending, more (agrees.storing computed storing)⟩
  · have left : ∀ operation ∈ rest, operation.Computes compute := fun operation listed =>
      agrees.pending operation (pending ▸ List.mem_cons_of_mem _ listed)
    obtain same | ⟨path, modified, value, get, answered, same⟩ := after answer <;> rw [same]
    · exact ⟨nofun, left, agrees.received⟩
    · exact ⟨nofun, left, more (found path modified value get answered)⟩
  · have left : ∀ operation ∈ rest, operation.Computes compute := fun operation listed =>
      agrees.pending operation (pending ▸ List.mem_cons_of_mem _ listed)
    obtain same | ⟨value, answered, same⟩ := after answer <;> rw [same]
    · refine ⟨?_, left, agrees.received⟩
      rintro _ ⟨⟩
      exact agrees.pending _ (pending ▸ List.mem_cons_self) computed rfl
    · exact ⟨nofun, left, more (found _ _ value get answered)⟩

/-- A look-up is one that is no longer to be done. -/
theorem lookupsLeft_after (next : client.next? = some action) (answer : CacheAnswer α) :
    (client.after answer).lookupsLeft + action.looksUp.toNat = client.lookupsLeft := by
  obtain ⟨computed, -, rfl, after⟩ | ⟨rest, pending, after⟩ |
    ⟨computed, rest, pending, rfl, after⟩ := next?_cases next
  · rw [after]
    rfl
  · have left : (client.after answer).pending = rest := by
      obtain same | ⟨_, _, _, -, -, same⟩ := after answer <;> rw [same]
    rw [lookupsLeft, left, lookupsLeft, pending, List.countP_cons, CacheOperation.looksUp]
    cases action.looksUp <;> rfl
  · have left : (client.after answer).pending = rest := by
      obtain same | ⟨_, -, same⟩ := after answer <;> rw [same]
    rw [lookupsLeft, left, lookupsLeft, pending, List.countP_cons]
    rfl

/-- A client that has nothing more to do has nothing more to look up. -/
theorem lookupsLeft_of_idle (idle : client.next? = none) : client.lookupsLeft = 0 := by
  obtain ⟨_ | computed, pending, received⟩ := client
  · cases pending with
    | nil => rfl
    | cons operation rest => cases operation <;> contradiction
  · contradiction

/-- The number of turns that a client still has, at most. -/
def turnsLeft (client : CacheClient α) : Nat :=
  2 * client.pending.length + client.storing.isSome.toNat

/-- A client that does something has fewer turns left. -/
theorem turnsLeft_after_lt (next : client.next? = some action) (answer : CacheAnswer α) :
    (client.after answer).turnsLeft < client.turnsLeft := by
  obtain ⟨computed, storing, -, after⟩ | ⟨rest, pending, after⟩ |
    ⟨computed, rest, pending, -, after⟩ := next?_cases next
  · simp [turnsLeft, after, storing]
  · obtain same | ⟨_, _, _, -, -, same⟩ := after answer <;>
      simp [turnsLeft, same, pending] <;> omega
  · obtain same | ⟨_, -, same⟩ := after answer <;>
      simp [turnsLeft, same, pending] <;> omega

end CacheClient

/-! ### Turns -/

namespace SharedCache

variable {shared : SharedCache α} {room lookups stores : Nat}

/-- Whether a turn stores something under a path that has no entry. -/
def storesNew (shared : SharedCache α) (turn : CacheTurn α) : Bool :=
  match shared.clients[turn.client]?.bind CacheClient.next? with
  | none => false
  | some action => shared.cache.storesNew action

/-- How many of some turns store something under a path that has no entry by then. -/
def newStores (shared : SharedCache α) : List (CacheTurn α) → Nat
  | [] => 0
  | turn :: turns => (shared.storesNew turn).toNat + newStores (shared.step turn) turns

/-- In a turn nothing happens, or one client does its next action. -/
theorem step_cases (shared : SharedCache α) (turn : CacheTurn α) :
    (shared.step turn = shared ∧ shared.storesNew turn = false) ∨
    ∃ client action, shared.clients[turn.client]? = some client ∧ client.next? = some action ∧
      shared.storesNew turn = shared.cache.storesNew action ∧
      shared.step turn =
        ⟨(shared.cache.act turn.listing action).2,
          shared.clients.set turn.client
            (client.after (shared.cache.act turn.listing action).1)⟩ := by
  rw [step, storesNew]
  cases listed : shared.clients[turn.client]? with
  | none => exact .inl ⟨rfl, rfl⟩
  | some client =>
    dsimp only [Option.bind_some]
    cases next : client.next? with
    | none => exact .inl ⟨rfl, rfl⟩
    | some action => exact .inr ⟨client, action, rfl, next, rfl, rfl⟩

/-- What the cache keeps and the clients have is what is computed; every look-up is done or still to
be done, and counted if it is done. -/
structure Coherent (compute : List Component → Nat → α) (shared : SharedCache α)
    (room lookups stores : Nat) : Prop where
  proper : shared.cache.Proper room
  kept : shared.cache.Agrees compute
  clients : ∀ client ∈ shared.clients, client.Agrees compute
  tallied : ∃ done, done + (shared.clients.map CacheClient.lookupsLeft).sum = lookups ∧
    shared.cache.Tallied done stores

/-- A turn keeps clients and cache coherent. -/
theorem Coherent.step (coherent : shared.Coherent compute room lookups stores)
    (turn : CacheTurn α) :
    (shared.step turn).Coherent compute room lookups (stores + (shared.storesNew turn).toNat) := by
  obtain ⟨still, none⟩ | ⟨client, action, listed, next, new, same⟩ := shared.step_cases turn
  · rw [still, none]
    exact coherent
  obtain ⟨done, sum, tallied⟩ := coherent.tallied
  have agrees := coherent.clients client (List.mem_of_getElem? listed)
  rw [same, new]
  refine ⟨coherent.proper.act _ _, coherent.kept.act coherent.proper (agrees.next next), ?_,
    done + action.looksUp.toNat, ?_, tallied.act coherent.proper _ _⟩
  · intro other member
    obtain old | rfl := List.mem_or_eq_of_mem_set member
    · exact coherent.clients other old
    · refine agrees.after next fun path modified value get answer => ?_
      subst get
      exact coherent.kept.found (CacheAnswer.found.inj answer)
  · have moved := sum_map_set CacheClient.lookupsLeft listed
      (client.after (shared.cache.act turn.listing action).1)
    have once := CacheClient.lookupsLeft_after next (shared.cache.act turn.listing action).1
    dsimp only
    omega

/-- A run keeps clients and cache coherent. -/
theorem Coherent.run (coherent : shared.Coherent compute room lookups stores)
    (turns : List (CacheTurn α)) :
    (shared.run turns).Coherent compute room lookups (stores + shared.newStores turns) := by
  induction turns generalizing shared stores with
  | nil => exact coherent
  | cons turn turns ih =>
    rw [newStores, ← Nat.add_assoc]
    exact ih (coherent.step turn)

/-- Clients that have nothing more to do have nothing more to look up. -/
theorem lookupsLeft_of_isFinished (finished : shared.isFinished) :
    (shared.clients.map CacheClient.lookupsLeft).sum = 0 := by
  refine List.sum_eq_zero fun left listed => ?_
  obtain ⟨client, member, rfl⟩ := List.mem_map.1 listed
  have idle := List.all_eq_true.1 finished client member
  exact client.lookupsLeft_of_idle (Option.isNone_iff_eq_none.1 idle)

/-- A client that is not done does its next action. -/
theorem step_of_next {turn : CacheTurn α} {client : CacheClient α} {action : CacheAction α}
    (listed : shared.clients[turn.client]? = some client) (next : client.next? = some action) :
    shared.step turn =
      ⟨(shared.cache.act turn.listing action).2,
        shared.clients.set turn.client
          (client.after (shared.cache.act turn.listing action).1)⟩ := by
  rw [step, listed]
  dsimp only
  rw [next]

/-- Whatever was done, clients can go on until all have done what they were to do. -/
theorem exists_run_isFinished (shared : SharedCache α) :
    ∃ turns, (shared.run turns).isFinished := by
  induction left : (shared.clients.map CacheClient.turnsLeft).sum using Nat.strongRecOn
    generalizing shared with
  | ind left ih =>
    by_cases finished : shared.isFinished
    · exact ⟨[], finished⟩
    · obtain ⟨client, member, busy⟩ : ∃ client ∈ shared.clients, client.next? ≠ none := by
        simpa [isFinished, Option.isNone_iff_eq_none] using finished
      obtain ⟨index, listed⟩ := List.getElem?_of_mem member
      obtain ⟨action, next⟩ := Option.ne_none_iff_exists'.1 busy
      let turn : CacheTurn α := ⟨index, .asPut⟩
      let answer := (shared.cache.act turn.listing action).1
      have clients : (shared.step turn).clients = shared.clients.set index (client.after answer) :=
        congrArg SharedCache.clients (step_of_next listed next)
      have moved := sum_map_set CacheClient.turnsLeft listed (client.after answer)
      have fewer := CacheClient.turnsLeft_after_lt next answer
      rw [← clients] at moved
      obtain ⟨turns, done⟩ := ih _ (by omega) (shared.step turn) rfl
      exact ⟨turn :: turns, done⟩

/-- Clients that have done nothing are coherent with an empty cache. -/
theorem coherent_start (capacity : Nat) {programs : List (List (CacheOperation α))}
    (computes : ∀ program ∈ programs, ∀ operation ∈ program, operation.Computes compute) :
    (start (.ofCapacity capacity) programs).Coherent compute (max capacity 1)
      (programs.flatten.countP (·.looksUp)) 0 := by
  refine ⟨Cache.proper_ofCapacity capacity, nofun, ?_, 0, ?_, Cache.tallied_ofCapacity capacity⟩
  · intro client member
    obtain ⟨program, listed, rfl⟩ := List.mem_map.1 member
    exact ⟨nofun, computes program listed, nofun⟩
  · rw [Nat.zero_add, start, List.map_map, List.countP_flatten]
    rfl

/-- Clients of one cache take turns in any order. If what they store is what a computation finds out
from the path and the time, so is all that any of them receives, and there are never more entries
than there is room for. They can always go on until all have done what they were to do; then hits
and misses are the look-ups, and what is kept, what made way and what was dropped are the stores
under new paths. Counters that started over say so modulo their size. -/
theorem run_coherent (compute : List Component → Nat → α) (capacity : Nat)
    (programs : List (List (CacheOperation α))) (turns : List (CacheTurn α))
    (computes : ∀ program ∈ programs, ∀ operation ∈ program, ∀ finding,
      operation.finding? = some finding →
        finding.value = compute finding.path.components finding.modified) :
    let initial := start (.ofCapacity capacity) programs
    let shared := initial.run turns
    let lookups := programs.flatten.countP (·.looksUp)
    let stores := initial.newStores turns
    (∀ client ∈ shared.clients, ∀ finding ∈ client.received,
      finding.value = compute finding.path.components finding.modified) ∧
    shared.cache.size ≤ max capacity 1 ∧
    (∃ further, (shared.run further).isFinished) ∧
    (shared.isFinished →
      shared.cache.hits + shared.cache.misses = .ofNat lookups ∧
      .ofNat shared.cache.size + shared.cache.evictions + shared.cache.invalidations =
        .ofNat stores ∧
      (lookups < 2 ^ 64 → shared.cache.hits.toNat + shared.cache.misses.toNat = lookups) ∧
      (stores < 2 ^ 64 →
        shared.cache.size + shared.cache.evictions.toNat + shared.cache.invalidations.toNat =
          stores)) := by
  intro initial shared lookups stores
  have coherent := (coherent_start capacity computes).run turns
  rw [Nat.zero_add] at coherent
  obtain ⟨done, sum, tallied⟩ := coherent.tallied
  refine ⟨fun client member => (coherent.clients client member).received, coherent.proper.fits,
    shared.exists_run_isFinished, fun finished => ?_⟩
  rw [lookupsLeft_of_isFinished finished, Nat.add_zero] at sum
  subst sum
  exact ⟨tallied.lookups_eq, tallied.stores_eq, tallied.toNat_lookups, tallied.toNat_stores⟩

/-- Two clients look the same file up in turn and both find nothing; when the first has stored, a
third drops the entry, and the second stores again. The first then asks for an older time. -/
theorem run_coherent_between :
    let compute (_ : List Component) (modified : Nat) := 10 * modified
    let programs : List (List (CacheOperation Nat)) :=
      [[.getOrCompute ⟨⟨"a"⟩, 2, 20⟩, .getOrCompute ⟨⟨"a"⟩, 1, 10⟩],
        [.getOrCompute ⟨⟨"a/"⟩, 2, 20⟩], [.act (.invalidate ⟨"a"⟩)]]
    let turns := [0, 1, 0, 2, 1, 0, 0].map fun client => (⟨client, .asPut⟩ : CacheTurn Nat)
    let shared := (start (.ofCapacity 1) programs).run turns
    (∀ program ∈ programs, ∀ operation ∈ program, ∀ finding, operation.finding? = some finding →
      finding.value = compute finding.path.components finding.modified) ∧
    shared.isFinished ∧
    shared.cache.size + shared.cache.evictions.toNat + shared.cache.invalidations.toNat = 3 := by
  dsimp only
  have computes : ∀ program ∈ ([[.getOrCompute ⟨⟨"a"⟩, 2, 20⟩, .getOrCompute ⟨⟨"a"⟩, 1, 10⟩],
      [.getOrCompute ⟨⟨"a/"⟩, 2, 20⟩], [.act (.invalidate ⟨"a"⟩)]] :
        List (List (CacheOperation Nat))),
      ∀ operation ∈ program, ∀ finding, operation.finding? = some finding →
        finding.value = 10 * finding.modified := by
    simp [CacheOperation.finding?]
  have counted := (run_coherent (fun _ modified => 10 * modified) 1 _
    ([0, 1, 0, 2, 1, 0, 0].map fun client => ⟨client, .asPut⟩) computes).2.2.2
  refine ⟨computes, by cbv, ?_⟩
  rw [(counted (by cbv)).2.2.2 (by cbv)]
  cbv

end SharedCache
end Stencil
