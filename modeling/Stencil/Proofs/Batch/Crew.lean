import Mathlib
import Stencil.Batch.Crew
/-!
# What a crew does with its shares

Workers look at the flag, work on files and raise the flag in any order. Whatever the order, each
worker has done the first files of its share, the flag tells of a file that ends the batch, and a
worker that went past such a file has raised it or is about to (`Crew.Sound`). Every step of a
worker leaves it fewer steps, so a crew comes to an end; by then either every share is done and no
file ends the batch, or some file that is done does.
-/

namespace Stencil

variable {σ α : Type} {work : Work σ α} {gives : Job → α → Prop} {ends : Job → Bool}
  {isStopped : Bool} {worker : Worker α} {share : List Job}

namespace Work

/-- What is known of the result of a file, and whether it ends the batch, is told by the file. -/
structure Follows (work : Work σ α) (gives : Job → α → Prop) (ends : Job → Bool) : Prop where
  result : ∀ shared job, gives job (work.run shared job).1
  ending : ∀ {job result}, gives job result → work.endsBatch result = ends job

/-- What is shared after each of some files was worked on once, in their order. -/
def after (work : Work σ α) (shared : σ) (files : List Job) : σ :=
  files.foldl (fun shared job => (work.run shared job).2) shared

/-- Work on more files goes on from what is shared after the first. -/
theorem after_append (work : Work σ α) (shared : σ) (files more : List Job) :
    work.after shared (files ++ more) = work.after (work.after shared files) more :=
  List.foldl_append

end Work

/-! ### One worker -/

namespace Worker

/-- The files a worker has done. -/
def files (worker : Worker α) : List Job := worker.done.map Prod.fst

/-- Where a worker is in its share, with a flag that is up or not. -/
structure In (gives : Job → α → Prop) (ends : Job → Bool) (isStopped : Bool) (worker : Worker α)
    (share : List Job) : Prop where
  files : worker.files ++ worker.pending = share
  results : ∀ result ∈ worker.done, gives result.1 result.2
  /-- A worker halts when it has done its share or sees the flag. -/
  halted : worker.phase = .halted → worker.pending = [] ∨ isStopped
  /-- A file that ends the batch does not go untold. -/
  raised : ∀ job ∈ worker.files, ends job → worker.phase = .failing ∨ isStopped
  failing : worker.phase = .failing → ∃ job ∈ worker.files, ends job

/-- A worker sees a flag that another has raised. -/
theorem In.raise {raised : Bool} (inside : worker.In gives ends isStopped share)
    (later : isStopped → raised) : worker.In gives ends raised share :=
  ⟨inside.files, inside.results, fun halted => (inside.halted halted).imp_right later,
    fun job done fails => (inside.raised job done fails).imp_right later, inside.failing⟩

/-- A worker halts, gets past looking at the flag, raises it, or works on its next file. -/
theorem step_cases (work : Work σ α) (shared : σ) (isStopped : Bool) (worker : Worker α) :
    (worker.phase ≠ .failing ∧ (worker.pending = [] ∨ worker.phase = .halted ∨ isStopped) ∧
      worker.step work shared isStopped = ({ worker with phase := .halted }, shared, isStopped)) ∨
    (worker.phase = .ready ∧
      worker.step work shared isStopped = ({ worker with phase := .cleared }, shared, isStopped)) ∨
    (worker.phase = .failing ∧
      worker.step work shared isStopped = ({ worker with phase := .ready }, shared, true)) ∨
    ∃ job rest, worker.phase = .cleared ∧ worker.pending = job :: rest ∧
      worker.step work shared isStopped =
        (⟨if work.endsBatch (work.run shared job).1 then .failing else .ready, rest,
            worker.done ++ [(job, (work.run shared job).1)]⟩,
          (work.run shared job).2, isStopped) := by
  obtain ⟨phase, pending, done⟩ := worker
  cases phase with
  | halted => exact .inl ⟨nofun, .inr (.inl rfl), rfl⟩
  | failing => exact .inr (.inr (.inl ⟨rfl, rfl⟩))
  | ready =>
    cases pending with
    | nil => exact .inl ⟨nofun, .inl rfl, rfl⟩
    | cons job rest =>
      cases isStopped with
      | true => exact .inl ⟨nofun, .inr (.inr rfl), rfl⟩
      | false => exact .inr (.inl ⟨rfl, rfl⟩)
  | cleared =>
    cases pending with
    | nil => exact .inl ⟨nofun, .inl rfl, rfl⟩
    | cons job rest => exact .inr (.inr (.inr ⟨job, rest, rfl, rfl, rfl⟩))

/-- A worker that has nothing to tell has told of every file that ends the batch. -/
theorem In.told (inside : worker.In gives ends isStopped share) (calm : worker.phase ≠ .failing) :
    ∀ job ∈ worker.files, ends job → isStopped :=
  fun job done fails => (inside.raised job done fails).resolve_left calm

/-- Another result is that of another file. -/
theorem files_append (worker : Worker α) (phase : WorkerPhase) (rest : List Job) (job : Job)
    (result : α) :
    (⟨phase, rest, worker.done ++ [(job, result)]⟩ : Worker α).files = worker.files ++ [job] := by
  rw [files, List.map_append]
  rfl

/-- A worker that did its next file is one file further in its share. -/
theorem In.further (follows : work.Follows gives ends)
    (inside : worker.In gives ends isStopped share) (shared : σ) {job : Job} {rest : List Job}
    (cleared : worker.phase = .cleared) (pending : worker.pending = job :: rest) :
    In gives ends isStopped
      ⟨if work.endsBatch (work.run shared job).1 then .failing else .ready, rest,
        worker.done ++ [(job, (work.run shared job).1)]⟩ share := by
  have given := follows.result shared job
  have ending := follows.ending given
  have calm : worker.phase ≠ .failing := by
    rw [cleared]
    nofun
  refine ⟨?_, fun result done => ?_, fun halted => ?_, fun other done fails => ?_,
    fun failing => ⟨job, ?_, ?_⟩⟩
  · rw [files_append, List.append_assoc, ← inside.files, pending]
    rfl
  · obtain old | rfl := (List.mem_append.1 done).imp_right List.mem_singleton.1
    · exact inside.results result old
    · exact given
  · split at halted <;> contradiction
  · rw [files_append] at done
    obtain old | rfl := (List.mem_append.1 done).imp_right List.mem_singleton.1
    · exact .inr (inside.told calm other old fails)
    · exact .inl (if_pos (ending.trans fails))
  · rw [files_append]
    exact List.mem_append_right _ List.mem_cons_self
  · rw [← ending]
    by_contra on
    exact absurd failing (by simp [on])

/-- A step leaves a worker where it is, or one file further. -/
theorem In.step (follows : work.Follows gives ends) (inside : worker.In gives ends isStopped share)
    (shared : σ) :
    (worker.step work shared isStopped).1.In gives ends (worker.step work shared isStopped).2.2
      share := by
  obtain ⟨calm, cause, same⟩ | ⟨ready, same⟩ | ⟨failing, same⟩ |
    ⟨job, rest, cleared, pending, same⟩ := worker.step_cases work shared isStopped <;> rw [same]
  · refine ⟨inside.files, inside.results, fun _ => ?_,
      fun job done fails => .inr (inside.told calm job done fails), nofun⟩
    obtain none | halted | stopped := cause
    · exact .inl none
    · exact inside.halted halted
    · exact .inr stopped
  · have calm : worker.phase ≠ .failing := by
      rw [ready]
      nofun
    exact ⟨inside.files, inside.results, nofun,
      fun job done fails => .inr (inside.told calm job done fails), nofun⟩
  · exact ⟨inside.files, inside.results, nofun, fun _ _ _ => .inr rfl, nofun⟩
  · exact inside.further follows shared cleared pending

/-- What is shared changes as the files do that a step adds. -/
theorem step_after (work : Work σ α) (shared : σ) (isStopped : Bool) (worker : Worker α) :
    ∃ more, (worker.step work shared isStopped).1.files = worker.files ++ more ∧
      (worker.step work shared isStopped).2.1 = work.after shared more := by
  obtain ⟨-, -, same⟩ | ⟨-, same⟩ | ⟨-, same⟩ | ⟨job, rest, -, -, same⟩ :=
    worker.step_cases work shared isStopped <;> rw [same]
  · exact ⟨[], (List.append_nil _).symm, rfl⟩
  · exact ⟨[], (List.append_nil _).symm, rfl⟩
  · exact ⟨[], (List.append_nil _).symm, rfl⟩
  · exact ⟨[job], worker.files_append _ _ _ _, rfl⟩

/-- A flag stays up, and is raised by a worker that has done a file that ends the batch. -/
theorem In.flag (inside : worker.In gives ends isStopped share) (work : Work σ α) (shared : σ) :
    (isStopped → (worker.step work shared isStopped).2.2) ∧
      ((worker.step work shared isStopped).2.2 → isStopped ∨ ∃ job ∈ worker.files, ends job) := by
  obtain ⟨-, -, same⟩ | ⟨-, same⟩ | ⟨failing, same⟩ | ⟨job, rest, -, -, same⟩ :=
    worker.step_cases work shared isStopped <;> rw [same]
  · exact ⟨id, .inl⟩
  · exact ⟨id, .inl⟩
  · exact ⟨fun _ => rfl, fun _ => .inr (inside.failing failing)⟩
  · exact ⟨id, .inl⟩

/-- A worker without steps has halted. -/
theorem stepsLeft_eq_zero : worker.stepsLeft = 0 ↔ worker.phase = .halted := by
  obtain ⟨_ | _ | _ | _, pending, done⟩ := worker <;> simp [stepsLeft]

/-- A step is one of those left. -/
theorem stepsLeft_step (work : Work σ α) (shared : σ) (isStopped : Bool) (worker : Worker α) :
    (worker.step work shared isStopped).1.stepsLeft ≤ worker.stepsLeft - 1 := by
  obtain ⟨-, -, same⟩ | ⟨ready, same⟩ | ⟨failing, same⟩ | ⟨job, rest, cleared, pending, same⟩ :=
    worker.step_cases work shared isStopped <;> rw [same]
  · exact Nat.zero_le _
  · simp only [stepsLeft, ready]
    omega
  · simp only [stepsLeft, failing]
    omega
  · simp only [stepsLeft, cleared, pending, List.length_cons]
    cases work.endsBatch (work.run shared job).1 <;> simp <;> omega

end Worker

/-! ### Some workers -/

/-- Two lists that go together item by item still do, more loosely, after an item is replaced. -/
theorem forall₂_set {β γ : Type} {related : β → γ → Prop} {items : List β} {others : List γ}
    {index : Nat} {old : β} (all : List.Forall₂ related items others)
    (listed : items[index]? = some old) :
    ∃ other, related old other ∧
      ∀ {looser : β → γ → Prop}, (∀ item other, related item other → looser item other) →
        ∀ new, looser new other → List.Forall₂ looser (items.set index new) others := by
  induction all generalizing index with
  | nil => contradiction
  | cons first rest ih =>
    cases index with
    | zero =>
      obtain rfl := Option.some.inj listed
      exact ⟨_, first, fun loosen new replaced => .cons replaced (rest.imp loosen)⟩
    | succ index =>
      obtain ⟨other, holds, replaced⟩ := ih listed
      exact ⟨other, holds, fun loosen new its => .cons (loosen _ _ first) (replaced loosen new its)⟩

/-- Adding to a part of a list of parts adds to what they are together. -/
theorem perm_flatMap_set {β γ : Type} (part : β → List γ) {items : List β} {index : Nat}
    {old new : β} (listed : items[index]? = some old) {more : List γ}
    (added : part new = part old ++ more) :
    ((items.set index new).flatMap part).Perm (items.flatMap part ++ more) := by
  induction items generalizing index with
  | nil => contradiction
  | cons first rest ih =>
    cases index with
    | zero =>
      obtain rfl := Option.some.inj listed
      rw [List.set_cons_zero, List.flatMap_cons, List.flatMap_cons, added, List.append_assoc,
        List.append_assoc]
      exact List.perm_append_comm.append_left _
    | succ index =>
      rw [List.set_cons_succ, List.flatMap_cons, List.flatMap_cons, List.append_assoc]
      exact (ih listed).append_left _

namespace Crew

variable {crew : Crew σ α} {shares : List (List Job)} {before : σ}

/-- The files that are done, worker by worker. -/
def files (crew : Crew σ α) : List Job := crew.workers.flatMap Worker.files

/-- The results are of the files that are done, in their order. -/
theorem map_fst_results (crew : Crew σ α) : crew.results.map Prod.fst = crew.files := by
  rw [results, List.map_flatMap]
  rfl

/-- Each worker is in its share, the flag tells of a file that is done, and what is shared came of
working on each file that is done once, in some order. -/
structure Sound (work : Work σ α) (gives : Job → α → Prop) (ends : Job → Bool) (before : σ)
    (shares : List (List Job)) (crew : Crew σ α) : Prop where
  workers : List.Forall₂ (Worker.In gives ends crew.isStopped) crew.workers shares
  stopped : crew.isStopped → ∃ job ∈ crew.files, ends job
  shared : ∃ ran, ran.Perm crew.files ∧ crew.shared = work.after before ran

/-- A crew that begins has done nothing. -/
theorem sound_start (work : Work σ α) (gives : Job → α → Prop) (ends : Job → Bool) (shared : σ)
    (shares : List (List Job)) : (start shared shares).Sound work gives ends shared shares := by
  have none : (start (α := α) shared shares).files = [] := by
    rw [files, start, List.flatMap_map, List.flatMap_eq_nil_iff]
    exact fun share _ => rfl
  refine ⟨?_, nofun, [], by rw [none], rfl⟩
  rw [start, List.forall₂_map_left_iff, List.forall₂_same]
  exact fun share _ => ⟨rfl, nofun, nofun, nofun, nofun⟩

/-- A turn of a worker keeps a crew sound. -/
theorem Sound.step (follows : work.Follows gives ends)
    (sound : crew.Sound work gives ends before shares) (index : Nat) :
    (crew.step work index).Sound work gives ends before shares := by
  rw [Crew.step]
  cases listed : crew.workers[index]? with
  | none => exact sound
  | some worker =>
    obtain ⟨share, inside, replaced⟩ := forall₂_set sound.workers listed
    obtain ⟨more, done, shared⟩ := worker.step_after work crew.shared crew.isStopped
    obtain ⟨stays, raised⟩ := inside.flag work crew.shared
    have files := perm_flatMap_set Worker.files listed done
    refine ⟨replaced (fun _ _ other => other.raise stays) _ (inside.step follows crew.shared),
      fun stopped => ?_, ?_⟩
    · obtain ⟨job, member, fails⟩ : ∃ job ∈ crew.files, ends job := by
        obtain already | ⟨job, member, fails⟩ := raised stopped
        · exact sound.stopped already
        · exact ⟨job, List.mem_flatMap_of_mem (List.mem_of_getElem? listed) member, fails⟩
      exact ⟨job, files.mem_iff.2 (List.mem_append_left _ member), fails⟩
    · obtain ⟨ran, perm, same⟩ := sound.shared
      refine ⟨ran ++ more, (perm.append_right more).trans files.symm, ?_⟩
      rw [Work.after_append, ← same]
      exact shared

/-- A run keeps a crew sound. -/
theorem Sound.run (follows : work.Follows gives ends)
    (sound : crew.Sound work gives ends before shares) (order : List Nat) :
    (crew.run work order).Sound work gives ends before shares := by
  induction order generalizing crew with
  | nil => exact sound
  | cons index order ih => exact ih (sound.step follows index)

/-! ### The end -/

/-- Finishing is taking steps in some order. -/
theorem finish_eq_run (work : Work σ α) (crew : Crew σ α) :
    ∃ order, crew.finish work = crew.run work order := by
  rw [finish]
  generalize List.range crew.workers.length = indices
  induction indices generalizing crew with
  | nil => exact ⟨[], rfl⟩
  | cons index indices ih =>
    obtain ⟨order, same⟩ := ih (crew.finishWorker work index)
    refine ⟨List.replicate (crew.stepsLeft index) index ++ order, ?_⟩
    rw [List.foldl_cons, same, finishWorker, run, run, run, List.foldl_append]

/-- A step takes one from the steps that its worker has left, and none from the others. -/
theorem stepsLeft_step (work : Work σ α) (crew : Crew σ α) (index other : Nat) :
    (crew.step work index).stepsLeft other ≤
      crew.stepsLeft other - if index = other then 1 else 0 := by
  rw [step]
  cases listed : crew.workers[index]? with
  | none =>
    by_cases same : index = other
    · subst same
      simp [stepsLeft, listed]
    · simp [same]
  | some worker =>
    by_cases same : index = other
    · subst same
      obtain ⟨inside, -⟩ := List.getElem?_eq_some_iff.1 listed
      have left := worker.stepsLeft_step work crew.shared crew.isStopped
      simpa only [stepsLeft, listed, List.getElem?_set_self inside, if_true, Option.map_some,
        Option.getD_some] using left
    · simp [stepsLeft, List.getElem?_set_ne same, same]

/-- Whatever the order, each worker has fewer steps left by those it took. -/
theorem stepsLeft_run (work : Work σ α) (crew : Crew σ α) (order : List Nat) (index : Nat) :
    (crew.run work order).stepsLeft index ≤ crew.stepsLeft index - order.count index := by
  induction order generalizing crew with
  | nil => exact Nat.le_refl _
  | cons first order ih =>
    have rest := ih (crew.step work first)
    have once := crew.stepsLeft_step work first index
    rw [List.count_cons]
    simp only [beq_iff_eq]
    change ((crew.step work first).run work order).stepsLeft index ≤ _
    omega

/-- Workers that finish leave the others no more steps than they have. -/
theorem stepsLeft_foldl_finishWorker (work : Work σ α) (crew : Crew σ α) (indices : List Nat)
    (index : Nat) :
    (indices.foldl (finishWorker work) crew).stepsLeft index ≤ crew.stepsLeft index := by
  induction indices generalizing crew with
  | nil => exact Nat.le_refl _
  | cons first indices ih =>
    have now := crew.stepsLeft_run work (List.replicate (crew.stepsLeft first) first) index
    exact Nat.le_trans (ih _) (Nat.le_trans now (Nat.sub_le _ _))

/-- A crew that finishes leaves no steps. -/
theorem stepsLeft_finish (work : Work σ α) (crew : Crew σ α) (index : Nat) :
    (crew.finish work).stepsLeft index = 0 := by
  have taken (indices : List Nat) (crew : Crew σ α) (member : index ∈ indices) :
      (indices.foldl (finishWorker work) crew).stepsLeft index = 0 := by
    induction indices generalizing crew with
    | nil => contradiction
    | cons first indices ih =>
      obtain rfl | member := List.mem_cons.1 member
      · have none := crew.stepsLeft_run work (List.replicate (crew.stepsLeft index) index) index
        rw [List.count_replicate_self, Nat.sub_self] at none
        exact Nat.le_zero.1 (Nat.le_trans (stepsLeft_foldl_finishWorker work _ indices index) none)
      · exact ih _ member
  obtain inside | outside := Nat.lt_or_ge index crew.workers.length
  · exact taken _ crew (List.mem_range.2 inside)
  · have none : crew.stepsLeft index = 0 := by
      rw [stepsLeft, List.getElem?_eq_none outside]
      rfl
    exact Nat.le_zero.1 (none ▸ stepsLeft_foldl_finishWorker work crew _ index)

/-- A crew that finishes is finished: nobody goes on for ever. -/
theorem isFinished_finish (work : Work σ α) (crew : Crew σ α) : (crew.finish work).isFinished := by
  refine List.all_eq_true.2 fun worker member => ?_
  obtain ⟨index, listed⟩ := List.getElem?_of_mem member
  have left := stepsLeft_finish work crew index
  rw [stepsLeft, listed] at left
  exact decide_eq_true (Worker.stepsLeft_eq_zero.1 left)

/-- Each worker has done the first files of its share. -/
theorem Sound.prefixes (sound : crew.Sound work gives ends before shares) :
    List.Forall₂ (· <+: ·) (crew.workers.map Worker.files) shares :=
  List.forall₂_map_left_iff.2
    (sound.workers.imp fun worker _ inside => ⟨worker.pending, inside.files⟩)

/-- Each worker is in a share. -/
theorem Sound.in_share (sound : crew.Sound work gives ends before shares)
    (listed : worker ∈ crew.workers) : ∃ share, worker.In gives ends crew.isStopped share := by
  obtain ⟨index, place⟩ := List.getElem?_of_mem listed
  obtain ⟨share, inside, -⟩ := forall₂_set sound.workers place
  exact ⟨share, inside⟩

/-- The results are those of the files that are done. -/
theorem Sound.results (sound : crew.Sound work gives ends before shares) :
    ∀ result ∈ crew.results, gives result.1 result.2 := by
  intro result member
  obtain ⟨worker, listed, done⟩ := List.mem_flatMap.1 member
  obtain ⟨share, inside⟩ := sound.in_share listed
  exact inside.results result done

/-- Nobody in a finished crew has anything to do. -/
theorem phase_of_isFinished (finished : crew.isFinished) :
    ∀ worker ∈ crew.workers, worker.phase = .halted :=
  fun worker listed => of_decide_eq_true (List.all_eq_true.1 finished worker listed)

/-- When a crew is finished, the flag tells whether a file that is done ends the batch. -/
theorem Sound.isStopped_iff (sound : crew.Sound work gives ends before shares)
    (finished : crew.isFinished) : crew.isStopped ↔ ∃ job ∈ crew.files, ends job := by
  refine ⟨sound.stopped, fun ⟨job, member, fails⟩ => ?_⟩
  obtain ⟨worker, listed, done⟩ := List.mem_flatMap.1 member
  obtain ⟨share, inside⟩ := sound.in_share listed
  refine inside.told ?_ job done fails
  rw [phase_of_isFinished finished worker listed]
  nofun

/-- A finished crew whose flag is down has done all its shares. -/
theorem Sound.files_eq (sound : crew.Sound work gives ends before shares)
    (finished : crew.isFinished) (calm : ¬crew.isStopped) :
    crew.workers.map Worker.files = shares := by
  have halted := phase_of_isFinished finished
  rw [← List.forall₂_eq_eq_eq, List.forall₂_map_left_iff]
  refine ((List.forall₂_and_left _ _).2 ⟨halted, sound.workers⟩).imp fun worker share both => ?_
  have none := (both.2.halted both.1).resolve_right calm
  rw [← both.2.files, none, List.append_nil]

end Crew
end Stencil
