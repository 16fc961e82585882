import Stencil.Proofs.Batch.Crew
import Stencil.Proofs.Batch.Numbering
/-!
# How far a batch comes

A batch that goes through its files one by one, or slice by slice, has done all of them unless one
of them ends it (`oneByOne_tells`, `slices_cases`). A crew that ends early has done the slices
before the one in which it ends, and of that one each worker has done the first files of its share.
-/

namespace Stencil

variable {σ α : Type} {work : Work σ α} {gives : Job → α → Prop} {ends : Job → Bool} {shared : σ}
  {files more : List Job} {progress : Progress σ α}

/-- These files have been done, each once, and the results are theirs in this order. -/
structure Progress.Tells (work : Work σ α) (gives : Job → α → Prop) (ends : Job → Bool) (shared : σ)
    (files : List Job) (progress : Progress σ α) : Prop where
  listed : progress.results.map Prod.fst = files
  results : ∀ result ∈ progress.results, gives result.1 result.2
  isStopped_iff : progress.isStopped ↔ ∃ job ∈ files, ends job
  shared : ∃ ran, ran.Perm files ∧ progress.shared = work.after shared ran

namespace Progress.Tells

/-- Before the first slice nothing is done. -/
theorem nil (work : Work σ α) (gives : Job → α → Prop) (ends : Job → Bool) (shared : σ) :
    ({ shared := shared } : Progress σ α).Tells work gives ends shared [] :=
  ⟨rfl, nofun, by simp, [], .nil, rfl⟩

/-- No file ends a batch that goes on. -/
theorem calm (tells : progress.Tells work gives ends shared files) (on : ¬progress.isStopped) :
    ∀ job ∈ files, ¬ends job :=
  fun job member fails => on (tells.isStopped_iff.2 ⟨job, member, fails⟩)

/-- Files are done, and then more files. -/
theorem append {later : Progress σ α} (tells : progress.Tells work gives ends shared files)
    (on : ¬progress.isStopped) (further : later.Tells work gives ends progress.shared more) :
    ({ later with results := progress.results ++ later.results } : Progress σ α).Tells work gives
      ends shared (files ++ more) := by
  obtain ⟨ran, perm, same⟩ := tells.shared
  obtain ⟨ranLater, permLater, sameLater⟩ := further.shared
  refine ⟨?_, fun result member => ?_, further.isStopped_iff.trans ?_, ran ++ ranLater,
    perm.append permLater, ?_⟩
  · rw [List.map_append, tells.listed, further.listed]
  · exact (List.mem_append.1 member).elim (tells.results result) (further.results result)
  · refine ⟨fun ⟨job, member, fails⟩ => ⟨job, List.mem_append_right _ member, fails⟩,
      fun ⟨job, member, fails⟩ => ⟨job, ?_, fails⟩⟩
    exact (List.mem_append.1 member).resolve_left fun early => tells.calm on job early fails
  · rw [Work.after_append, ← same, ← sameLater]

end Progress.Tells

namespace Schedule

/-- Files one by one are done up to one that ends the batch. -/
theorem oneByOne_tells (follows : work.Follows gives ends) (shared : σ) (files : List Job) :
    ∃ done, done <+: files ∧ (oneByOne work shared files).Tells work gives ends shared done ∧
      (¬(oneByOne work shared files).isStopped → done = files) := by
  induction files generalizing shared with
  | nil => exact ⟨[], List.prefix_rfl, .nil work gives ends shared, fun _ => rfl⟩
  | cons job files ih =>
    have given := follows.result shared job
    have ending := follows.ending given
    -- The progress of one file, after which the others come.
    have once : Progress.Tells work gives ends shared [job]
        ⟨[(job, (work.run shared job).1)], (work.run shared job).2,
          work.endsBatch (work.run shared job).1⟩ :=
      ⟨rfl, by simpa using given, by simpa using iff_of_eq (congrArg (· = true) ending), [job],
        .refl _, rfl⟩
    simp only [oneByOne]
    split
    next stops =>
      rw [stops] at once
      exact ⟨[job], List.prefix_append [job] files, once, fun on => absurd rfl on⟩
    next on =>
      obtain ⟨done, ahead, tells, all⟩ := ih (work.run shared job).2
      exact ⟨job :: done, (List.prefix_cons_inj job).2 ahead, once.append on tells,
        fun on => congrArg (job :: ·) (all on)⟩

/-- Of each share of a slice, the first files are done, and all unless one ends the batch. -/
theorem slice_tells (follows : work.Follows gives ends) (threads : Nat) (order : List Nat)
    (shared : σ) (first : Nat) (paths : List Path) :
    ∃ begun, List.Forall₂ (· <+: ·) begun (shares threads first paths) ∧
      (slice work threads order shared first paths).Tells work gives ends shared begun.flatten ∧
      (¬(slice work threads order shared first paths).isStopped →
        begun = shares threads first paths) := by
  let crew := (Crew.start shared (shares threads first paths)).run work order
  have sound : (crew.finish work).Sound work gives ends shared (shares threads first paths) := by
    obtain ⟨rest, same⟩ := crew.finish_eq_run work
    rw [same]
    exact ((Crew.sound_start work gives ends shared _).run follows order).run follows rest
  have finished := crew.isFinished_finish work
  exact ⟨_, sound.prefixes, ⟨Crew.map_fst_results _, sound.results, sound.isStopped_iff finished,
    sound.shared⟩, sound.files_eq finished⟩

/-- The slices before one are done without an end to the batch, and in that one each worker does the
first files of its share, one of which ends it. The first slice begins with the file of a number. -/
structure EndsIn (ends : Job → Bool) (threads size first : Nat) (paths : List Path)
    (before : List (List Path)) (slice : List Path) (begun : List (List Job)) : Prop where
  cut : ∃ after, parts size paths = before ++ slice :: after
  calm : ∀ job ∈ jobs first before.flatten, ¬ends job
  prefixes : List.Forall₂ (· <+: ·) begun (shares threads (first + before.length * size) slice)
  fails : ∃ job ∈ begun.flatten, ends job

/-- The files that are done when a crew ends in a slice. -/
def endedFiles (first : Nat) (before : List (List Path)) (begun : List (List Job)) : List Job :=
  jobs first before.flatten ++ begun.flatten

variable {threads size first : Nat} {paths slice : List Path} {before : List (List Path)}
  {begun : List (List Job)}

/-- The first things of some lists are among the things of the lists, in order. -/
theorem sublist_flatten {β : Type} {some all : List (List β)}
    (prefixes : List.Forall₂ (· <+: ·) some all) : some.flatten.Sublist all.flatten := by
  induction prefixes with
  | nil => exact .slnil
  | cons first _ ih => exact first.sublist.append ih

/-- A slice that is done comes before the others. -/
theorem EndsIn.cons (positive : 0 < size) (some : paths ≠ [])
    (calm : ∀ job ∈ jobs first (paths.take size), ¬ends job)
    (ended : EndsIn ends threads size (first + size) (paths.drop size) before slice begun) :
    EndsIn ends threads size first paths (paths.take size :: before) slice begun ∧
      endedFiles first (paths.take size :: before) begun =
        jobs first (paths.take size) ++ endedFiles (first + size) before begun := by
  obtain ⟨after, cut⟩ := ended.cut
  have full : (paths.take size).length = size := length_take_of_parts (by simp [cut])
  have whole : jobs first (paths.take size :: before).flatten =
      jobs first (paths.take size) ++ jobs (first + size) before.flatten := by
    rw [List.flatten_cons, jobs_append, full]
  refine ⟨⟨⟨after, ?_⟩, fun job member => ?_, ?_, ended.fails⟩, ?_⟩
  · rw [parts_of_ne_nil positive some, cut, List.cons_append]
  · rw [whole] at member
    exact (List.mem_append.1 member).elim (calm job) (ended.calm job)
  · rw [List.length_cons, Nat.succ_mul, Nat.add_comm (_ * _), ← Nat.add_assoc]
    exact ended.prefixes
  · rw [endedFiles, whole, List.append_assoc, endedFiles]

/-- What is done is part of the slices up to the one in which the batch ends, in order. -/
theorem EndsIn.sublist (ended : EndsIn ends threads size first paths before slice begun) :
    (endedFiles first before begun).Sublist (jobs first (before.flatten ++ slice)) := by
  obtain ⟨after, cut⟩ := ended.cut
  have part : begun.flatten.Sublist (jobs (first + before.length * size) slice) := by
    rw [← flatten_shares threads]
    exact sublist_flatten ended.prefixes
  rw [endedFiles, jobs_append, length_flatten_of_parts cut]
  exact part.append_left _

/-- The slices up to the one in which the batch ends are the first of the files. -/
theorem EndsIn.ahead (positive : 0 < size)
    (ended : EndsIn ends threads size first paths before slice begun) :
    before.flatten ++ slice <+: paths := by
  obtain ⟨after, cut⟩ := ended.cut
  refine ⟨after.flatten, ?_⟩
  rw [← flatten_parts positive paths, cut, List.flatten_append, List.flatten_cons,
    List.append_assoc]

/-- What is done is part of the files, in order. -/
theorem EndsIn.sublist_jobs (positive : 0 < size)
    (ended : EndsIn ends threads size first paths before slice begun) :
    (endedFiles first before begun).Sublist (jobs first paths) := by
  obtain ⟨rest, same⟩ := ended.ahead positive
  rw [← same, jobs_append]
  exact ended.sublist.trans (List.sublist_append_left _ _)

/-- A crew does all slices, or it ends in one of them. -/
theorem slices_cases (follows : work.Follows gives ends) (threads : Nat) (order : Nat → List Nat)
    (positive : 0 < size) (shared : σ) (index : Nat) (paths : List Path) :
    let progress := slices work threads order size shared index (parts size paths)
    (¬progress.isStopped ∧ progress.Tells work gives ends shared (jobs (index * size) paths)) ∨
    ∃ before slice begun, EndsIn ends threads size (index * size) paths before slice begun ∧
      progress.Tells work gives ends shared (endedFiles (index * size) before begun) := by
  fun_induction parts size paths generalizing shared index with
  | case1 paths none =>
    obtain rfl : paths = [] := by simpa [Nat.ne_of_gt positive] using none
    exact .inl ⟨Bool.false_ne_true, .nil work gives ends shared⟩
  | case2 paths some ih =>
    have some : paths ≠ [] := by simp_all
    obtain ⟨begun, prefixes, tells, all⟩ :=
      slice_tells follows threads (order index) shared (index * size) (paths.take size)
    simp only [slices]
    split
    next stopped =>
      refine .inr ⟨[], paths.take size, begun, ⟨⟨_, parts_of_ne_nil positive some⟩,
        fun job member => absurd member List.not_mem_nil, ?_, tells.isStopped_iff.1 stopped⟩, tells⟩
      simpa using prefixes
    next on =>
      rw [all on, flatten_shares] at tells
      have onward : (index + 1) * size = index * size + size := Nat.succ_mul index size
      obtain ⟨goesOn, rest⟩ | ⟨before, slice, begun, ended, rest⟩ := ih _ (index + 1) <;>
        rw [onward] at rest
      · refine .inl ⟨goesOn, ?_⟩
        rw [← jobs_take_drop size (index * size) paths]
        exact tells.append on rest
      · rw [onward] at ended
        obtain ⟨ended, done⟩ := ended.cons positive some (tells.calm on)
        refine .inr ⟨_, slice, begun, ended, ?_⟩
        rw [done]
        exact tells.append on rest

end Schedule
end Stencil
