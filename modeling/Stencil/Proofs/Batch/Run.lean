import Stencil.Batch.Run
import Stencil.Proofs.Batch.Slices
/-!
# What comes of a batch

A crew that does all files comes to the same results as one worker that takes them one by one
(`crew_eq_oneByOne`). A crew that is to end with the first file that cannot be checked ends in the
first slice with such a file, whatever turns its workers take (`crew_failFast`).
-/

namespace Stencil

/-! ### Results -/

/-- Picking things that keep a mark of what they were picked from keeps the order of the marks. -/
theorem map_filterMap_sublist {β γ δ : Type} {pick : β → Option γ} {mark : β → δ} {kept : γ → δ}
    (keeps : ∀ item picked, pick item = some picked → kept picked = mark item) (items : List β) :
    ((items.filterMap pick).map kept).Sublist (items.map mark) := by
  induction items with
  | nil => exact .slnil
  | cons item items ih =>
    rw [List.map_cons, List.filterMap_cons]
    cases picked : pick item with
    | none => exact ih.cons _
    | some result =>
      rw [List.map_cons, keeps item result picked]
      exact ih.cons_cons _

namespace BatchResults

/-- A file with what was found in it, if it was checked. -/
def success? (outcome : Job → FileOutcome) (job : Job) : Option (Path × CheckedTemplate) :=
  (outcome job).toOption.map (job.path, ·)

/-- A file with why it could not be checked. -/
def failure? (outcome : Job → FileOutcome) (job : Job) : Option (Path × CheckFault) :=
  match outcome job with
  | .ok _ => none
  | .error fault => some (job.path, fault)

/-- The results of files whose outcomes are known. -/
def ofFiles (discovered : Nat) (outcome : Job → FileOutcome) (files : List Job) : BatchResults :=
  ofOutcomes discovered (files.map fun job => (job.path, outcome job))

/-- Files are sorted by what came of them, in order, and counted. -/
theorem ofFiles_eq (discovered : Nat) (outcome : Job → FileOutcome) (files : List Job) :
    ofFiles discovered outcome files =
      ⟨files.filterMap (success? outcome), files.filterMap (failure? outcome), files.length,
        discovered⟩ := by
  have onward (results : BatchResults) :
      files.foldl (fun results job => results.add job.path (outcome job)) results =
        ⟨results.successes ++ files.filterMap (success? outcome),
          results.failures ++ files.filterMap (failure? outcome),
          results.processed + files.length, results.discovered⟩ := by
    induction files generalizing results with
    | nil => simp
    | cons job files ih =>
      rw [List.foldl_cons, ih, List.filterMap_cons, List.filterMap_cons, success?, failure?]
      cases outcome job <;> simp [add, Except.toOption, Nat.add_assoc, Nat.add_comm 1]
  rw [ofFiles, ofOutcomes, List.foldl_map, onward]
  simp

variable {discovered : Nat} {outcome : Job → FileOutcome} {files : List Job} {job : Job}

/-- A file that is checked is listed with what was found in it. -/
theorem mem_successes {checked : CheckedTemplate} (member : job ∈ files)
    (same : outcome job = .ok checked) :
    (job.path, checked) ∈ (ofFiles discovered outcome files).successes := by
  rw [ofFiles_eq]
  exact List.mem_filterMap.2 ⟨job, member, by rw [success?, same]; rfl⟩

/-- A file that cannot be checked is listed with the reason. -/
theorem mem_failures {fault : CheckFault} (member : job ∈ files)
    (same : outcome job = .error fault) :
    (job.path, fault) ∈ (ofFiles discovered outcome files).failures := by
  rw [ofFiles_eq]
  exact List.mem_filterMap.2 ⟨job, member, by rw [failure?, same]⟩

/-- Files that are checked are listed in order. -/
theorem successes_sublist (discovered : Nat) (outcome : Job → FileOutcome) (files : List Job) :
    ((ofFiles discovered outcome files).successes.map Prod.fst).Sublist (files.map Job.path) := by
  rw [ofFiles_eq]
  refine map_filterMap_sublist (fun job picked same => ?_) files
  obtain ⟨checked, -, rfl⟩ := Option.map_eq_some_iff.1 same
  rfl

/-- So are files that cannot be checked. -/
theorem failures_sublist (discovered : Nat) (outcome : Job → FileOutcome) (files : List Job) :
    ((ofFiles discovered outcome files).failures.map Prod.fst).Sublist (files.map Job.path) := by
  rw [ofFiles_eq]
  refine map_filterMap_sublist (fun job picked same => ?_) files
  rw [failure?] at same
  split at same
  · contradiction
  · obtain rfl := Option.some.inj same
    rfl

end BatchResults

/-! ### The work of a batch -/

namespace BatchSetup

variable {σ : Type} {batch : BatchSetup} {check : σ → Job → FileReport × σ}
  {outcome : Job → FileOutcome} {shared : σ} {order : Nat → List Nat} {paths : List Path}

/-- Whether the batch is to end with a file. -/
def endsWith (batch : BatchSetup) (outcome : Job → FileOutcome) (job : Job) : Bool :=
  batch.isFailFast && (outcome job).toOption.isNone

/-- Checks whose outcome is told by the file make a batch go by the files. -/
theorem work_follows (batch : BatchSetup)
    (told : ∀ shared job, (check shared job).1.outcome = outcome job) :
    (batch.work check).Follows (fun job report => report.outcome = outcome job)
      (batch.endsWith outcome) :=
  ⟨told, fun {job report} given => by simp only [work, endsWith, given]⟩

/-- A batch without a file that ends it does all files, in whatever way it takes them. -/
theorem workOn_tells (taking : Taking) (shared : σ) (order : Nat → List Nat)
    (told : ∀ shared job, (check shared job).1.outcome = outcome job)
    (calm : ∀ job ∈ Schedule.jobs 0 paths, ¬batch.endsWith outcome job) :
    (batch.workOn taking check shared order paths).Tells (batch.work check)
      (fun job report => report.outcome = outcome job) (batch.endsWith outcome) shared
      (Schedule.jobs 0 paths) := by
  have follows := batch.work_follows told
  cases taking with
  | oneByOne =>
    obtain ⟨done, ahead, tells, all⟩ :=
      Schedule.oneByOne_tells follows shared (Schedule.jobs 0 paths)
    have on : ¬(Schedule.oneByOne (batch.work check) shared (Schedule.jobs 0 paths)).isStopped := by
      rw [tells.isStopped_iff]
      exact fun ⟨job, member, fails⟩ => calm job (ahead.subset member) fails
    rw [all on] at tells
    exact tells
  | byCrew workers =>
    have positive := Schedule.sliceSize_pos paths.length workers
    obtain ⟨-, tells⟩ | ⟨before, slice, begun, ended, -⟩ :=
      Schedule.slices_cases follows workers order positive shared 0 paths
    · rw [Nat.zero_mul] at tells
      exact tells
    · obtain ⟨job, member, fails⟩ := ended.fails
      have listed := (ended.sublist_jobs positive).subset (List.mem_append_right _ member)
      rw [Nat.zero_mul] at listed
      exact absurd fails (calm job listed)

/-- The results of a batch are those of the files that were done. -/
theorem runOn_outcome (taking : Taking) {files : List Job} {ends : Job → Bool}
    {work : Work σ FileReport}
    (tells : (batch.workOn taking check shared order paths).Tells work
      (fun job report => report.outcome = outcome job) ends shared files) :
    (batch.runOn taking check shared order paths).outcome =
      .ok (.ofFiles paths.length outcome files) := by
  have same : (batch.workOn taking check shared order paths).results.map
      (fun result => (result.1.path, result.2.outcome)) =
        files.map fun job => (job.path, outcome job) := by
    rw [← tells.listed, List.map_map]
    exact List.map_congr_left fun result member => by
      rw [tells.results result member]
      rfl
  rw [runOn, BatchResults.ofFiles, same]

/-- No file ends a batch that is not to fail fast. -/
theorem endsWith_of_not_isFailFast (on : batch.isFailFast = false) (outcome : Job → FileOutcome)
    (job : Job) : ¬batch.endsWith outcome job := by
  rw [endsWith, on]
  nofun

/-- A batch that is to fail fast ends with a file that cannot be checked. -/
theorem endsWith_iff (failFast : batch.isFailFast = true) {job : Job} :
    batch.endsWith outcome job ↔ ∃ fault, outcome job = .error fault := by
  rw [endsWith, failFast]
  cases outcome job <;> simp [Except.toOption]

/-- It goes on after a file that can. -/
theorem not_endsWith_iff (failFast : batch.isFailFast = true) {job : Job} :
    ¬batch.endsWith outcome job ↔ ∃ checked, outcome job = .ok checked := by
  rw [endsWith, failFast]
  cases outcome job <;> simp [Except.toOption]

/-- However the workers of a crew take turns, a batch that is not to fail fast has each file checked
once under the number of its place: what is shared in the end came of one check for each. Its
results are those of one worker that takes the files one by one, on the same files and on the same
directory. -/
theorem crew_eq_oneByOne (batch : BatchSetup) (on : batch.isFailFast = false)
    (outcome : Job → FileOutcome) (told : ∀ shared job, (check shared job).1.outcome = outcome job)
    (shared : σ) (order : Nat → List Nat) (paths : List Path) :
    let crew := batch.runOn (.byCrew batch.workers) check shared order paths
    (∃ ran : List Job, ran.Perm (Schedule.jobs 0 paths) ∧
      crew.shared = ran.foldl (fun shared job => (check shared job).2) shared) ∧
    crew.outcome = .ok (.ofFiles paths.length outcome (Schedule.jobs 0 paths)) ∧
    crew.outcome = (batch.runOn .oneByOne check shared order paths).outcome ∧
    ∀ delimiters files directory,
      (batch.runBy (.byCrew batch.workers) delimiters files directory check shared order).outcome =
        (batch.runBy .oneByOne delimiters files directory check shared order).outcome := by
  intro crew
  have calm (paths : List Path) : ∀ job ∈ Schedule.jobs 0 paths, ¬batch.endsWith outcome job :=
    fun job _ => endsWith_of_not_isFailFast on outcome job
  have tells (taking : Taking) (paths : List Path) :=
    workOn_tells taking shared order told (calm paths)
  have same (paths : List Path) :
      (batch.runOn (.byCrew batch.workers) check shared order paths).outcome =
        (batch.runOn .oneByOne check shared order paths).outcome := by
    rw [runOn_outcome _ (tells _ paths), runOn_outcome _ (tells _ paths)]
  refine ⟨(tells (.byCrew batch.workers) paths).shared, runOn_outcome _ (tells _ paths), same paths,
    fun delimiters files directory => ?_⟩
  rw [runBy, runBy]
  cases delimiters.fault? with
  | some fault => rfl
  | none =>
    obtain ⟨found, events⟩ := batch.selection.discover files directory
    cases found with
    | error fault => rfl
    | ok paths => exact same paths

/-- Of two workers, the second takes its turns first: `b` is checked before `a`. -/
theorem crew_eq_oneByOne_out_of_turn :
    let outcome (job : Job) : FileOutcome := .error (.internal job.path.text)
    let check (ran : List Job) (job : Job) : FileReport × List Job :=
      (⟨outcome job, []⟩, ran ++ [job])
    let paths : List Path := [⟨"a"⟩, ⟨"b"⟩, ⟨"c"⟩]
    let batch : BatchSetup := { threads := 2 }
    let crew := batch.runOn (.byCrew batch.workers) check [] (fun _ => [1, 1, 0, 1, 0]) paths
    batch.isFailFast = false ∧
    (∀ shared job, (check shared job).1.outcome = outcome job) ∧
    crew.shared = [⟨1, ⟨"b"⟩⟩, ⟨0, ⟨"a"⟩⟩, ⟨2, ⟨"c"⟩⟩] ∧
    crew.outcome = (batch.runOn .oneByOne check [] (fun _ => [1, 1, 0, 1, 0]) paths).outcome := by
  intro outcome check paths batch crew
  have told : ∀ shared job, (check shared job).1.outcome = outcome job := fun _ _ => rfl
  refine ⟨rfl, told, ?_, (crew_eq_oneByOne batch rfl outcome told [] _ paths).2.2.1⟩
  dsimp only [crew, batch, check, outcome, paths]
  cbv

/-- How a crew ends in the first slice with a file that cannot be checked. -/
structure FailedIn (threads : Nat) (outcome : Job → FileOutcome) (paths : List Path)
    (before : List (List Path)) (slice : List Path) (begun : List (List Job))
    (results : BatchResults) : Prop where
  /-- The slice comes after those before it. -/
  cut : ∃ after,
    Schedule.parts (Schedule.sliceSize paths.length threads) paths = before ++ slice :: after
  /-- Each worker has done the first files of its share of the slice. -/
  prefixes : List.Forall₂ (· <+: ·) begun
    (Schedule.shares threads (before.length * Schedule.sliceSize paths.length threads) slice)
  /-- Nothing is done behind the slice, and all that is done is done in order. -/
  done : (Schedule.jobs 0 before.flatten ++ begun.flatten).Sublist
    (Schedule.jobs 0 (before.flatten ++ slice))
  /-- Nothing is done twice. -/
  once : (Schedule.jobs 0 before.flatten ++ begun.flatten).Nodup
  /-- The results are those of what is done. -/
  results_eq : results =
    .ofFiles paths.length outcome (Schedule.jobs 0 before.flatten ++ begun.flatten)
  /-- All files of the slices before are checked. -/
  checked : ∀ job ∈ Schedule.jobs 0 before.flatten, ∃ checked,
    outcome job = .ok checked ∧ (job.path, checked) ∈ results.successes
  /-- A file of the slice is listed as one that cannot be. -/
  failed : ∃ job ∈ begun.flatten, ∃ fault,
    outcome job = .error fault ∧ (job.path, fault) ∈ results.failures
  /-- Files are listed in the order of the batch, each for itself. -/
  successes : (results.successes.map Prod.fst).Sublist paths
  failures : (results.failures.map Prod.fst).Sublist paths

/-- A crew that ended in a slice has the results of what it has done. -/
theorem failedIn_of_endsIn (failFast : batch.isFailFast = true) {threads : Nat}
    {before : List (List Path)} {slice : List Path} {begun : List (List Job)}
    (ended : Schedule.EndsIn (batch.endsWith outcome) threads
      (Schedule.sliceSize paths.length threads) 0 paths before slice begun) :
    FailedIn threads outcome paths before slice begun
      (.ofFiles paths.length outcome (Schedule.endedFiles 0 before begun)) := by
  have done := ended.sublist_jobs (Schedule.sliceSize_pos paths.length threads)
  have inOrder : ((Schedule.endedFiles 0 before begun).map Job.path).Sublist paths := by
    rw [← Schedule.map_path_jobs 0 paths]
    exact done.map Job.path
  have prefixes := ended.prefixes
  rw [Nat.zero_add] at prefixes
  refine ⟨ended.cut, prefixes, ended.sublist,
    done.nodup (Schedule.nodup_jobs 0 paths), rfl, fun job member => ?_, ?_,
    (BatchResults.successes_sublist _ _ _).trans inOrder,
    (BatchResults.failures_sublist _ _ _).trans inOrder⟩
  · obtain ⟨checked, same⟩ := (not_endsWith_iff failFast).1 (ended.calm job member)
    exact ⟨checked, same, BatchResults.mem_successes (List.mem_append_left _ member) same⟩
  · obtain ⟨job, member, fails⟩ := ended.fails
    obtain ⟨fault, same⟩ := (endsWith_iff failFast).1 fails
    exact ⟨job, member, fault, same,
      BatchResults.mem_failures (List.mem_append_right _ member) same⟩

/-- However the workers of a crew take turns, a batch that is to fail fast has the results of one
that is not, if every file can be checked; otherwise it ends in the first slice with a file that
cannot. What is shared in the end came of one check for each file that was done, and of no other. -/
theorem crew_failFast (batch : BatchSetup) (failFast : batch.isFailFast = true)
    (outcome : Job → FileOutcome) (told : ∀ shared job, (check shared job).1.outcome = outcome job)
    (shared : σ) (order : Nat → List Nat) (paths : List Path) :
    let report := batch.runOn (.byCrew batch.workers) check shared order paths
    ((∀ job ∈ Schedule.jobs 0 paths, ∃ checked, outcome job = .ok checked) → ∀ turns,
      report.outcome = ({ batch with isFailFast := false }.runOn (.byCrew batch.workers) check
        shared turns paths).outcome) ∧
    ((∃ job ∈ Schedule.jobs 0 paths, ∃ fault, outcome job = .error fault) →
      ∃ before slice begun results, report.outcome = .ok results ∧
        FailedIn batch.workers outcome paths before slice begun results ∧
        ∃ ran : List Job, ran.Perm (Schedule.jobs 0 before.flatten ++ begun.flatten) ∧
          report.shared = ran.foldl (fun shared job => (check shared job).2) shared) := by
  refine ⟨fun all turns => ?_, fun ⟨job, member, fails⟩ => ?_⟩
  · have calm : ∀ job ∈ Schedule.jobs 0 paths, ¬batch.endsWith outcome job :=
      fun job member => (not_endsWith_iff failFast).2 (all job member)
    rw [runOn_outcome _ (workOn_tells _ shared order told calm), runOn_outcome _ (workOn_tells _
      shared turns told fun job _ => endsWith_of_not_isFailFast rfl outcome job)]
  · have positive := Schedule.sliceSize_pos paths.length batch.workers
    obtain ⟨on, tells⟩ | ⟨before, slice, begun, ended, tells⟩ :=
      Schedule.slices_cases (batch.work_follows told) batch.workers order positive shared 0 paths
    · rw [Nat.zero_mul] at tells
      exact absurd ((endsWith_iff failFast).2 fails) (tells.calm on job member)
    · rw [Nat.zero_mul] at ended tells
      exact ⟨before, slice, begun, _, runOn_outcome (.byCrew batch.workers) tells,
        failedIn_of_endsIn failFast ended, tells.shared⟩

/-- Two workers have done a slice of four files, and `e` of the next cannot be checked. By then `g`
of the other share is done, and `f` is left. -/
theorem crew_failFast_in_second_slice :
    let checked : CheckedTemplate := ⟨⟨"t"⟩, ⟨⟨"/t"⟩, 0, none, 0, 0, ""⟩, ⟨"", #[], #[], .template⟩,
      (⟨"", #[], #[], .template⟩ : TokenStream).parse, {}, none, false⟩
    let outcome (job : Job) : FileOutcome :=
      if job.id = 4 then .error (.internal "broken") else .ok checked
    let check (ran : List Nat) (job : Job) : FileReport × List Nat :=
      (⟨outcome job, []⟩, ran ++ [job.id])
    let paths : List Path := [⟨"a"⟩, ⟨"b"⟩, ⟨"c"⟩, ⟨"d"⟩, ⟨"e"⟩, ⟨"f"⟩, ⟨"g"⟩]
    let batch : BatchSetup := { threads := 2, isFailFast := true }
    let report := batch.runOn (.byCrew batch.workers) check [] (fun _ => [0, 1, 1, 0, 0, 0]) paths
    batch.isFailFast = true ∧
    (∀ shared job, (check shared job).1.outcome = outcome job) ∧
    (∃ job ∈ Schedule.jobs 0 paths, ∃ fault, outcome job = .error fault) ∧
    report.shared = [2, 0, 1, 3, 6, 4] ∧
    ∃ before slice begun results, report.outcome = .ok results ∧
      FailedIn batch.workers outcome paths before slice begun results := by
  intro checked outcome check paths batch report
  have told : ∀ shared job, (check shared job).1.outcome = outcome job := fun _ _ => rfl
  have fails : ∃ job ∈ Schedule.jobs 0 paths, ∃ fault, outcome job = .error fault :=
    ⟨⟨4, ⟨"e"⟩⟩, by simp [Schedule.jobs, paths], _, rfl⟩
  obtain ⟨before, slice, begun, results, same, ended, -⟩ :=
    (crew_failFast batch rfl outcome told [] (fun _ => [0, 1, 1, 0, 0, 0]) paths).2 fails
  refine ⟨rfl, told, fails, ?_, before, slice, begun, results, same, ended⟩
  dsimp only [report, batch, check, outcome, paths]
  cbv

end BatchSetup
end Stencil
