import Stencil.Console.Run
import Stencil.Proofs.Batch.Run
/-!
# The exit status

The status of a run on a directory says whether anything is wrong with its files, and nothing else.
A batch that ends early has done a file that cannot be checked, so what it leaves out does not
change whether all files are clean (`runOn_isClean`). The options that say how files are worked on
and how results are shown leave alone which files these are (`target_readAll`).
-/

namespace Stencil

/-! ### Verdicts -/

/-- Whether anything is wrong with a file that was checked, and nothing for one that was not. -/
def FileOutcome.verdict (outcome : FileOutcome) : Option Bool :=
  outcome.toOption.map CheckedTemplate.hasDiagnostics

/-- A file is clean if it was checked and nothing is wrong with it. -/
def FileOutcome.Clean (outcome : FileOutcome) : Prop :=
  ∃ checked, outcome = .ok checked ∧ checked.hasDiagnostics = false

namespace FileOutcome

/-- The verdict tells the clean files. -/
theorem clean_iff (outcome : FileOutcome) : Clean outcome ↔ verdict outcome = some false := by
  cases outcome with
  | ok checked => simp [Clean, verdict, Except.toOption]
  | error fault => simp [Clean, verdict, Except.toOption]

/-- The verdict tells the files that cannot be checked. -/
theorem isNone_toOption (outcome : FileOutcome) :
    outcome.toOption.isNone = (verdict outcome).isNone := by
  rw [verdict, Option.isNone_map]

end FileOutcome

namespace BatchResults

/-- In clean results no file failed and nothing is wrong with any other. -/
theorem isClean_iff (results : BatchResults) : results.isClean ↔
    results.failures = [] ∧ ∀ success ∈ results.successes, success.2.hasDiagnostics = false := by
  rw [isClean, Bool.and_eq_true, decide_eq_true_eq, decide_eq_true_eq, failureCount,
    List.length_eq_zero_iff, withDiagnostics, List.countP_eq_zero]
  simp only [Bool.not_eq_true]

/-- Results stay clean with a clean file and with no other. -/
theorem isClean_add (results : BatchResults) (path : Path) (outcome : FileOutcome) :
    (results.add path outcome).isClean ↔ results.isClean ∧ FileOutcome.Clean outcome := by
  rw [isClean_iff, isClean_iff]
  cases outcome with
  | ok checked => simp [add, FileOutcome.Clean, or_imp, forall_and, and_assoc]
  | error fault => simp [add, FileOutcome.Clean]

/-- Results are clean if all files are. -/
theorem isClean_ofOutcomes (discovered : Nat) (outcomes : List (Path × FileOutcome)) :
    (ofOutcomes discovered outcomes).isClean ↔
      ∀ outcome ∈ outcomes, FileOutcome.Clean outcome.2 := by
  have onward (results : BatchResults) :
      (outcomes.foldl (fun results outcome => results.add outcome.1 outcome.2) results).isClean ↔
        results.isClean ∧ ∀ outcome ∈ outcomes, FileOutcome.Clean outcome.2 := by
    induction outcomes generalizing results with
    | nil => simp
    | cons outcome outcomes ih =>
      rw [List.foldl_cons, ih, isClean_add, List.forall_mem_cons, and_assoc]
  rw [ofOutcomes, onward]
  exact and_iff_right rfl

end BatchResults

/-! ### Batches -/

namespace BatchSetup

variable {σ : Type} {batch : BatchSetup} {check : σ → Job → FileReport × σ}
  {outcome : Job → FileOutcome}

/-- A batch does all files, or it does some of them and one of these ends it. -/
theorem workOn_cases {gives : Job → FileReport → Prop} {ends : Job → Bool}
    (follows : (batch.work check).Follows gives ends) (taking : Taking) (shared : σ)
    (order : Nat → List Nat) (paths : List Path) :
    ∃ done, (batch.workOn taking check shared order paths).Tells (batch.work check) gives ends
        shared done ∧ done ⊆ Schedule.jobs 0 paths ∧
      (done = Schedule.jobs 0 paths ∨ ∃ job ∈ done, ends job) := by
  cases taking with
  | oneByOne =>
    obtain ⟨done, ahead, tells, all⟩ :=
      Schedule.oneByOne_tells follows shared (Schedule.jobs 0 paths)
    refine ⟨done, tells, ahead.subset, ?_⟩
    by_cases stopped :
        (Schedule.oneByOne (batch.work check) shared (Schedule.jobs 0 paths)).isStopped
    · exact .inr (tells.isStopped_iff.1 stopped)
    · exact .inl (all stopped)
  | byCrew workers =>
    have positive := Schedule.sliceSize_pos paths.length workers
    obtain ⟨-, tells⟩ | ⟨before, slice, begun, ended, tells⟩ :=
      Schedule.slices_cases follows workers order positive shared 0 paths
    · rw [Nat.zero_mul] at tells
      exact ⟨_, tells, List.Subset.refl _, .inl rfl⟩
    · rw [Nat.zero_mul] at ended tells
      obtain ⟨job, member, fails⟩ := ended.fails
      exact ⟨_, tells, (ended.sublist_jobs positive).subset,
        .inr ⟨job, List.mem_append_right _ member, fails⟩⟩

/-- Checks whose verdict is told by the file make a batch go by the files. -/
theorem work_follows_verdict (batch : BatchSetup) (told : ∀ shared job,
      FileOutcome.verdict (check shared job).1.outcome = FileOutcome.verdict (outcome job)) :
    (batch.work check).Follows
      (fun job report => FileOutcome.verdict report.outcome = FileOutcome.verdict (outcome job))
      (batch.endsWith outcome) :=
  ⟨told, fun {job report} given => by
    simp only [work, endsWith, FileOutcome.isNone_toOption, given]⟩

/-- The results of a batch are clean if all its files are, those it has left out included. -/
theorem runOn_isClean (batch : BatchSetup) (told : ∀ shared job,
      FileOutcome.verdict (check shared job).1.outcome = FileOutcome.verdict (outcome job))
    (taking : Taking) (shared : σ) (order : Nat → List Nat) (paths : List Path) :
    ∃ results, (batch.runOn taking check shared order paths).outcome = .ok results ∧
      (results.isClean ↔ ∀ job ∈ Schedule.jobs 0 paths, FileOutcome.Clean (outcome job)) := by
  obtain ⟨done, tells, within, all⟩ :=
    workOn_cases (batch.work_follows_verdict told) taking shared order paths
  have cleanDone : (∀ result ∈ (batch.workOn taking check shared order paths).results,
      FileOutcome.Clean result.2.outcome) ↔ ∀ job ∈ done, FileOutcome.Clean (outcome job) := by
    rw [← tells.listed, List.forall_mem_map]
    refine forall₂_congr fun result member => ?_
    rw [FileOutcome.clean_iff, FileOutcome.clean_iff, tells.results result member]
  refine ⟨_, rfl, ?_⟩
  rw [BatchResults.isClean_ofOutcomes, List.forall_mem_map, cleanDone]
  refine ⟨fun clean => ?_, fun clean job member => clean job (within member)⟩
  rcases all with rfl | ⟨job, member, fails⟩
  · exact clean
  · -- A file that ends the batch cannot be checked, so it is not clean.
    obtain ⟨checked, same, -⟩ := clean job member
    rw [endsWith, same] at fails
    simp [Except.toOption] at fails

/-- The delimiters can be used, the files of the batch are found, and all of them are clean. -/
structure AllClean (delimiters : Delimiters) (selection : Selection) (files : FileSystem)
    (directory : Path) (outcome : Job → FileOutcome) : Prop where
  valid : delimiters.isValid = true
  found : ∃ paths, (selection.discover files directory).1 = .ok paths ∧
    ∀ job ∈ Schedule.jobs 0 paths, FileOutcome.Clean (outcome job)

/-- The status of a batch is zero if all its files are clean, in whatever way it takes them. -/
theorem batchStatus_run_eq_zero_iff (batch : BatchSetup) (delimiters : Delimiters)
    (files : FileSystem) (directory : Path) (told : ∀ shared job,
      FileOutcome.verdict (check shared job).1.outcome = FileOutcome.verdict (outcome job))
    (shared : σ) (order : Nat → List Nat) :
    Command.batchStatus (batch.run delimiters files directory check shared order).outcome = 0 ↔
      AllClean delimiters batch.selection files directory outcome := by
  rw [run, runBy]
  cases fault : delimiters.fault? with
  | some fault =>
    refine iff_of_false Nat.one_ne_zero fun clean => ?_
    have valid := clean.valid
    rw [Delimiters.isValid, fault] at valid
    contradiction
  | none =>
    have valid : delimiters.isValid = true := by rw [Delimiters.isValid, fault]; rfl
    cases discovered : batch.selection.discover files directory with
    | mk found events =>
    cases found with
    | error fault =>
      refine iff_of_false Nat.one_ne_zero fun clean => ?_
      obtain ⟨paths, same, -⟩ := clean.found
      rw [discovered] at same
      contradiction
    | ok paths =>
      obtain ⟨results, ended, clean⟩ := batch.runOn_isClean told batch.taking shared order paths
      simp only [ended, Command.batchStatus, Command.statusOf, ite_eq_left_iff, Nat.one_ne_zero,
        imp_false, not_not]
      rw [clean]
      refine ⟨fun all => ⟨valid, paths, by rw [discovered], all⟩, fun all => ?_⟩
      obtain ⟨others, same, clean⟩ := all.found
      rw [discovered] at same
      obtain rfl : paths = others := Except.ok.inj same
      exact clean

end BatchSetup

/-! ### Options -/

namespace CommandOptions

/-- What is checked: the file the delimiters come from, and the selection of files. -/
def target (options : CommandOptions) : Option Path × Selection :=
  (options.settings, options.batch.selection)

/-- The options that stand alone and say how files are worked on or how results are shown. -/
def manners : List String :=
  ["--tokens", "--tree", "--facts", "--json", "--sequential", "--fail-fast", "--quiet"]

/-- Arguments without the options that say how files are worked on or how results are shown. -/
def essentials : List String → List String
  | [] => []
  | "--config" :: path :: rest => "--config" :: path :: essentials rest
  | "--threads" :: _ :: rest => essentials rest
  | "--max-files" :: count :: rest => "--max-files" :: count :: essentials rest
  | flag :: rest =>
    if flag = "--threads" ∨ flag ∈ manners then essentials rest else flag :: essentials rest

variable {options other : CommandOptions}

/-- Options of one target have one target after an option that stands alone. -/
theorem target_readFlag (alike : options.target = other.target) (flag : String) :
    (options.readFlag flag).1.target = (other.readFlag flag).1.target := by
  rw [target, target, Prod.mk.injEq] at alike
  obtain ⟨settings, selection⟩ := alike
  unfold readFlag
  split <;> simp [target, setThreads, select, settings, selection]

/-- An option on how files are worked on or results are shown leaves the target. -/
theorem target_readFlag_of_manner {flag : String} (manner : flag = "--threads" ∨ flag ∈ manners) :
    (options.readFlag flag).1.target = options.target := by
  simp only [manners, List.mem_cons, List.not_mem_nil, or_false] at manner
  rcases manner with rfl | rfl | rfl | rfl | rfl | rfl | rfl | rfl <;> rfl

/-- To read the number of threads leaves the target as it is. -/
theorem target_readThreads (options : CommandOptions) (text : String) :
    (options.readThreads text).1.target = options.target := by
  unfold readThreads
  split <;> rfl

/-- To read the number of files leaves targets alike. -/
theorem target_readMaxFiles (alike : options.target = other.target) (text : String) :
    (options.readMaxFiles text).1.target = (other.readMaxFiles text).1.target := by
  rw [target, target, Prod.mk.injEq] at alike
  obtain ⟨settings, selection⟩ := alike
  unfold readMaxFiles
  split <;> simp [target, select, settings, selection]

/-- An option that takes no argument, or finds none after it, is read alone. -/
theorem readAll_lone {flag : String} {rest : List String} (alone : rest ≠ [] →
      flag ≠ "--config" ∧ flag ≠ "--threads" ∧ flag ≠ "--max-files") :
    (readAll options (flag :: rest)).1 = (readAll (options.readFlag flag).1 rest).1 := by
  rw [readAll]
  · rintro path later rfl rfl
    exact (alone (List.cons_ne_nil _ _)).1 rfl
  · rintro count later rfl rfl
    exact (alone (List.cons_ne_nil _ _)).2.1 rfl
  · rintro count later rfl rfl
    exact (alone (List.cons_ne_nil _ _)).2.2 rfl

/-- The target of arguments is that of their essentials. -/
theorem target_readAll (alike : options.target = other.target) (arguments : List String) :
    (readAll options arguments).1.target = (readAll other (essentials arguments)).1.target := by
  have alone {flag : String} {rest : List String}
      (notConfig : ∀ next later, flag = "--config" → rest = next :: later → False)
      (notThreads : ∀ next later, flag = "--threads" → rest = next :: later → False)
      (notMax : ∀ next later, flag = "--max-files" → rest = next :: later → False)
      (more : rest ≠ []) : flag ≠ "--config" ∧ flag ≠ "--threads" ∧ flag ≠ "--max-files" := by
    obtain ⟨next, later, same⟩ := List.exists_cons_of_ne_nil more
    exact ⟨fun named => notConfig next later named same,
      fun named => notThreads next later named same, fun named => notMax next later named same⟩
  fun_induction essentials arguments generalizing options other with
  | case1 => exact alike
  | case2 path rest ih =>
    rw [readAll, readAll]
    apply ih
    rw [target, target, Prod.mk.injEq] at alike ⊢
    exact ⟨rfl, alike.2⟩
  | case3 count rest ih =>
    rw [readAll]
    exact ih ((options.target_readThreads count).trans alike)
  | case4 count rest ih =>
    rw [readAll, readAll]
    exact ih (target_readMaxFiles alike count)
  | case5 flag rest notConfig notThreads notMax manner ih =>
    rw [readAll_lone (alone notConfig notThreads notMax)]
    exact ih ((target_readFlag_of_manner manner).trans alike)
  | case6 flag rest notConfig notThreads notMax essential ih =>
    have lone := alone notConfig notThreads notMax
    rw [readAll_lone lone, readAll_lone fun more => lone fun none => more (by rw [none]; rfl)]
    exact ih (target_readFlag alike flag)

/-- Arguments of the same essentials have one target. -/
theorem target_ofArguments {left right : List String}
    (alike : essentials left = essentials right) :
    (ofArguments left).1.target = (ofArguments right).1.target := by
  have read (arguments : List String) :
      (ofArguments arguments).1.target = (readAll {} (essentials arguments)).1.target := by
    rw [← target_readAll rfl, ofArguments]
    split
    next options warnings same =>
      rw [same]
      split <;> rfl
  rw [read, read, alike]

end CommandOptions

/-! ### The status of a run -/

namespace CheckSetup

/-- What comes of checking a file without a cache. -/
def outcome (setup : CheckSetup) (files : FileSystem) (job : Job) : FileOutcome :=
  (setup.check files job.path none).outcome

/-- A cache changes no verdict. -/
theorem verdict_checkJob (setup : CheckSetup) (files : FileSystem) (cache : FactsCache)
    (job : Job) : FileOutcome.verdict (setup.checkJob files cache job).1.outcome =
      FileOutcome.verdict (setup.outcome files job) := by
  have stream (path : Path) (file : TemplateFile) (stream : TokenStream)
      (metrics : LexicalMetrics) (cache : FactsCache) :
      FileOutcome.verdict (setup.checkStream path file stream metrics cache).outcome =
        some stream.parse.hasDiagnostics := by
    rw [checkStream]
    split <;> rfl
  rw [checkJob, outcome, check, check]
  cases setup.delimiters.fault? with
  | some fault => rfl
  | none =>
    dsimp only
    cases (ReadingReport.ofPath setup.preferences.reading files job.path).outcome with
    | error fault => rfl
    | ok file =>
      dsimp only
      rw [checkFile, checkFile]
      dsimp only
      cases (LexicalReport.ofSource file.source setup.delimiters
          setup.preferences.lexing).outcome with
      | error fault => rfl
      | ok read =>
        dsimp only
        rw [stream, stream]

end CheckSetup

namespace Command

/-- There are two statuses, so that one is told by whether it is zero. -/
theorem batchStatus_congr {outcome other : Except BatchFault BatchResults}
    (alike : batchStatus outcome = 0 ↔ batchStatus other = 0) :
    batchStatus outcome = batchStatus other := by
  have two (outcome : Except BatchFault BatchResults) :
      batchStatus outcome = 0 ∨ batchStatus outcome = 1 := by
    cases outcome with
    | error fault => exact .inr rfl
    | ok results =>
      rw [batchStatus, statusOf]
      split
      · exact .inl rfl
      · exact .inr rfl
  have first := two outcome
  have second := two other
  omega

variable {surroundings : Surroundings} {options other : CommandOptions}

/-- The status of a run on a file or on a directory is told by the target of the options. -/
theorem status_runInput (alike : options.target = other.target) (input : Path)
    (delimiters : Delimiters) (session again : Session) (order turns : Nat → List Nat) :
    (runInput surroundings input options delimiters session order).status =
      (runInput surroundings input other delimiters again turns).status := by
  have selection : options.batch.selection = other.batch.selection := congrArg Prod.snd alike
  rw [runInput, runInput]
  split
  · rw [runFile, runFile]
    split <;> rfl
  split
  · have told := CheckSetup.verdict_checkJob ⟨delimiters, surroundings.preferences⟩
      surroundings.files
    rw [runDirectory, runDirectory]
    apply batchStatus_congr
    rw [BatchSetup.batchStatus_run_eq_zero_iff _ _ _ _ told,
      BatchSetup.batchStatus_run_eq_zero_iff _ _ _ _ told, selection]
  · rfl

/-- On a directory it is zero if all files are clean. -/
theorem status_runInput_eq_zero_iff {input : Path} (options : CommandOptions)
    (isDirectory : surroundings.files.isDirectory input) (delimiters : Delimiters)
    (session : Session) (order : Nat → List Nat) :
    (runInput surroundings input options delimiters session order).status = 0 ↔
      BatchSetup.AllClean delimiters options.batch.selection surroundings.files input
        (CheckSetup.outcome ⟨delimiters, surroundings.preferences⟩ surroundings.files) := by
  have noFile : ¬surroundings.files.isFile input := by
    rw [FileSystem.isFile]
    rw [FileSystem.isDirectory] at isDirectory
    cases found : surroundings.files.entry? input with
    | none => exact Bool.false_ne_true
    | some entry =>
      rw [found, Option.any_some] at isDirectory
      rw [Option.any_some, Entry.isFile_of_isDirectory isDirectory]
      exact Bool.false_ne_true
  rw [runInput, if_neg noFile, if_pos isDirectory, runDirectory]
  exact BatchSetup.batchStatus_run_eq_zero_iff _ _ _ _
    (CheckSetup.verdict_checkJob ⟨delimiters, surroundings.preferences⟩ surroundings.files) _ _

/-- A run that is not asked for help loads its delimiters and goes on with what its first argument
names. -/
theorem status_run {input : String} (named : input ≠ "--help") (arguments : List String)
    (order : Nat → List Nat) : ∃ session,
      (run surroundings (input :: arguments) order).status =
        match loadDelimiters surroundings.files (CommandOptions.ofArguments arguments).1 with
        | .error _ => 1
        | .ok delimiters =>
          (runInput surroundings ⟨input⟩ (CommandOptions.ofArguments arguments).1 delimiters session
            order).status := by
  rw [run]
  · obtain ⟨options, warnings⟩ := CommandOptions.ofArguments arguments
    dsimp only
    cases loadDelimiters surroundings.files options with
    | error fault => exact ⟨.start surroundings.preferences.log surroundings.time, rfl⟩
    | ok delimiters => exact ⟨_, rfl⟩
  · exact named

/-- The status of a run on a directory is told by the delimiters, the selection of files and what
comes of checking these, and is zero if all of them are clean. No option that says how files are
worked on or how results are shown changes it, and neither do the turns that workers take. So it is
with the whole command, whose checks share a cache, and whatever its first argument names. -/
theorem status_of_essentials {σ : Type} (delimiters : Delimiters) (files : FileSystem)
    (directory : Path) {check : σ → Job → FileReport × σ} {outcome : Job → FileOutcome}
    (told : ∀ shared job,
      FileOutcome.verdict (check shared job).1.outcome = FileOutcome.verdict (outcome job))
    {left right : List String}
    (alike : CommandOptions.essentials left = CommandOptions.essentials right) :
    let options := (CommandOptions.ofArguments left).1
    let other := (CommandOptions.ofArguments right).1
    (∀ shared again session later order turns,
      (runDirectory delimiters options files directory check shared session order).status =
        (runDirectory delimiters other files directory check again later turns).status) ∧
    (∀ shared session order,
      (runDirectory delimiters options files directory check shared session order).status = 0 ↔
        BatchSetup.AllClean delimiters options.batch.selection files directory outcome) ∧
    ∀ surroundings input order turns,
      (run surroundings (input :: left) order).status =
        (run surroundings (input :: right) turns).status ∧
      (input ≠ "--help" → surroundings.files.isDirectory ⟨input⟩ →
        ((run surroundings (input :: left) order).status = 0 ↔
          ∃ loaded, loadDelimiters surroundings.files options = .ok loaded ∧
            BatchSetup.AllClean loaded options.batch.selection surroundings.files ⟨input⟩
              (CheckSetup.outcome ⟨loaded, surroundings.preferences⟩ surroundings.files))) := by
  intro options other
  have target : options.target = other.target := CommandOptions.target_ofArguments alike
  have selection : options.batch.selection = other.batch.selection := congrArg Prod.snd target
  have settings : options.settings = other.settings := congrArg Prod.fst target
  refine ⟨fun shared again session later order turns => ?_, fun shared session order => ?_,
    fun surroundings input order turns => ?_⟩
  · rw [runDirectory, runDirectory]
    apply batchStatus_congr
    rw [BatchSetup.batchStatus_run_eq_zero_iff _ _ _ _ told,
      BatchSetup.batchStatus_run_eq_zero_iff _ _ _ _ told, selection]
  · exact BatchSetup.batchStatus_run_eq_zero_iff _ _ _ _ told _ _
  by_cases help : input = "--help"
  · rw [help]
    exact ⟨rfl, fun named => absurd rfl named⟩
  obtain ⟨session, first⟩ := @status_run surroundings input help left order
  obtain ⟨again, second⟩ := @status_run surroundings input help right turns
  have loads : loadDelimiters surroundings.files other =
      loadDelimiters surroundings.files options := by
    rw [loadDelimiters, loadDelimiters, settings]
  rw [first, second, loads]
  cases loadDelimiters surroundings.files options with
  | error fault => exact ⟨rfl, fun _ _ => iff_of_false Nat.one_ne_zero nofun⟩
  | ok loaded =>
    refine ⟨status_runInput target _ _ _ _ _ _, fun _ isDirectory => ?_⟩
    rw [status_runInput_eq_zero_iff _ isDirectory]
    exact ⟨fun clean => ⟨loaded, rfl, clean⟩, fun ⟨_, same, clean⟩ => Except.ok.inj same ▸ clean⟩

/-- Two workers that fail fast and take their turns in some order, and one worker that shows JSON.
The second file of the batch cannot be checked, and what is told of it and how often it was begun is
not the same each time. -/
theorem status_of_essentials_failFast :
    let left := ["--threads", "2", "--max-files", "3", "--fail-fast", "--quiet"]
    let right := ["--json", "--max-files", "3", "--sequential", "--tree"]
    let files : FileSystem :=
      ⟨.directory [("t", .directory [("a.j2", .file ⟨#[]⟩ 0), ("b.j2", .file ⟨#[]⟩ 0)])], []⟩
    let checked : CheckedTemplate := ⟨⟨"t"⟩, ⟨⟨"/t"⟩, 0, none, 0, 0, ""⟩, ⟨"", #[], #[], .template⟩,
      (⟨"", #[], #[], .template⟩ : TokenStream).parse, {}, none, false⟩
    let outcome (job : Job) : FileOutcome :=
      if job.id = 1 then .error (.internal "broken") else .ok checked
    let check (ran : Nat) (job : Job) : FileReport × Nat :=
      (⟨outcome job, [.info (toString ran)]⟩, ran + 1)
    let status (arguments : List String) (order : Nat → List Nat) :=
      (runDirectory {} (CommandOptions.ofArguments arguments).1 files ⟨"t"⟩ check 0
        (.start {} "") order).status
    (∀ shared job,
      FileOutcome.verdict (check shared job).1.outcome = FileOutcome.verdict (outcome job)) ∧
    CommandOptions.essentials left = ["--max-files", "3"] ∧
    CommandOptions.essentials left = CommandOptions.essentials right ∧
    status left (fun _ => [1, 1, 0, 1]) = status right (fun _ => []) ∧
    (run ⟨"stencil", {}, files, ""⟩ ("t" :: left) (fun _ => [1, 0, 1])).status =
      (run ⟨"stencil", {}, files, ""⟩ ("t" :: right)).status := by
  intro left right files checked outcome check status
  have told : ∀ shared job,
      FileOutcome.verdict (check shared job).1.outcome = FileOutcome.verdict (outcome job) :=
    fun _ _ => rfl
  have alike : CommandOptions.essentials left = CommandOptions.essentials right := by decide
  obtain ⟨same, -, whole⟩ := status_of_essentials {} files ⟨"t"⟩ told alike
  exact ⟨told, by decide, alike, same _ _ _ _ _ _, (whole _ _ _ _).1⟩

end Command
end Stencil
