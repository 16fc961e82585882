import Stencil.Batch.Discovery
import Stencil.Batch.Results
import Stencil.Batch.Schedule
import Stencil.Journal.Basic
/-!
# Running a batch

A batch finds its files, has each checked, and sums up. With one worker the files are checked one by
one, with more by a crew; what comes of a batch does not depend on that as long as it runs to its
end.
-/

namespace Stencil

/-- How a batch is run. -/
structure BatchSetup where
  /-- The number of workers that is wanted. -/
  threads : Nat := 4
  selection : Selection := {}
  /-- A line is shown before each file. -/
  showsProgress : Bool := true
  /-- The batch ends with the first file that cannot be checked. -/
  isFailFast : Bool := false

/-- How the files of a batch are taken. -/
inductive Taking where
  | oneByOne
  /-- Slice by slice, each shared out to so many workers. -/
  | byCrew (workers : Nat)
  deriving DecidableEq

namespace Taking

/-- The number of workers. -/
def workers : Taking → Nat
  | .oneByOne => 1
  | .byCrew workers => workers

/-- What is told when a batch begins. -/
def started (taking : Taking) (directory : Path) : Event :=
  match taking with
  | .oneByOne => .info "Starting sequential batch processing" [("directory", directory.text)]
  | .byCrew workers =>
    .info "Starting parallel batch processing"
      [("directory", directory.text), ("max_threads", toString workers)]

/-- What is told of the way files are shared out. -/
def sharing (taking : Taking) (files : Nat) : List Event :=
  match taking with
  | .oneByOne => []
  | .byCrew workers =>
    [.debug "Parallel processing configuration"
      [("total_files", toString files),
       ("chunk_size", toString (Schedule.sliceSize files workers)),
       ("threads", toString workers)]]

end Taking

/-- What came of checking a file, and what is told of it. -/
structure FileReport where
  outcome : FileOutcome
  events : List Event

/-- What happens in a batch, in order. -/
inductive Happening where
  | note (event : Event)
  /-- A line for the user. -/
  | progress (line : String)
  /-- What is told of a file. -/
  | file (job : Job) (events : List Event)

/-- What came of a batch, what its workers share afterwards, and what happened. -/
structure BatchReport (σ : Type) where
  outcome : Except BatchFault BatchResults
  shared : σ
  happenings : List Happening

namespace CheckSetup

/-- Checking files with a cache that all workers share. -/
def checkJob (setup : CheckSetup) (files : FileSystem) (cache : FactsCache) (job : Job) :
    FileReport × FactsCache :=
  let report := setup.check files job.path cache
  (⟨report.outcome, report.events⟩, report.cache)

end CheckSetup

namespace BatchSetup

/-- The number of workers. -/
def workers (batch : BatchSetup) : Nat := max 1 (min batch.threads Limits.maxWorkerThreads)

variable {σ : Type}

/-- The work on a file of the batch. A file that cannot be checked ends a batch that is to fail
fast. -/
def work (batch : BatchSetup) (check : σ → Job → FileReport × σ) : Work σ FileReport where
  run := check
  endsBatch report := batch.isFailFast && report.outcome.toOption.isNone

/-- How the batch takes its files: a single worker is no crew. -/
def taking (batch : BatchSetup) : Taking :=
  if batch.workers = 1 then .oneByOne else .byCrew batch.workers

/-- What is told when a batch ends early. -/
def stopped : Event := .warning .plainWarning "Fail-fast mode enabled, stopping batch processing"

/-- The line shown before a file. -/
def progressLine (total : Nat) (job : Job) : String :=
  "Processing file " ++ toString (job.id + 1) ++ " of " ++ toString total ++ ": " ++ job.path.text

/-- What happens with a file. Only a batch that takes the files one by one shows a line for each. -/
def fileHappenings (batch : BatchSetup) (taking : Taking) (total : Nat)
    (result : Job × FileReport) : List Happening :=
  let shown := Happening.file result.1 result.2.events
  if batch.showsProgress && taking = .oneByOne then
    [.progress (progressLine total result.1), shown]
  else
    [shown]

/-- Has files worked on. The order says how the workers of a crew take turns in each slice. -/
def workOn (batch : BatchSetup) (taking : Taking) (check : σ → Job → FileReport × σ) (shared : σ)
    (order : Nat → List Nat) (paths : List Path) : Progress σ FileReport :=
  match taking with
  | .oneByOne => Schedule.oneByOne (batch.work check) shared (Schedule.jobs 0 paths)
  | .byCrew workers => Schedule.byCrew (batch.work check) workers order shared paths

/-- Runs a batch on files that were found. -/
def runOn (batch : BatchSetup) (taking : Taking) (check : σ → Job → FileReport × σ) (shared : σ)
    (order : Nat → List Nat) (paths : List Path) : BatchReport σ :=
  let total := paths.length
  let progress := batch.workOn taking check shared order paths
  let results := BatchResults.ofOutcomes total
    (progress.results.map fun result => (result.1.path, result.2.outcome))
  let ending := if progress.isStopped then [stopped] else []
  ⟨.ok results, progress.shared,
    (taking.sharing total).map .note ++
      progress.results.flatMap (batch.fileHappenings taking total) ++
      (ending ++ [results.completed taking.workers]).map .note⟩

/-- Runs a batch on a directory in a given way. -/
def runBy (batch : BatchSetup) (taking : Taking) (delimiters : Delimiters) (files : FileSystem)
    (directory : Path) (check : σ → Job → FileReport × σ) (shared : σ) (order : Nat → List Nat) :
    BatchReport σ :=
  let begun := taking.started directory
  match delimiters.fault? with
  | some fault => ⟨.error (.settings (.unusable fault)), shared, [.note begun]⟩
  | none =>
    let (found, events) := batch.selection.discover files directory
    let before := (begun :: events).map Happening.note
    match found with
    | .error fault => ⟨.error fault, shared, before⟩
    | .ok paths =>
      let report := batch.runOn taking check shared order paths
      { report with happenings := before ++ report.happenings }

/-- Runs a batch on a directory. The order says how the workers take turns in each slice. -/
def run (batch : BatchSetup) (delimiters : Delimiters) (files : FileSystem) (directory : Path)
    (check : σ → Job → FileReport × σ) (shared : σ) (order : Nat → List Nat := fun _ => []) :
    BatchReport σ :=
  batch.runBy batch.taking delimiters files directory check shared order

end BatchSetup

namespace Journal

/-- Takes what happened in a batch. Lines for the user are not kept. -/
def follow (journal : Journal) (happenings : List Happening) : Journal :=
  happenings.foldl (fun journal happening =>
    match happening with
    | .note event => journal.note event
    | .progress _ => journal
    | .file job events => journal.noteFile job.path job.id events) journal

end Journal
end Stencil
