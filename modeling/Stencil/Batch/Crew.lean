import Stencil.Files.Path
/-!
# Workers

The files of a batch are shared out to workers that take turns in any order. Before each file a
worker looks at a flag; after a file that ends the batch it raises the flag. A step of a worker is
one look, one file or one raising, so that whatever a run of real workers can do is a list of
workers, one for each step.
-/

namespace Stencil

/-- A file of a batch and its number. -/
structure Job where
  id : Nat
  path : Path
  deriving DecidableEq

/-- Where a worker is. -/
inductive WorkerPhase where
  /-- Next it looks at the flag. -/
  | ready
  /-- It saw no flag and next works on its first file. -/
  | cleared
  /-- Its last file ends the batch, and next it raises the flag. -/
  | failing
  /-- It has nothing more to do. -/
  | halted
  deriving DecidableEq

/-- How work on a file is done: with something that workers share, and with a result that may end
the batch. -/
structure Work (σ α : Type) where
  run : σ → Job → α × σ
  endsBatch : α → Bool

/-- A worker with the files before it and the results behind it. -/
structure Worker (α : Type) where
  phase : WorkerPhase := .ready
  pending : List Job
  done : List (Job × α) := []

/-- Workers and what they share. -/
structure Crew (σ α : Type) where
  shared : σ
  /-- The flag is up. -/
  isStopped : Bool := false
  workers : List (Worker α)

namespace Worker

variable {σ α : Type}

/-- The number of steps a worker can still take, at most. -/
def stepsLeft (worker : Worker α) : Nat :=
  match worker.phase with
  | .halted => 0
  | .cleared => 3 * worker.pending.length + 1
  | .ready => 3 * worker.pending.length + 2
  | .failing => 3 * worker.pending.length + 3

/-- A step of a worker, with what workers share and whether the flag is up. -/
def step (work : Work σ α) (shared : σ) (isStopped : Bool) (worker : Worker α) :
    Worker α × σ × Bool :=
  match worker.phase, worker.pending with
  | .halted, _ => (worker, shared, isStopped)
  | .failing, _ => ({ worker with phase := .ready }, shared, true)
  | .ready, [] => ({ worker with phase := .halted }, shared, isStopped)
  | .ready, _ :: _ =>
    ({ worker with phase := if isStopped then .halted else .cleared }, shared, isStopped)
  | .cleared, [] => ({ worker with phase := .halted }, shared, isStopped)
  | .cleared, job :: rest =>
    let (result, shared) := work.run shared job
    let phase := if work.endsBatch result then .failing else .ready
    (⟨phase, rest, worker.done ++ [(job, result)]⟩, shared, isStopped)

end Worker

namespace Crew

variable {σ α : Type}

/-- A crew before its first step. -/
def start (shared : σ) (shares : List (List Job)) : Crew σ α :=
  { shared := shared, workers := shares.map fun share => { pending := share } }

/-- A step of one worker. A worker that is not there takes no step. -/
def step (work : Work σ α) (crew : Crew σ α) (index : Nat) : Crew σ α :=
  match crew.workers[index]? with
  | none => crew
  | some worker =>
    let (worker, shared, isStopped) := worker.step work crew.shared crew.isStopped
    ⟨shared, isStopped, crew.workers.set index worker⟩

/-- The steps of workers in a given order. -/
def run (work : Work σ α) (crew : Crew σ α) (order : List Nat) : Crew σ α :=
  order.foldl (step work) crew

/-- The number of steps that one worker can still take, at most. -/
def stepsLeft (crew : Crew σ α) (index : Nat) : Nat :=
  (crew.workers[index]?.map Worker.stepsLeft).getD 0

/-- All steps that one worker has left. -/
def finishWorker (work : Work σ α) (crew : Crew σ α) (index : Nat) : Crew σ α :=
  crew.run work (List.replicate (crew.stepsLeft index) index)

/-- All steps that are left, one worker after the other. -/
def finish (work : Work σ α) (crew : Crew σ α) : Crew σ α :=
  (List.range crew.workers.length).foldl (finishWorker work) crew

/-- Whether no worker has anything to do. -/
def isFinished (crew : Crew σ α) : Bool :=
  crew.workers.all fun worker => worker.phase = .halted

/-- The results of all workers, worker by worker. -/
def results (crew : Crew σ α) : List (Job × α) := crew.workers.flatMap Worker.done

end Crew
end Stencil
