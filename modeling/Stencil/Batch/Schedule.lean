import Stencil.Batch.Crew
import Stencil.Limits
/-!
# Schedules

The files of a batch are worked on one by one, or by a crew. A crew gets them slice by slice, so
that a batch that ends early does not begin every slice; each slice is shared out evenly, in order.
A file has the number of its place among all files, which is told by its slice, its share and its
place there.
-/

namespace Stencil

/-- What came of the files of a batch. -/
structure Progress (σ α : Type) where
  /-- The results in the order of the files. -/
  results : List (Job × α) := []
  shared : σ
  /-- A result ended the batch. -/
  isStopped : Bool := false

namespace Schedule

/-- A slice has this many files at most. -/
def maxSliceSize : Nat := 50

/-- A quotient rounded up. -/
def ceilDiv (a b : Nat) : Nat := (a + b - 1) / b

/-- A list in parts of a size, of which the last may be shorter. -/
def parts {β : Type} (size : Nat) (list : List β) : List (List β) :=
  if list.isEmpty || size = 0 then []
  else list.take size :: parts size (list.drop size)
termination_by list.length
decreasing_by
  cases list with
  | nil => simp_all
  | cons head tail => simp_all; omega

/-- Paths as files of a batch, numbered from a number on. -/
def jobs (first : Nat) (paths : List Path) : List Job :=
  (paths.zipIdx first).map fun numbered => ⟨numbered.2, numbered.1⟩

/-- The number of files in a slice. -/
def sliceSize (files threads : Nat) : Nat :=
  min maxSliceSize (max 1 (ceilDiv files (max 1 threads)))

/-- The number of files of a slice that each worker gets. -/
def shareSize (files threads : Nat) : Nat := max 1 (ceilDiv files threads)

/-- A slice that begins with the file of a number, shared out to workers. -/
def shares (threads first : Nat) (slice : List Path) : List (List Job) :=
  let size := shareSize slice.length threads
  (parts size slice).mapIdx fun worker paths => jobs (first + worker * size) paths

variable {σ α : Type}

/-- Files one by one, up to one that ends the batch. -/
def oneByOne (work : Work σ α) (shared : σ) : List Job → Progress σ α
  | [] => { shared := shared }
  | job :: rest =>
    let (result, shared) := work.run shared job
    if work.endsBatch result then ⟨[(job, result)], shared, true⟩
    else
      let later := oneByOne work shared rest
      { later with results := (job, result) :: later.results }

/-- What came of a slice when its workers take the steps of an order first. -/
def slice (work : Work σ α) (threads : Nat) (order : List Nat) (shared : σ) (first : Nat)
    (paths : List Path) : Progress σ α :=
  let crew := ((Crew.start shared (shares threads first paths)).run work order).finish work
  ⟨crew.results, crew.shared, crew.isStopped⟩

/-- Slices of a size one by one from one of them on, up to one in which the batch ends. Each has an
order of steps. -/
def slices (work : Work σ α) (threads : Nat) (order : Nat → List Nat) (size : Nat) (shared : σ)
    (index : Nat) : List (List Path) → Progress σ α
  | [] => { shared := shared }
  | paths :: rest =>
    let done := slice work threads (order index) shared (index * size) paths
    if done.isStopped then done
    else
      let later := slices work threads order size done.shared (index + 1) rest
      { later with results := done.results ++ later.results }

/-- Files by a crew. -/
def byCrew (work : Work σ α) (threads : Nat) (order : Nat → List Nat) (shared : σ)
    (paths : List Path) : Progress σ α :=
  let size := sliceSize paths.length threads
  slices work threads order size shared 0 (parts size paths)

end Schedule
end Stencil
