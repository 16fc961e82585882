import Mathlib.Data.List.Nodup
import Stencil.Batch.Schedule
/-!
# Every file keeps its number

The files of a batch are cut into slices and each slice into shares, and the last part of either may
be shorter than the others. The number of a file is worked out from its slice, its share and its
place there; put together again, the shares of a slice are the slice, the slices are the batch, and
each file has the number of its place among all files (`flatten_shares`, `length_flatten_of_parts`).
-/

namespace Stencil.Schedule

variable {β : Type} {size first : Nat}

/-! ### Numbers -/

/-- Without files there are no jobs. -/
@[simp] theorem jobs_nil (first : Nat) : jobs first [] = [] := rfl

/-- Numbering goes on where it stopped. -/
theorem jobs_append (first : Nat) (paths more : List Path) :
    jobs first (paths ++ more) = jobs first paths ++ jobs (first + paths.length) more := by
  rw [jobs, List.zipIdx_append, List.map_append, Nat.add_comm]
  rfl

/-- The files are the paths in order. -/
theorem map_path_jobs (first : Nat) (paths : List Path) :
    (jobs first paths).map Job.path = paths := by
  rw [jobs, List.map_map]
  exact List.zipIdx_map_fst first paths

/-- The numbers go up one by one. -/
theorem map_id_jobs (first : Nat) (paths : List Path) :
    (jobs first paths).map Job.id = List.range' first paths.length := by
  rw [jobs, List.map_map]
  exact List.zipIdx_map_snd first paths

/-- No number is given twice. -/
theorem nodup_jobs (first : Nat) (paths : List Path) : (jobs first paths).Nodup := by
  refine List.Nodup.of_map Job.id ?_
  rw [map_id_jobs]
  exact List.nodup_range'

/-! ### Parts -/

/-- Without files there are no parts. -/
@[simp] theorem parts_nil (size : Nat) : parts size ([] : List β) = [] := by
  rw [parts]
  rfl

/-- The first part is cut off, and then the next. -/
theorem parts_of_ne_nil (positive : 0 < size) {list : List β} (some : list ≠ []) :
    parts size list = list.take size :: parts size (list.drop size) := by
  rw [parts, if_neg]
  simpa [Nat.ne_of_gt positive] using some

/-- The parts of a list are the list. -/
theorem flatten_parts (positive : 0 < size) (list : List β) : (parts size list).flatten = list := by
  fun_induction parts size list with
  | case1 list none =>
    obtain rfl : list = [] := by simpa [Nat.ne_of_gt positive] using none
    rfl
  | case2 list some ih => rw [List.flatten_cons, ih, List.take_append_drop]

/-- Numbers go on by the size of a part: a part that is shorter has nothing behind it. -/
theorem jobs_take_drop (size first : Nat) (paths : List Path) :
    jobs first (paths.take size) ++ jobs (first + size) (paths.drop size) = jobs first paths := by
  obtain short | long := Nat.le_total paths.length size
  · rw [List.drop_eq_nil_of_le short, List.take_of_length_le short, jobs_nil, List.append_nil]
  · have full : (paths.take size).length = size := by
      rw [List.length_take, Nat.min_eq_left long]
    calc jobs first (paths.take size) ++ jobs (first + size) (paths.drop size)
        = jobs first (paths.take size ++ paths.drop size) := by rw [jobs_append, full]
      _ = jobs first paths := by rw [List.take_append_drop]

/-- Parts that are numbered from where each begins are numbered as the whole. -/
theorem flatten_jobs_parts (positive : 0 < size) (first : Nat) (paths : List Path) :
    ((parts size paths).mapIdx fun index part => jobs (first + index * size) part).flatten =
      jobs first paths := by
  fun_induction parts size paths generalizing first with
  | case1 paths none =>
    obtain rfl : paths = [] := by simpa [Nat.ne_of_gt positive] using none
    rfl
  | case2 paths some ih =>
    have onward (index : Nat) : first + (index + 1) * size = first + size + index * size := by
      rw [Nat.succ_mul]
      omega
    simp only [List.mapIdx_cons, List.flatten_cons, onward, ih, Nat.zero_mul, Nat.add_zero]
    exact jobs_take_drop size first paths

/-- A part that has another behind it is full. -/
theorem length_take_of_parts {list : List β} (further : parts size (list.drop size) ≠ []) :
    (list.take size).length = size := by
  rw [List.length_take, Nat.min_eq_left]
  by_contra short
  rw [List.drop_eq_nil_of_le (Nat.le_of_not_le short)] at further
  exact further (parts_nil size)

/-- What comes before a part is made of full parts. -/
theorem length_flatten_of_parts {list : List β} {before after : List (List β)} {part : List β}
    (cut : parts size list = before ++ part :: after) :
    before.flatten.length = before.length * size := by
  fun_induction parts size list generalizing before with
  | case1 list none => simp at cut
  | case2 list some ih =>
    cases before with
    | nil => simp
    | cons full before =>
      obtain ⟨rfl, rest⟩ := List.cons.inj cut
      have further : parts size (list.drop size) ≠ [] := by simp [rest]
      rw [List.flatten_cons, List.length_append, ih rest, length_take_of_parts further,
        List.length_cons, Nat.succ_mul, Nat.add_comm]

/-! ### Slices and shares -/

/-- A slice holds a file at least. -/
theorem sliceSize_pos (files threads : Nat) : 0 < sliceSize files threads := by
  rw [sliceSize, maxSliceSize]
  omega

/-- A share holds a file at least. -/
theorem shareSize_pos (files threads : Nat) : 0 < shareSize files threads := by
  rw [shareSize]
  omega

/-- The shares of a slice are its files, numbered from its first on. -/
theorem flatten_shares (threads first : Nat) (slice : List Path) :
    (shares threads first slice).flatten = jobs first slice :=
  flatten_jobs_parts (shareSize_pos slice.length threads) first slice

end Stencil.Schedule
