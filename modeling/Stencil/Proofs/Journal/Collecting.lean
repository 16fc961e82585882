import Mathlib
import Stencil.Journal.Collector
import Stencil.Proofs.Files.Paths
/-!
# What a collector keeps

Whatever is recorded for whichever files, a collector keeps for each file the first events that were
recorded for it, up to the limit, and one warning behind them if there were more. The files stand in
path order, each once. One recording keeps this (`Keeps.record`), and so it holds after every run of
calls (`keeps_run`); the counts over all files are those of what is kept (`run_collects`).
-/

namespace Stencil
namespace FileEvents

/-- What is kept of the events recorded for a file. -/
def kept (recorded : List Event) : List Event :=
  recorded.take Limits.maxLogEventsPerFile ++
    if Limits.maxLogEventsPerFile < recorded.length then [overflow] else []

/-- One more event is kept, or stands for all further ones, or is passed over. -/
theorem toList_record {events : Array Event} {recorded : List Event}
    (before : events.toList = kept recorded) (event : Event) :
    (record events event).toList = kept (recorded ++ [event]) := by
  have size : events.size = (kept recorded).length := by rw [← before, Array.length_toList]
  rw [kept, List.length_append, List.length_take] at size
  rw [record, kept, List.length_append, List.length_singleton]
  rcases Nat.lt_trichotomy recorded.length Limits.maxLogEventsPerFile with few | full | many
  · rw [if_neg (by omega), List.length_nil] at size
    rw [if_pos (by omega), if_neg (by omega), Array.toList_push, before, kept, if_neg (by omega),
      List.append_nil, List.append_nil, List.take_of_length_le (by omega),
      List.take_of_length_le (by simp; omega)]
  · rw [if_neg (by omega), List.length_nil] at size
    rw [if_neg (by omega), if_pos (by omega), if_pos (by omega), Array.toList_push, before, kept,
      if_neg (by omega), List.append_nil, List.take_append_of_le_length (by omega)]
  · rw [if_pos (by omega), List.length_singleton] at size
    rw [if_neg (by omega), if_neg (by omega), if_pos (by omega), before, kept, if_pos (by omega),
      List.take_append_of_le_length (by omega)]

end FileEvents

namespace Collector

open FileEvents

/-! ### One recording -/

variable {path : Path} {event : Event} {files : List FileEvents}

/-- The files of a collector are in path order, and so each is there once. -/
def Sorted (files : List FileEvents) : Prop :=
  files.Pairwise fun one other => one.path.order other.path = .lt

/-- The files of a collector around the entry of one of them, which may be an empty one that is not
there yet. -/
structure Parted (path : Path) (files before : List FileEvents) (entry : FileEvents)
    (after : List FileEvents) : Prop where
  same : entry.path.components = path.components
  split : files = before ++ after ∧ entry.events = #[] ∨ files = before ++ entry :: after
  early : ∀ file ∈ before, file.path.order path = .lt
  late : ∀ file ∈ after, path.order file.path = .lt

/-- An event goes to the entry of its file, or makes one where the file belongs. -/
theorem recordIn_cases (sorted : Sorted files) (path : Path) (event : Event) :
    ∃ before entry after, Parted path files before entry after ∧
      recordIn path event files =
        before ++ ⟨entry.path, FileEvents.record entry.events event⟩ :: after := by
  induction files with
  | nil => exact ⟨[], ⟨path, #[]⟩, [], ⟨rfl, .inl ⟨rfl, rfl⟩, nofun, nofun⟩, rfl⟩
  | cons file rest ih =>
    obtain ⟨first, others⟩ := List.pairwise_cons.1 sorted
    rw [recordIn]
    cases order : path.order file.path with
    | lt =>
      refine ⟨[], ⟨path, #[]⟩, file :: rest, ⟨rfl, .inl ⟨rfl, rfl⟩, nofun, ?_⟩, rfl⟩
      rintro other (_ | ⟨_, later⟩)
      · exact order
      · exact Path.order_lt_trans order (first other later)
    | eq =>
      have same := Path.order_eq_iff.1 order
      refine ⟨[], file, rest, ⟨same.symm, .inr rfl, nofun, fun other later => ?_⟩, rfl⟩
      rw [Path.order_congr same rfl]
      exact first other later
    | gt =>
      obtain ⟨before, entry, after, ⟨same, split, early, late⟩, recorded⟩ := ih others
      refine ⟨file :: before, entry, after, ⟨same, ?_, ?_, late⟩, by rw [recorded]; rfl⟩
      · exact split.imp (fun ⟨without, fresh⟩ => ⟨by rw [without]; rfl, fresh⟩)
          fun within => by rw [within]; rfl
      · rintro other (_ | ⟨_, earlier⟩)
        · exact Path.order_eq_gt_iff.1 order
        · exact early other earlier

namespace Parted

variable {before after : List FileEvents} {entry : FileEvents}
  (parted : Parted path files before entry after)

include parted

/-- The entries around that of a file are those of the other files. -/
theorem mem_iff {file : FileEvents} : file ∈ before ++ after ↔
    file ∈ files ∧ file.path.components ≠ path.components := by
  have other : file ∈ before ++ after → file.path.components ≠ path.components := by
    intro listed
    rcases List.mem_append.1 listed with member | member
    · exact Path.components_ne_of_lt (parted.early file member)
    · exact (Path.components_ne_of_lt (parted.late file member)).symm
  rcases parted.split with ⟨rfl, -⟩ | rfl
  · exact ⟨fun listed => ⟨listed, other listed⟩, And.left⟩
  · have within : (before ++ after).Sublist (before ++ entry :: after) :=
      (List.sublist_cons_self _ _).append_left before
    refine ⟨fun listed => ⟨within.subset listed, other listed⟩, fun ⟨listed, apart⟩ => ?_⟩
    rw [List.mem_append, List.mem_cons] at listed
    rcases listed with member | rfl | member
    · exact List.mem_append_left _ member
    · exact absurd parted.same apart
    · exact List.mem_append_right _ member

/-- Whatever its entry holds, the files stay in order. -/
theorem sorted (ordered : Sorted files) (events : Array Event) :
    Sorted (before ++ ⟨entry.path, events⟩ :: after) := by
  have rest : Sorted (before ++ after) := by
    rcases parted.split with ⟨rfl, -⟩ | rfl
    · exact ordered
    · exact ordered.sublist ((List.sublist_cons_self _ _).append_left before)
  obtain ⟨first, second, across⟩ := List.pairwise_append.1 rest
  refine List.pairwise_append.2 ⟨first, List.pairwise_cons.2 ⟨fun file member => ?_, second⟩, ?_⟩
  · rw [Path.order_congr parted.same rfl]
    exact parted.late file member
  · rintro file member other (_ | ⟨_, later⟩)
    · rw [Path.order_congr rfl parted.same]
      exact parted.early file member
    · exact across file member other later

end Parted

/-- There is an entry for each file with something recorded, and it holds what is kept of that.
Files count by their components. -/
structure Keeps (files : List FileEvents) (recorded : List Component → List Event) : Prop where
  sorted : Sorted files
  events : ∀ file ∈ files, file.events.toList = kept (recorded file.path.components)
  covers : ∀ components, recorded components ≠ [] ↔
    ∃ file ∈ files, file.path.components = components

/-- What is recorded for each file after one more event. -/
def oneMore (sent : List Component → List Event) (path : Path) (event : Event)
    (components : List Component) : List Event :=
  sent components ++ if path.components = components then [event] else []

/-- A recorded event is kept in the file that it was sent for. -/
theorem Keeps.record {sent : List Component → List Event} (keeps : Keeps files sent) (path : Path)
    (event : Event) : Keeps (recordIn path event files) (oneMore sent path event) := by
  obtain ⟨before, entry, after, parted, made⟩ := recordIn_cases keeps.sorted path event
  have same := parted.same
  have given : entry.events.toList = kept (sent path.components) := by
    rcases parted.split with ⟨rfl, fresh⟩ | within
    · have none : sent path.components = [] := by
        by_contra some
        obtain ⟨file, listed, its⟩ := (keeps.covers _).1 some
        exact (parted.mem_iff.1 listed).2 its
      rw [fresh, none]
      rfl
    · rw [← same]
      exact keeps.events entry (by rw [within]; simp)
  rw [made]
  refine ⟨parted.sorted keeps.sorted _, fun file listed => ?_, fun components => ?_⟩
  · rw [List.mem_append, List.mem_cons, or_left_comm, ← List.mem_append] at listed
    rcases listed with rfl | other
    · rw [oneMore, same, if_pos rfl]
      exact toList_record given event
    · obtain ⟨old, apart⟩ := parted.mem_iff.1 other
      rw [oneMore, if_neg apart.symm, List.append_nil]
      exact keeps.events file old
  · by_cases its : path.components = components
    · rw [oneMore, if_pos its]
      refine ⟨fun _ => ⟨_, List.mem_append_right _ List.mem_cons_self, same.trans its⟩, fun _ => ?_⟩
      exact List.append_ne_nil_of_right_ne_nil _ (List.cons_ne_nil _ _)
    · rw [oneMore, if_neg its, List.append_nil, keeps.covers]
      refine exists_congr fun file => and_congr_left fun here => ?_
      have apart : file.path.components ≠ path.components := fun also => its (also.symm.trans here)
      have other : file ≠ ⟨entry.path, FileEvents.record entry.events event⟩ := by
        rintro rfl
        exact apart same
      rw [List.mem_append, List.mem_cons, or_left_comm, ← List.mem_append, parted.mem_iff]
      simp [apart, other]

/-! ### A run of calls -/

/-- What is asked of a collector. -/
inductive Call where
  | record (path : Path) (event : Event)
  | visit (path : Path)
  | clear

namespace Call

/-- Whether all files are forgotten. -/
def isClear : Call → Bool
  | .clear => true
  | _ => false

/-- The event that is recorded for a file. -/
def about? (components : List Component) : Call → Option Event
  | .record path event => if path.components = components then some event else none
  | _ => none

end Call

/-- The collector after a call. -/
def call (collector : Collector) : Call → Collector
  | .record path event => collector.record path event
  | .visit path => collector.visit path
  | .clear => {}

/-- The collector after calls from any callers, in the order in which they took effect. -/
def run (calls : List Call) : Collector := calls.foldl call {}

/-- The events recorded for a file since all files were last forgotten. -/
def recorded (calls : List Call) (components : List Component) : List Event :=
  (calls.rtakeWhile fun call => !call.isClear).filterMap (Call.about? components)

/-- One more call records at most one more event, or forgets all. -/
theorem recorded_concat (calls : List Call) (call : Call) (components : List Component) :
    recorded (calls ++ [call]) components =
      if call.isClear then []
      else recorded calls components ++ (call.about? components).toList := by
  rw [recorded]
  by_cases clear : call.isClear = true
  · rw [List.rtakeWhile_concat_neg _ _ _ (by simp [clear]), if_pos clear, List.filterMap_nil]
  · rw [List.rtakeWhile_concat_pos _ _ _ (by simp [clear]), if_neg clear, List.filterMap_append,
      recorded]
    cases about : call.about? components <;> simp [about]

/-- A visit leaves the files as they are. -/
theorem files_visit (collector : Collector) (path : Path) :
    (collector.visit path).files = collector.files := by
  rw [visit]
  split <;> rfl

/-- After calls in any order the collector keeps what was recorded since it was last cleared. -/
theorem keeps_run (calls : List Call) : Keeps (run calls).files (recorded calls) := by
  induction calls using List.reverseRecOn with
  | nil => exact ⟨.nil, nofun, fun _ => by simp [recorded, run]⟩
  | append_singleton calls call ih =>
    rw [run, List.foldl_concat]
    have after := funext (recorded_concat calls call)
    cases call with
    | record path event =>
      have more :
          recorded (calls ++ [.record path event]) = oneMore (recorded calls) path event := by
        rw [after]
        funext components
        rw [if_neg nofun, oneMore, Call.about?]
        split <;> rfl
      rw [more]
      exact ih.record path event
    | visit path =>
      have same : recorded (calls ++ [.visit path]) = recorded calls := by
        rw [after]
        funext components
        simp [Call.isClear, Call.about?]
      rw [same, call, files_visit]
      exact ih
    | clear =>
      have none : recorded (calls ++ [.clear]) = fun _ => [] := by
        rw [after]
        rfl
      rw [none]
      exact ⟨.nil, nofun, fun _ => by simp [call]⟩

/-! ### What is asked afterwards -/

/-- The events of a file are what is kept of those recorded for it. -/
theorem Keeps.eventsOf {collector : Collector} {sent : List Component → List Event}
    (keeps : Keeps collector.files sent) (path : Path) :
    (collector.eventsOf path).toList = kept (sent path.components) := by
  rw [Collector.eventsOf]
  cases found : collector.files.find? fun file => file.path.same path with
  | none =>
    have none : sent path.components = [] := by
      by_contra some
      obtain ⟨file, listed, its⟩ := (keeps.covers _).1 some
      exact List.find?_eq_none.1 found file listed (Path.same_iff.2 its)
    rw [none]
    rfl
  | some file =>
    have its := List.find?_some found
    have same := Path.same_iff.1 its
    rw [Option.map_some, Option.getD_some, ← same]
    exact keeps.events file (List.mem_of_find?_eq_some found)

/-- A file counts the errors among the events that are kept of it. -/
theorem Keeps.errorCount {sent : List Component → List Event} (keeps : Keeps files sent)
    {file : FileEvents} (listed : file ∈ files) :
    file.errorCount = (kept (sent file.path.components)).countP Event.isError := by
  rw [FileEvents.errorCount, ← Array.countP_toList, keeps.events file listed]

/-- A file counts the warnings among the events that are kept of it. -/
theorem Keeps.warningCount {sent : List Component → List Event} (keeps : Keeps files sent)
    {file : FileEvents} (listed : file ∈ files) :
    file.warningCount = (kept (sent file.path.components)).countP Event.isWarning := by
  rw [FileEvents.warningCount, ← Array.countP_toList, keeps.events file listed]

/-- Whatever calls are made in whatever order, since the last clearing the collector keeps for each
file the first events recorded for it, up to the limit, and behind them the overflow warning exactly
if there were more. The totals are counts of what is kept, over each file with an event once; a file
with an error counts among those with errors only. -/
theorem run_collects (calls : List Call) :
    (∀ path, ((run calls).eventsOf path).toList =
      (recorded calls path.components).take Limits.maxLogEventsPerFile ++
        if Limits.maxLogEventsPerFile < (recorded calls path.components).length then [overflow]
        else []) ∧ overflow.isWarning = true ∧
    ∃ paths : List Path, paths.Pairwise (fun one other => one.order other = .lt) ∧
      (∀ path, recorded calls path.components ≠ [] ↔ ∃ file ∈ paths, file.same path = true) ∧
      let keptOf (path : Path) : List Event := ((run calls).eventsOf path).toList
      (run calls).summary.errors = (paths.map fun path => (keptOf path).countP Event.isError).sum ∧
      (run calls).summary.warnings =
        (paths.map fun path => (keptOf path).countP Event.isWarning).sum ∧
      (run calls).summary.filesWithErrors =
        paths.countP (fun path => (keptOf path).any Event.isError) ∧
      (run calls).summary.filesWithWarnings = paths.countP fun path =>
        !(keptOf path).any Event.isError && (keptOf path).any Event.isWarning := by
  have keeps := keeps_run calls
  generalize run calls = collector at keeps
  refine ⟨fun path => by rw [keeps.eventsOf, kept], rfl, collector.files.map (·.path), ?_, ?_, ?_⟩
  · rw [List.pairwise_map]
    exact keeps.sorted
  · intro path
    rw [keeps.covers]
    simp [Path.same_iff]
  intro keptOf
  have errors {file : FileEvents} (listed : file ∈ collector.files) :
      (keptOf file.path).countP Event.isError = file.errorCount := by
    rw [keeps.errorCount listed, ← keeps.eventsOf]
  have warnings {file : FileEvents} (listed : file ∈ collector.files) :
      (keptOf file.path).countP Event.isWarning = file.warningCount := by
    rw [keeps.warningCount listed, ← keeps.eventsOf]
  refine ⟨?_, ?_, ?_, ?_⟩
  · show (collector.files.map errorCount).foldl (· + ·) 0 = _
    rw [← List.sum_eq_foldl, List.map_map]
    exact congrArg _ (List.map_congr_left fun file listed => (errors listed).symm)
  · show (collector.files.map warningCount).foldl (· + ·) 0 = _
    rw [← List.sum_eq_foldl, List.map_map]
    exact congrArg _ (List.map_congr_left fun file listed => (warnings listed).symm)
  · rw [summary, List.countP_map]
    refine List.countP_congr fun file listed => ?_
    rw [← errors listed]
    simp
  · rw [summary, List.countP_map]
    refine List.countP_congr fun file listed => ?_
    rw [← errors listed, ← warnings listed]
    simp

end Collector
end Stencil
