import Stencil.Batch.Discovery
import Stencil.Proofs.Files.Paths
/-!
# Which files are found

What a batch finds in a directory is told by the names that lead to files (`Selection.Finds`). The
files found are all of these, each once and in path order, whatever order the system lists entries
in (`Selection.discover_files`). A file is passed over if its path is too long for the system to
follow, and slashes are enough for that (`Selection.discover_long_path`).
-/

namespace Stencil

namespace Entry

/-- A tree as a system keeps one, without links: the entries of a directory have names, no two the
same. -/
inductive Plain : Entry → Prop
  | file (content : ByteArray) (modified : Nat) : Plain (.file content modified)
  | directory {entries : List (String × Entry)} (named : ∀ child ∈ entries, IsName child.1)
      (distinct : (entries.map (·.1)).Nodup) (plain : ∀ child ∈ entries, child.2.Plain) :
      Plain (.directory entries)

variable {entries : List (String × Entry)} {tree entry : Entry} {name : String}
  {names : List String} {content : ByteArray} {modified : Nat}

/-- Where names are distinct, each leads to the entry that has it. -/
theorem child?_eq_some_iff (distinct : (entries.map (·.1)).Nodup) :
    (directory entries).child? name = some entry ↔ (name, entry) ∈ entries := by
  rw [child?]
  induction entries with
  | nil => simp
  | cons child rest ih =>
    obtain ⟨other, first⟩ := child
    rw [List.map_cons, List.nodup_cons] at distinct
    by_cases same : other = name
    · subst same
      have elsewhere : (other, entry) ∉ rest := fun member =>
        distinct.1 (List.mem_map.2 ⟨_, member, rfl⟩)
      simp [elsewhere, eq_comm]
    · rw [List.find?_cons_of_neg (by simpa using same), ih distinct.2, List.mem_cons]
      simp [Ne.symm same]

/-- The first name leads to an entry from which the others lead on. -/
theorem descend?_cons (tree : Entry) (name : String) (names : List String) :
    tree.descend? (name :: names) = (tree.child? name).bind fun child => child.descend? names :=
  rfl

/-- What is in a plain tree is plain. -/
theorem Plain.descend? (plain : tree.Plain) (leads : tree.descend? names = some entry) :
    entry.Plain := by
  induction names generalizing tree with
  | nil => exact Option.some.inj leads ▸ plain
  | cons name rest ih =>
    rw [descend?_cons, Option.bind_eq_some_iff] at leads
    obtain ⟨child, there, leads⟩ := leads
    cases plain with
    | file content modified => exact nomatch there
    | directory named distinct plain =>
      exact ih (plain _ ((child?_eq_some_iff distinct).1 there)) leads

/-- In a plain tree no name leads to a link. -/
theorem Plain.child?_ne_link (plain : tree.Plain) (name : String) (target : Path) :
    tree.child? name ≠ some (.link target) := by
  intro same
  have leads : tree.descend? [name] = some (.link target) := by rw [descend?_cons, same]; rfl
  exact nomatch plain.descend? leads

/-- Names that lead somewhere in a plain tree are ones that entries can have. -/
theorem Plain.isName (plain : tree.Plain) (leads : tree.descend? names = some entry) :
    ∀ name ∈ names, IsName name := by
  induction names generalizing tree with
  | nil => exact fun _ => nofun
  | cons name rest ih =>
    rw [descend?_cons, Option.bind_eq_some_iff] at leads
    obtain ⟨child, there, leads⟩ := leads
    cases plain with
    | file content modified => exact nomatch there
    | directory named distinct plain =>
      have member := (child?_eq_some_iff distinct).1 there
      exact List.forall_mem_cons.2 ⟨named _ member, ih (plain _ member) leads⟩

end Entry

/-- Only a path that the system follows leads to an entry. -/
theorem FileSystem.refusal?_of_found {files : FileSystem} {path : Path} {entry : Entry}
    (there : files.entry? path = some entry) : refusal? path = none := by
  rw [FileSystem.entry?, locate] at there
  cases refused : refusal? path with
  | none => rfl
  | some fault =>
    rw [refused] at there
    cases there

namespace Selection

variable {selection : Selection} {files : FileSystem} {path directory found : Path}
  {entry tree : Entry} {entries : List (String × Entry)} {names : List String}
  {paths : List Path}

/-- A name has one of the wanted extensions, up to the case of ASCII letters. -/
def WantsName (selection : Selection) (name : String) : Prop :=
  ∃ extension wanted, Path.extensionOf? name = some extension ∧ wanted ∈ selection.extensions ∧
    sameLetters extension wanted = true

/-- Names lead from a directory to a file of a wanted extension, at a level that is searched and by
a path that the system follows: neither it nor a name in it is too long. -/
structure Finds (selection : Selection) (directory : Path) (tree : Entry) (names : List String) :
    Prop where
  file : ∃ content modified, tree.descend? names = some (.file content modified)
  wanted : ∃ name ∈ names.getLast?, selection.WantsName name
  level : selection.isRecursive = true ∨ names.length = 1
  short : (directory.under names).text.utf8ByteSize ≤ FileSystem.maxPathSize
  brief : ∀ name ∈ names, name.utf8ByteSize ≤ FileSystem.maxNameSize

/-- Names lead from an entry with a path to a file with a path that the system follows. -/
structure Reaches (path : Path) (entry : Entry) (names : List String) (found : Path) : Prop where
  file : ∃ content modified, entry.descend? names = some (.file content modified)
  short : found.text.utf8ByteSize ≤ FileSystem.maxPathSize
  brief : ∀ name ∈ names, name.utf8ByteSize ≤ FileSystem.maxNameSize
  path : found = path.under names

mutual

/-- The wanted files of an entry with a path, told by the tree alone. -/
def ofEntry (selection : Selection) (path : Path) : Entry → List Path
  | .file .. => if selection.wants path then [path] else []
  | .directory entries => if selection.isRecursive then ofEntries selection path entries else []
  | .link _ => []

/-- The wanted files of the entries of a directory, told by the tree alone. -/
def ofEntries (selection : Selection) (directory : Path) : List (String × Entry) → List Path
  | [] => []
  | (name, entry) :: rest =>
    (if FileSystem.Enters directory name then ofEntry selection (directory.join name) entry
      else []) ++ ofEntries selection directory rest

end

/-- A selection wants a path that ends in a name with a wanted extension. -/
theorem wants_iff : selection.wants path = true ↔
    ∃ name, path.fileName? = some name ∧ selection.WantsName name := by
  simp only [wants, Path.extension?, Option.any_eq_true, Option.bind_eq_some_iff, List.any_eq_true,
    WantsName]
  grind

/-- The wanted files of a directory are those of its entries that the system follows. -/
theorem ofEntries_eq_flatMap (selection : Selection) (directory : Path)
    (entries : List (String × Entry)) :
    selection.ofEntries directory entries = entries.flatMap fun child =>
      if FileSystem.Enters directory child.1 then
        selection.ofEntry (directory.join child.1) child.2
      else [] := by
  induction entries with
  | nil => rfl
  | cons child rest ih => rw [ofEntries, ih, List.flatMap_cons]

/-- A wanted file of a directory is one of an entry that the system follows. -/
theorem mem_ofEntries_iff : found ∈ selection.ofEntries directory entries ↔
    ∃ child ∈ entries, FileSystem.Enters directory child.1 ∧
      found ∈ selection.ofEntry (directory.join child.1) child.2 := by
  rw [ofEntries_eq_flatMap, List.mem_flatMap]
  refine exists_congr fun child => and_congr_right fun _ => ?_
  split_ifs with followed <;> simp_all

/-- What names reach from a directory they reach from the entry of the first of them. -/
theorem reaches_directory_iff (plain : (Entry.directory entries).Plain)
    (followed : FileSystem.refusal? directory = none) :
    Reaches directory (.directory entries) names found ↔
      ∃ child ∈ entries, FileSystem.Enters directory child.1 ∧
        ∃ rest, names = child.1 :: rest ∧
          Reaches (directory.join child.1) child.2 rest found := by
  cases plain with
  | directory named distinct plain =>
  constructor
  · rintro ⟨⟨content, modified, leads⟩, short, brief, rfl⟩
    cases names with
    | nil => exact nomatch leads
    | cons name rest =>
      obtain ⟨first, others⟩ := List.forall_mem_cons.1 brief
      rw [Entry.descend?_cons, Option.bind_eq_some_iff] at leads
      obtain ⟨child, there, leads⟩ := leads
      have member := (Entry.child?_eq_some_iff distinct).1 there
      have goes : FileSystem.refusal? (directory.join name) = none :=
        (FileSystem.refusal?_join_eq_none_iff (named _ member) followed).2
          ((Path.size_le_under _ rest).trans short)
      exact ⟨(name, child), member, ⟨goes, first⟩, rest, rfl, ⟨content, modified, leads⟩, short,
        others, rfl⟩
  · rintro ⟨child, member, enters, rest, rfl, ⟨content, modified, leads⟩, short, brief, rfl⟩
    refine ⟨⟨content, modified, ?_⟩, short, List.forall_mem_cons.2 ⟨enters.2, brief⟩, rfl⟩
    rw [Entry.descend?_cons, (Entry.child?_eq_some_iff distinct).2 member]
    exact leads

/-- The wanted files of an entry are those that names reach, one level deep at most unless
directories inside are searched. -/
theorem mem_ofEntry_iff (plain : entry.Plain) (followed : FileSystem.refusal? path = none) :
    found ∈ selection.ofEntry path entry ↔ selection.wants found = true ∧
      ∃ names, Reaches path entry names found ∧ (selection.isRecursive = true ∨ names = []) := by
  induction plain generalizing path with
  | file content modified =>
    have whole := (FileSystem.refusal?_eq_none_iff.1 followed).2.2
    rw [ofEntry]
    constructor
    · intro listed
      split_ifs at listed with wanted
      · obtain rfl := List.mem_singleton.1 listed
        exact ⟨wanted, [], ⟨⟨content, modified, rfl⟩, whole, fun _ => nofun, rfl⟩, .inr rfl⟩
      · exact nomatch listed
    · rintro ⟨wanted, names, ⟨⟨_, _, leads⟩, -, -, rfl⟩, -⟩
      cases names with
      | nil => exact (if_pos wanted).symm ▸ List.mem_singleton_self path
      | cons name rest => exact nomatch leads
  | directory named distinct plain ih =>
    rw [ofEntry]
    split_ifs with recursive
    · rw [mem_ofEntries_iff]
      simp only [reaches_directory_iff (.directory named distinct plain) followed, recursive,
        true_or, and_true]
      constructor
      · rintro ⟨child, member, enters, listed⟩
        obtain ⟨wanted, rest, reached, -⟩ := (ih child member enters.1).1 listed
        exact ⟨wanted, _, child, member, enters, rest, rfl, reached⟩
      · rintro ⟨wanted, _, child, member, enters, rest, rfl, reached⟩
        exact ⟨child, member, enters,
          (ih child member enters.1).2 ⟨wanted, rest, reached, .inl recursive⟩⟩
    · constructor
      · exact nofun
      · rintro ⟨-, names, ⟨⟨_, _, leads⟩, -, -, -⟩, deep⟩
        obtain rfl := deep.resolve_left recursive
        exact nomatch leads

/-- What is told of a tree by following paths is told by the tree alone, as long as there are levels
for all paths that are short enough. -/
theorem visit_eq_ofEntries {levels : Nat} (plain : entry.Plain)
    (leads : files.entry? path = some entry)
    (enough : FileSystem.maxPathSize < path.text.utf8ByteSize + levels) :
    ∀ entries, entry = .directory entries →
      selection.visit files levels path = selection.ofEntries path entries := by
  induction plain generalizing path levels with
  | file content modified => exact fun _ => nofun
  | @directory entries named distinct plain ih =>
    rintro _ ⟨rfl⟩
    have short := (FileSystem.refusal?_eq_none_iff.1 (FileSystem.refusal?_of_found leads)).2.2
    obtain ⟨levels, rfl⟩ : ∃ fewer, levels = fewer + 1 := ⟨levels - 1, by omega⟩
    have names : files.namesIn path = entries.map (·.1) := by rw [FileSystem.namesIn, leads]
    rw [visit, names, List.flatMap_map, ofEntries_eq_flatMap]
    refine List.flatMap_congr fun ⟨name, inner⟩ member => ?_
    have here : (Entry.directory entries).child? name = some inner :=
      (Entry.child?_eq_some_iff distinct).2 member
    have longer : path.text.utf8ByteSize < (path.join name).text.utf8ByteSize :=
      path.size_lt_join (named _ member)
    have whole : (Entry.directory entries).Plain := .directory named distinct plain
    have joined := FileSystem.entry?_join leads (named _ member) (whole.child?_ne_link name)
    rw [here] at joined
    by_cases enters : FileSystem.Enters path name
    · rw [if_pos enters] at joined
      have deeper := @ih _ member (path.join name) levels joined (by omega)
      rw [if_pos enters]
      simp only [joined]
      cases inner with
      | file content modified => rw [ofEntry]
      | directory entries => rw [ofEntry, deeper entries rfl]
      | link target => rw [ofEntry]
    · rw [if_neg enters] at joined
      rw [if_neg enters]
      simp only [joined]

/-- The files listed in a directory are those that names lead to. -/
theorem mem_listed_iff (leads : files.entry? directory = some (.directory entries))
    (plain : (Entry.directory entries).Plain) :
    found ∈ selection.listed files directory ↔
      ∃ names, selection.Finds directory (.directory entries) names ∧
        found = directory.under names := by
  have followed := FileSystem.refusal?_of_found leads
  have reached (names : List String) : Reaches directory (.directory entries) names found ↔ _ :=
    reaches_directory_iff plain followed
  rw [listed, visit_eq_ofEntries plain leads (by omega) entries rfl, mem_ofEntries_iff]
  cases plain with
  | directory named distinct plain =>
  have entryFiles {child} (member : child ∈ entries)
      (enters : FileSystem.Enters directory child.1) :
      found ∈ selection.ofEntry (directory.join child.1) child.2 ↔ _ :=
    mem_ofEntry_iff (plain child member) enters.1
  have whole : (Entry.directory entries).Plain := .directory named distinct plain
  constructor
  · rintro ⟨child, member, enters, listed⟩
    obtain ⟨wanted, rest, reaches, level⟩ := (entryFiles member enters).1 listed
    obtain ⟨file, short, brief, rfl⟩ := (reached _).2 ⟨child, member, enters, rest, rfl, reaches⟩
    obtain ⟨_, _, leads⟩ := file
    rw [wants_iff, Path.fileName?_under (whole.isName leads) (List.cons_ne_nil _ _)] at wanted
    exact ⟨_, ⟨⟨_, _, leads⟩, wanted, level.imp_right fun none => by rw [none]; rfl, short, brief⟩,
      rfl⟩
  · rintro ⟨names, ⟨⟨_, _, leads⟩, wanted, level, short, brief⟩, rfl⟩
    obtain ⟨child, member, enters, rest, rfl, reaches⟩ :=
      (reached names).1 ⟨⟨_, _, leads⟩, short, brief, rfl⟩
    refine ⟨child, member, enters, (entryFiles member enters).2 ⟨?_, rest, reaches, ?_⟩⟩
    · rw [wants_iff, Path.fileName?_under (whole.isName leads) (List.cons_ne_nil _ _)]
      exact wanted
    · exact level.imp_right fun one => List.length_eq_zero_iff.1 (Nat.succ.inj one)

/-- The wanted files of an entry are beneath its path. -/
theorem components_prefix (plain : entry.Plain) (followed : FileSystem.refusal? path = none)
    (listed : found ∈ selection.ofEntry path entry) : path.components <+: found.components := by
  obtain ⟨-, names, ⟨⟨_, _, leads⟩, -, -, rfl⟩, -⟩ := (mem_ofEntry_iff plain followed).1 listed
  exact ⟨_, (Path.components_under (plain.isName leads)).symm⟩

/-- No two paths in a list have the same components. -/
def Apart (paths : List Path) : Prop := paths.Pairwise fun a b => a.components ≠ b.components

/-- Entries of different names have files of different paths. -/
theorem apart_ofEntries (plain : (Entry.directory entries).Plain)
    (inside : ∀ child ∈ entries, ∀ path, Apart (selection.ofEntry path child.2)) :
    Apart (selection.ofEntries directory entries) := by
  cases plain with
  | directory named distinct plain =>
  rw [Apart, ofEntries_eq_flatMap, List.pairwise_flatMap]
  constructor
  · intro child member
    split_ifs
    · exact inside child member _
    · exact .nil
  · refine (List.pairwise_map.1 distinct).imp_of_mem ?_
    intro one other here there differ a listed b relisted same
    have begins : ∀ child ∈ entries, ∀ found, found ∈ (
        if FileSystem.Enters directory child.1 then
          selection.ofEntry (directory.join child.1) child.2 else []) →
        directory.components ++ [.name child.1] <+: found.components := by
      intro child member found listed
      split_ifs at listed with enters
      · rw [← Path.components_join (named child member)]
        exact components_prefix (plain child member) enters.1 listed
      · exact nomatch listed
    have first := begins one here a listed
    have second := begins other there b relisted
    rw [← same] at second
    have equal := (List.prefix_of_prefix_length_le first second (by simp)).eq_of_length (by simp)
    simp only [List.append_cancel_left_eq, List.cons.injEq, Component.name.injEq, and_true]
      at equal
    exact differ equal

/-- An entry is listed with no path twice. -/
theorem apart_ofEntry (plain : entry.Plain) (path : Path) :
    Apart (selection.ofEntry path entry) := by
  induction plain generalizing path with
  | file content modified =>
    rw [ofEntry]
    split_ifs
    · exact List.pairwise_singleton ..
    · exact .nil
  | directory named distinct plain ih =>
    rw [ofEntry]
    split_ifs
    · exact apart_ofEntries (.directory named distinct plain) ih
    · exact .nil

/-- A directory has no path listed twice. -/
theorem apart_listed (leads : files.entry? directory = some (.directory entries))
    (plain : (Entry.directory entries).Plain) : Apart (selection.listed files directory) := by
  rw [listed, visit_eq_ofEntries plain leads (by omega) entries rfl]
  cases plain with
  | directory named distinct plain =>
  exact apart_ofEntries (.directory named distinct plain) fun child member =>
    apart_ofEntry (plain child member)

/-- Sorting keeps the paths. -/
theorem mem_sorted : found ∈ sorted paths ↔ found ∈ paths := (List.mergeSort_perm ..).mem_iff

/-- Sorting keeps the number of paths. -/
theorem length_sorted (paths : List Path) : (sorted paths).length = paths.length :=
  (List.mergeSort_perm ..).length_eq

/-- Paths of different components come one before the other when they are sorted. -/
theorem sorted_pairwise (apart : Apart paths) :
    (sorted paths).Pairwise fun a b => a.order b = .lt := by
  have follows (a b c : Path) (first : decide (a.order b ≠ .gt) = true)
      (second : decide (b.order c ≠ .gt) = true) : decide (a.order c ≠ .gt) = true :=
    decide_eq_true (Path.order_ne_gt_trans (of_decide_eq_true first) (of_decide_eq_true second))
  have either (a b : Path) : (decide (a.order b ≠ .gt) || decide (b.order a ≠ .gt)) = true := by
    rw [Bool.or_eq_true, decide_eq_true_iff, decide_eq_true_iff]
    exact a.order_ne_gt_total b
  have ordered := List.pairwise_mergeSort follows either paths
  have still : Apart (sorted paths) :=
    (List.mergeSort_perm ..).symm.pairwise apart fun differ => Ne.symm differ
  exact (ordered.and still).imp fun both => Path.order_eq_lt (of_decide_eq_true both.1) both.2

/-- Of few enough paths the batch takes the first in order. -/
theorem choose_of_few (few : paths.length ≤ Limits.maxFilesPerBatch) :
    (selection.choose directory paths).1 =
      if paths = [] then .error (.noFilesFound directory.text)
      else .ok ((sorted paths).take (selection.maxFiles.getD paths.length)) := by
  rw [choose, List.getElem?_eq_none few]
  dsimp only
  by_cases empty : paths = []
  · rw [if_pos empty, if_pos (by rw [empty]; rfl)]
  · rw [if_neg empty, if_neg (by simpa using empty)]

/-- In a directory the batch chooses among the files listed. -/
theorem discover_eq_choose (leads : files.entry? directory = some (.directory entries)) :
    (selection.discover files directory).1 =
      (selection.choose directory (selection.listed files directory)).1 := by
  have isDirectory : files.isDirectory directory = true := by
    rw [FileSystem.isDirectory, leads]
    rfl
  rw [discover, if_pos isDirectory]

/-- A directory that holds few enough wanted files has few enough of them listed. -/
theorem length_listed_le (leads : files.entry? directory = some (.directory entries))
    (plain : (Entry.directory entries).Plain)
    (all : ∀ names, selection.Finds directory (.directory entries) names →
      directory.under names ∈ paths) :
    (selection.listed files directory).length ≤ paths.length := by
  have nodup : (selection.listed files directory).Nodup :=
    (apart_listed leads plain).imp fun differ same => differ (congrArg Path.components same)
  refine (List.subperm_of_subset nodup fun path listed => ?_).length_le
  obtain ⟨names, finds, rfl⟩ := (mem_listed_iff leads plain).1 listed
  exact all names finds

/-- Paths are the wanted files of a directory, in order and each once. -/
structure AreFiles (selection : Selection) (directory : Path) (tree : Entry)
    (found : List Path) : Prop where
  ordered : found.Pairwise fun a b => a.order b = .lt
  mem_iff : ∀ path, path ∈ found ↔
    ∃ names, selection.Finds directory tree names ∧ path = directory.under names

/-- What a batch takes of paths in order, or the fault that there are none. -/
def cut (selection : Selection) (directory : Path) (found : List Path) :
    Except BatchFault (List Path) :=
  if found = [] then .error (.noFilesFound directory.text)
  else .ok (found.take (selection.maxFiles.getD found.length))

/-- Of a plain tree with few enough files a batch takes the wanted ones, in order. -/
theorem discover_of_plain (there : files.entry? directory = some (.directory entries))
    (plain : (Entry.directory entries).Plain) (few : paths.length ≤ Limits.maxFilesPerBatch)
    (all : ∀ names, selection.Finds directory (.directory entries) names →
      directory.under names ∈ paths) :
    ∃ found, selection.AreFiles directory (.directory entries) found ∧
      (selection.discover files directory).1 = selection.cut directory found := by
  have listedFew := (length_listed_le there plain all).trans few
  refine ⟨sorted (selection.listed files directory),
    ⟨sorted_pairwise (apart_listed there plain), fun path =>
      mem_sorted.trans (mem_listed_iff there plain)⟩, ?_⟩
  have none : sorted (selection.listed files directory) = [] ↔
      selection.listed files directory = [] := by
    rw [← List.length_eq_zero_iff, length_sorted, List.length_eq_zero_iff]
  rw [discover_eq_choose there, choose_of_few listedFew, cut, length_sorted]
  simp only [none]

/-- The files found in a plain tree are the wanted ones, each once and in path order, of which the
batch takes as many as it wants, and there is a fault exactly if there are none. Trees that hold the
same files give the same, so that the order their entries are listed in makes no difference. -/
theorem discover_files (selection : Selection) (files : FileSystem) (directory : Path)
    (entries : List (String × Entry))
    (there : files.entry? directory = some (.directory entries))
    (plain : (Entry.directory entries).Plain)
    (few : ∃ paths : List Path, paths.length ≤ Limits.maxFilesPerBatch ∧
      ∀ names, selection.Finds directory (.directory entries) names →
        directory.under names ∈ paths) :
    (∃ found : List Path, found.Pairwise (fun a b => a.order b = .lt) ∧
      (∀ path, path ∈ found ↔ ∃ names,
        selection.Finds directory (.directory entries) names ∧ path = directory.under names) ∧
      (selection.discover files directory).1 =
        if found = [] then .error (.noFilesFound directory.text)
        else .ok (found.take (selection.maxFiles.getD found.length))) ∧
    ∀ (others : FileSystem) (relisted : List (String × Entry)),
      others.entry? directory = some (.directory relisted) → (Entry.directory relisted).Plain →
      (∀ names content modified,
        (Entry.directory relisted).descend? names = some (.file content modified) ↔
          (Entry.directory entries).descend? names = some (.file content modified)) →
      (selection.discover others directory).1 = (selection.discover files directory).1 := by
  obtain ⟨paths, few, all⟩ := few
  obtain ⟨found, known, result⟩ := discover_of_plain there plain few all
  refine ⟨⟨found, known.ordered, known.mem_iff, result⟩, ?_⟩
  intro others relisted thereToo plainToo same
  have finds_iff (names : List String) : selection.Finds directory (.directory relisted) names ↔
      selection.Finds directory (.directory entries) names := by
    constructor <;> rintro ⟨⟨content, modified, leads⟩, wanted, level, short, brief⟩
    · exact ⟨⟨content, modified, (same ..).1 leads⟩, wanted, level, short, brief⟩
    · exact ⟨⟨content, modified, (same ..).2 leads⟩, wanted, level, short, brief⟩
  obtain ⟨again, knownToo, resultToo⟩ := discover_of_plain thereToo plainToo few fun names finds =>
    all names ((finds_iff names).1 finds)
  have equal : again = found := Path.eq_of_mem_iff knownToo.ordered known.ordered fun path => by
    rw [knownToo.mem_iff, known.mem_iff]
    simp only [finds_iff]
  rw [resultToo, result, equal]

/-! ### Several files -/

/-- Letters are compared character by character. -/
theorem sameLetters_eq (text : String) : sameLetters text = fun other =>
    decide (text.toList.map Char.toLower = other.toList.map Char.toLower) :=
  funext fun other => decide_eq_decide.2 <| by
    rw [← String.toList_inj, String.toList_map, String.toList_map]

/-- A path of a name in a directory is wanted for the extension of the name. -/
theorem wants_join {name : String} (named : Entry.IsName name) (directory : Path) :
    selection.wants (directory.join name) = (Path.extensionOf? name).any fun extension =>
      selection.extensions.any fun wanted =>
        decide (extension.toList.map Char.toLower = wanted.toList.map Char.toLower) := by
  rw [wants, Path.extension?, Path.fileName?, Path.components_join named, List.getLast?_concat]
  simp only [sameLetters_eq]
  rfl

/-- The entries of a directory: three files of wanted extensions, one of them deeper, and another
file. -/
def mixedEntries : List (String × Entry) :=
  [("s", .directory [("c.J2", .file .empty 0)]), ("notes.md", .file .empty 0),
    ("b.j2", .file .empty 0), ("a.txt", .file .empty 0)]

/-- A system with only such a directory. -/
def mixedFiles (entries : List (String × Entry)) : FileSystem :=
  ⟨.directory [("d", .directory entries)], []⟩

/-- The directory is where its name leads. -/
theorem leads_mixedFiles (entries : List (String × Entry)) :
    FileSystem.entry? (mixedFiles entries) ⟨"d"⟩ = some (.directory entries) := by
  have located : (mixedFiles entries).locate ⟨"d"⟩ = .ok ["d"] :=
    FileSystem.locate_of_walk (by decide) (splitOn_of_no_slash (by decide)) rfl
  exact FileSystem.entry?_eq_some_iff.2 ⟨["d"], located, rfl⟩

/-- The names in it are ones that entries can have. -/
theorem isName_mixed : ∀ name ∈ ["s", "c.J2", "notes.md", "b.j2", "a.txt"], Entry.IsName name := by
  simp only [List.forall_mem_cons, List.not_mem_nil, false_imp_iff, forall_const, and_true]
  refine ⟨?_, ?_, ?_, ?_, ?_⟩
  all_goals exact ⟨by decide, by decide, by simp, by decide, by decide⟩

/-- It is a plain tree, whatever order its entries are listed in. -/
theorem plain_mixedEntries (listed : List (String × Entry)) (same : listed.Perm mixedEntries) :
    (Entry.directory listed).Plain := by
  have inner : (Entry.directory [("c.J2", .file .empty 0)]).Plain := by
    refine .directory (fun child member => ?_) (by decide) (fun child member => ?_)
    all_goals obtain rfl := List.mem_singleton.1 member
    · exact isName_mixed _ (by decide)
    · exact .file ..
  have distinct : (mixedEntries.map (·.1)).Nodup := by decide
  refine .directory (fun child member => ?_) ((same.map _).nodup_iff.2 distinct)
    (fun child member => ?_)
  all_goals
    rw [same.mem_iff] at member
    simp only [mixedEntries, List.mem_cons, List.not_mem_nil, or_false] at member
  · rcases member with rfl | rfl | rfl | rfl
    all_goals exact isName_mixed _ (by decide)
  · rcases member with rfl | rfl | rfl | rfl
    · exact inner
    all_goals exact .file ..

/-- A selection of two files at most. -/
def firstTwo : Selection := { maxFiles := some 2 }

/-- How their paths are written. -/
theorem join_mixed : Path.join ⟨"d"⟩ "s" = ⟨"d/s"⟩ ∧ Path.join ⟨"d/s"⟩ "c.J2" = ⟨"d/s/c.J2"⟩ ∧
    Path.join ⟨"d"⟩ "b.j2" = ⟨"d/b.j2"⟩ ∧ Path.join ⟨"d"⟩ "a.txt" = ⟨"d/a.txt"⟩ := by
  refine ⟨?_, ?_, ?_, ?_⟩
  all_goals exact Path.join_eq_of_bare (by decide) (by decide) (by decide)

/-- The wanted files, as they are listed. -/
theorem listed_mixedFiles : firstTwo.listed (mixedFiles mixedEntries) ⟨"d"⟩ =
    [⟨"d/s/c.J2"⟩, ⟨"d/b.j2"⟩, ⟨"d/a.txt"⟩] := by
  have wanted (directory : Path) : firstTwo.wants (directory.join "c.J2") = true ∧
      firstTwo.wants (directory.join "notes.md") = false ∧
      firstTwo.wants (directory.join "b.j2") = true ∧
      firstTwo.wants (directory.join "a.txt") = true := by
    rw [wants_join (isName_mixed _ (by decide)), wants_join (isName_mixed _ (by decide)),
      wants_join (isName_mixed _ (by decide)), wants_join (isName_mixed _ (by decide))]
    decide
  have outer (name : String) (listed : name ∈ ["s", "c.J2", "notes.md", "b.j2", "a.txt"]) :
      FileSystem.Enters ⟨"d"⟩ name := by
    refine FileSystem.enters_of_short (isName_mixed _ listed) (by decide) ?_ ?_
    all_goals
      revert name
      decide
  have inner : FileSystem.Enters ⟨"d/s"⟩ "c.J2" :=
    FileSystem.enters_of_short (isName_mixed _ (by decide)) (by decide) (by decide) (by decide)
  simp only [List.forall_mem_cons] at outer
  have recursive : firstTwo.isRecursive = true := rfl
  rw [listed, visit_eq_ofEntries (plain_mixedEntries _ (.refl _)) (leads_mixedFiles _) (by omega) _
    rfl]
  simp only [mixedEntries, ofEntries, ofEntry, wanted, recursive, if_true]
  simp only [join_mixed, outer, inner, if_true]
  rfl

/-- The wanted files in path order. -/
theorem ordered_mixedFiles : ([⟨"d/a.txt"⟩, ⟨"d/b.j2"⟩, ⟨"d/s/c.J2"⟩] : List Path).Pairwise
    fun a b => a.order b = .lt := by
  have directory : Entry.IsName "d" := ⟨by decide, by decide, by simp, by decide, by decide⟩
  have components (names : List String)
      (named : ∀ name ∈ names, name ∈ ["s", "c.J2", "notes.md", "b.j2", "a.txt"]) :
      (Path.under ⟨"d"⟩ names).components = .name "d" :: names.map .name := by
    rw [Path.components_under fun name member => isName_mixed name (named name member),
      Path.components_name directory]
    rfl
  have first := components ["a.txt"] (by decide)
  have second := components ["b.j2"] (by decide)
  have third := components ["s", "c.J2"] (by decide)
  have paths : Path.under ⟨"d"⟩ ["a.txt"] = ⟨"d/a.txt"⟩ ∧ Path.under ⟨"d"⟩ ["b.j2"] = ⟨"d/b.j2"⟩ ∧
      Path.under ⟨"d"⟩ ["s", "c.J2"] = ⟨"d/s/c.J2"⟩ := by
    simp only [Path.under, List.foldl_cons, List.foldl_nil, join_mixed, and_self]
  rw [paths.1] at first
  rw [paths.2.1] at second
  rw [paths.2.2] at third
  simp only [List.pairwise_cons, List.forall_mem_cons, Path.order, first, second, third]
  decide

/-- The first two files are the first in path order, whatever order the system lists them in, and
one of a deeper level is left out. -/
theorem discover_files_mixed :
    FileSystem.entry? (mixedFiles mixedEntries) ⟨"d"⟩ = some (.directory mixedEntries) ∧
    (Entry.directory mixedEntries).Plain ∧
    (∃ paths : List Path, paths.length ≤ Limits.maxFilesPerBatch ∧
      ∀ names, firstTwo.Finds ⟨"d"⟩ (.directory mixedEntries) names →
        Path.under ⟨"d"⟩ names ∈ paths) ∧
    ∀ relisted : List (String × Entry), relisted.Perm mixedEntries →
      (firstTwo.discover (mixedFiles relisted) ⟨"d"⟩).1 = .ok [⟨"d/a.txt"⟩, ⟨"d/b.j2"⟩] := by
  have there := leads_mixedFiles mixedEntries
  have plain := plain_mixedEntries _ (.refl _)
  have few : ∃ paths : List Path, paths.length ≤ Limits.maxFilesPerBatch ∧
      ∀ names, firstTwo.Finds ⟨"d"⟩ (.directory mixedEntries) names →
        Path.under ⟨"d"⟩ names ∈ paths := by
    refine ⟨[⟨"d/s/c.J2"⟩, ⟨"d/b.j2"⟩, ⟨"d/a.txt"⟩], by decide, fun names finds => ?_⟩
    rw [← listed_mixedFiles, mem_listed_iff there plain]
    exact ⟨names, finds, rfl⟩
  obtain ⟨⟨found, ordered, mem_iff, result⟩, others⟩ :=
    discover_files firstTwo (mixedFiles mixedEntries) ⟨"d"⟩ mixedEntries there plain few
  have all : found = [⟨"d/a.txt"⟩, ⟨"d/b.j2"⟩, ⟨"d/s/c.J2"⟩] := by
    refine Path.eq_of_mem_iff ordered ordered_mixedFiles fun path => ?_
    rw [mem_iff, ← mem_listed_iff there plain, listed_mixedFiles]
    simp only [List.mem_cons, List.not_mem_nil, or_false]
    tauto
  refine ⟨there, plain, few, fun relisted same => ?_⟩
  have distinct : (mixedEntries.map (·.1)).Nodup := by decide
  have child (name : String) :
      (Entry.directory relisted).child? name = (Entry.directory mixedEntries).child? name := by
    refine Option.ext fun entry => ?_
    rw [Entry.child?_eq_some_iff ((same.map _).nodup_iff.2 distinct),
      Entry.child?_eq_some_iff distinct, same.mem_iff]
  have leads (names : List String) (content : ByteArray) (modified : Nat) :
      (Entry.directory relisted).descend? names = some (.file content modified) ↔
        (Entry.directory mixedEntries).descend? names = some (.file content modified) := by
    cases names with
    | nil => exact iff_of_false nofun nofun
    | cons name rest => rw [Entry.descend?_cons, Entry.descend?_cons, child]
  rw [others _ _ (leads_mixedFiles relisted) (plain_mixedEntries _ same) leads, result, all]
  rfl

/-! ### Long paths -/

/-- A system with one file, in a directory. -/
def oneFile : FileSystem :=
  ⟨.directory [("d", .directory [("a.j2", .file .empty 0)])], []⟩

/-- The path of its directory, with so many slashes at the end. -/
def slashed (count : Nat) : Path := ⟨"d" ++ String.ofList (List.replicate count '/')⟩

/-- Each slash at the end ends a segment, and an empty one is left. -/
theorem splitOn_slashed (count : Nat) :
    (slashed count).text.splitOn "/" = "d" :: List.replicate count "" := by
  induction count with
  | zero => exact splitOn_of_no_slash (by decide)
  | succ count ih =>
    have longer : (slashed (count + 1)).text = (slashed count).text ++ "/" ++ "" := by
      simp [slashed, List.replicate_succ', String.append_assoc]
    rw [longer, splitOn_append_slash, ih, splitOn_of_no_slash (by simp), List.cons_append,
      List.replicate_succ']

/-- Each slash is a byte. -/
theorem size_slashed (count : Nat) : (slashed count).text.utf8ByteSize = count + 1 := by
  induction count with
  | zero => decide
  | succ count ih =>
    have longer : (slashed (count + 1)).text = (slashed count).text ++ "/" := by
      simp [slashed, List.replicate_succ', String.append_assoc]
    rw [longer, String.utf8ByteSize_append, ih]
    rfl

/-- Slashes at the end lead nowhere else. -/
theorem leads_slashed {count : Nat} (short : count < FileSystem.maxPathSize) :
    oneFile.entry? (slashed count) = some (.directory [("a.j2", .file .empty 0)]) := by
  have followed : FileSystem.refusal? (slashed count) = none := by
    refine FileSystem.refusal?_eq_none_iff.2 ⟨?_, by simp [slashed], by rwa [size_slashed]⟩
    simp [slashed]
  have starts : oneFile.start (slashed count) = [] := by
    simp [FileSystem.start, FileSystem.startFrom, Path.isAbsolute, slashed, oneFile]
  have stays (more : Nat) :
      oneFile.walk ["d"] (List.replicate more "") = .ok (["d"], none) := by
    induction more with
    | zero => rfl
    | succ more ih => exact ih
  have walked : oneFile.walk [] ("d" :: List.replicate count "") = .ok (["d"], none) :=
    stays count
  refine FileSystem.entry?_eq_some_iff.2 ⟨["d"], ?_, rfl⟩
  exact FileSystem.locate_of_walk followed (splitOn_slashed count) (starts ▸ walked)

/-- The name of the file is one that entries can have. -/
theorem isName_oneFile : Entry.IsName "a.j2" :=
  ⟨by decide, by decide, by simp, by decide, by decide⟩

/-- The directory is a plain tree. -/
theorem plain_oneFile : (Entry.directory [("a.j2", .file .empty 0)]).Plain := by
  refine .directory (fun child member => ?_) (by decide) (fun child member => ?_)
  all_goals obtain rfl := List.mem_singleton.1 member
  · exact isName_oneFile
  · exact .file ..

/-- Nothing is found if the slashes make the path of the file too long. -/
theorem discover_slashed {count : Nat} (short : count < FileSystem.maxPathSize)
    (long : FileSystem.maxPathSize ≤ count + 4) :
    (discover {} oneFile (slashed count)).1 = .error (.noFilesFound (slashed count).text) := by
  have there := leads_slashed short
  have refused : ¬FileSystem.Enters (slashed count) "a.j2" := by
    rintro ⟨followed, -⟩
    rw [FileSystem.refusal?_join_eq_none_iff isName_oneFile (FileSystem.refusal?_of_found there)]
      at followed
    obtain ⟨slash, -, text⟩ := (slashed count).text_join "a.j2"
    have size : "a.j2".utf8ByteSize = 4 := by decide
    rw [text, String.utf8ByteSize_append, String.utf8ByteSize_append, size_slashed, size]
      at followed
    omega
  have unlisted : listed {} oneFile (slashed count) = [] := by
    rw [listed, visit_eq_ofEntries plain_oneFile there (by omega) _ rfl, ofEntries_eq_flatMap,
      List.flatMap_singleton, if_neg refused]
  rw [discover_eq_choose there, unlisted, choose_of_few (Nat.zero_le _), if_pos rfl]

/-- The file is passed over if the slashes make its path too long. -/
theorem discover_long_path :
    oneFile.entry? (slashed 4091) = some (.directory [("a.j2", .file .empty 0)]) ∧
    (Entry.directory [("a.j2", .file .empty 0)]).Plain ∧
    WantsName {} "a.j2" ∧
    (discover {} oneFile (slashed 4091)).1 = .error (.noFilesFound (slashed 4091).text) :=
  ⟨leads_slashed (by decide), plain_oneFile,
    ⟨"j2", "j2", by decide, by decide, decide_eq_true rfl⟩,
    discover_slashed (by decide) (by decide)⟩

end Selection
end Stencil
