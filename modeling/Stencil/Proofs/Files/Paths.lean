import Mathlib.Data.List.Sort
import Mathlib.Data.String.Basic
import Stencil.Files.System
/-!
# Paths

Paths are in a linear order up to the way they are written: two paths of which neither comes before
the other have the same components. The path of an entry has the components of its directory's path
and one more, the entry's name (`components_join`). So names that differ lead from a directory to
paths that differ (`components_under`), whatever way the directory's path is written.
-/

namespace Stencil

/-! ### Order -/

namespace Component

instance : Std.TransOrd Component :=
  inferInstanceAs (Std.TransCmp (compareLex (compareOn rank) (compareOn nameText)))

/-- A component is told by its form and its name. -/
theorem eq_of_rank {a b : Component} (form : a.rank = b.rank) (name : a.nameText = b.nameText) :
    a = b := by
  cases a <;> cases b <;> simp_all [rank, nameText]

instance : Std.LawfulEqOrd Component where
  eq_of_compare {a b} equal := by
    obtain ⟨form, name⟩ := Ordering.then_eq_eq.1 equal
    exact eq_of_rank (Std.LawfulEqOrd.eq_of_compare form) (Std.LawfulEqOrd.eq_of_compare name)

end Component

namespace Path

variable {a b c : Path}

/-- Paths are the same exactly if their components are equal. -/
theorem same_iff : a.same b = true ↔ a.components = b.components := by
  rw [same, decide_eq_true_iff]

/-- Of two paths neither comes first exactly if they have the same components. -/
theorem order_eq_iff : a.order b = .eq ↔ a.components = b.components :=
  Std.LawfulEqOrd.compare_eq_iff_eq

/-- One path comes after another that comes before it. -/
theorem order_eq_gt_iff : a.order b = .gt ↔ b.order a = .lt :=
  show compare a.components b.components = .gt ↔ _ from Std.OrientedCmp.gt_iff_lt

/-- Paths are ordered transitively. -/
theorem order_lt_trans (first : a.order b = .lt) (second : b.order c = .lt) :
    a.order c = .lt :=
  show compare a.components c.components = .lt from Std.TransCmp.lt_trans first second

/-- Paths are ordered transitively, equal ones included. -/
theorem order_ne_gt_trans (first : a.order b ≠ .gt) (second : b.order c ≠ .gt) :
    a.order c ≠ .gt := by
  have chained : (compare a.components c.components).isLE :=
    Std.TransCmp.isLE_trans (Ordering.ne_gt_iff_isLE.1 first) (Ordering.ne_gt_iff_isLE.1 second)
  exact Ordering.ne_gt_iff_isLE.2 chained

/-- Of two paths one does not come after the other. -/
theorem order_ne_gt_total (a b : Path) : a.order b ≠ .gt ∨ b.order a ≠ .gt := by
  by_contra both
  obtain ⟨after, before⟩ := not_or.1 both
  rw [not_not, order_eq_gt_iff] at after
  exact before fun later => nomatch after.symm.trans later

/-- Of two paths that are in order and have not the same components, the first comes before. -/
theorem order_eq_lt (ordered : a.order b ≠ .gt) (differ : a.components ≠ b.components) :
    a.order b = .lt := by
  cases compared : a.order b with
  | lt => rfl
  | eq => exact absurd (order_eq_iff.1 compared) differ
  | gt => exact absurd compared ordered

/-- The order does not see how a path is written. -/
theorem order_congr {a' b' : Path} (left : a.components = a'.components)
    (right : b.components = b'.components) : a.order b = a'.order b' := by
  rw [order, left, right, order]

/-- A path that comes before another has other components. -/
theorem components_ne_of_lt (before : a.order b = .lt) : a.components ≠ b.components := by
  rw [ne_eq, ← order_eq_iff, before]
  exact nofun

/-- Paths that come one before the other are told by which they are. -/
theorem eq_of_mem_iff {left right : List Path}
    (ordered : left.Pairwise fun a b => a.order b = .lt)
    (reordered : right.Pairwise fun a b => a.order b = .lt)
    (same : ∀ path, path ∈ left ↔ path ∈ right) : left = right := by
  have : Std.Irrefl fun a b : Path => a.order b = .lt :=
    ⟨fun a before => components_ne_of_lt before rfl⟩
  have : Std.Antisymm fun a b : Path => a.order b = .lt :=
    ⟨fun a b before after => absurd rfl (components_ne_of_lt (order_lt_trans before after))⟩
  exact ordered.eq_of_mem_iff reordered same

end Path

/-! ### Entries of directories -/

open String in
/-- What is left of a text is empty exactly at its end. -/
theorem atEnd_ofList_iff (before rest : List Char) :
    Pos.Raw.atEnd (ofList (before ++ rest)) ⟨utf8Len before⟩ = true ↔ rest = [] := by
  rw [atEnd_iff, rawEndPos_ofList, utf8Len_append, Pos.Raw.mk_le_mk, ← utf8Len_eq_zero]
  omega

open String in
/-- The segments of a text between slashes, those before the last slash that was passed being
listed already. -/
theorem splitOnAux_slash (before run rest : List Char) (segments : List String) :
    splitOnAux (ofList (before ++ run ++ rest)) "/" ⟨utf8Len before⟩
        ⟨utf8Len (before ++ run)⟩ 0 segments =
      segments.reverse ++ (List.splitOnPPrepend (· = '/') rest run.reverse).map ofList := by
  have separator : Pos.Raw.get "/" 0 = '/' := by decide
  have passed : Pos.Raw.next "/" 0 = ⟨1⟩ := by decide
  have whole : Pos.Raw.atEnd "/" ⟨1⟩ = true := by decide
  induction rest generalizing before run segments with
  | nil =>
    rw [splitOnAux.eq_1, if_pos ((atEnd_ofList_iff ..).2 rfl), utf8Len_append, extract_of_valid]
    simp
  | cons c rest ih =>
    rw [splitOnAux.eq_1, if_neg (mt (atEnd_ofList_iff ..).1 (List.cons_ne_nil c rest)),
      get_of_valid, next_of_valid, separator, passed, if_pos whole]
    by_cases slash : c = '/'
    · subst slash
      have back : (⟨utf8Len (before ++ run) + '/'.utf8Size⟩ : Pos.Raw).unoffsetBy ⟨1⟩ =
          ⟨utf8Len (before ++ run)⟩ := rfl
      rw [if_pos (by simp), back, utf8Len_append, extract_of_valid]
      simpa [List.splitOnPPrepend_cons_eq_if, Nat.add_assoc] using
        ih (before ++ run ++ ['/']) [] (ofList run :: segments)
    · have stays : (⟨utf8Len (before ++ run)⟩ : Pos.Raw).unoffsetBy 0 =
          ⟨utf8Len (before ++ run)⟩ := rfl
      rw [if_neg (by simpa using slash), stays, next_of_valid]
      simpa [List.splitOnPPrepend_cons_eq_if, slash, Nat.add_assoc] using
        ih before (run ++ [c]) segments

/-- The segments of a text between slashes are those of its characters. -/
theorem splitOn_slash (text : String) :
    text.splitOn "/" = (text.toList.splitOnP (· = '/')).map String.ofList := by
  rw [String.splitOn, if_neg (by decide)]
  simpa using splitOnAux_slash [] [] text.toList []

/-- Texts with a slash between them have the segments of both. -/
theorem splitOn_append_slash (left right : String) :
    (left ++ "/" ++ right).splitOn "/" = left.splitOn "/" ++ right.splitOn "/" := by
  have parted : (left ++ "/" ++ right).toList = left.toList ++ '/' :: right.toList := by simp
  rw [splitOn_slash, splitOn_slash, splitOn_slash, parted,
    List.splitOnP_append_cons _ _ (by simp), List.map_append]

/-- A text without a slash is its only segment. -/
theorem splitOn_of_no_slash {text : String} (none : '/' ∉ text.toList) :
    text.splitOn "/" = [text] := by
  have unbroken : ∀ c ∈ text.toList, decide (c = '/') = false := fun c member =>
    decide_eq_false fun slash => none (slash ▸ member)
  rw [splitOn_slash, List.splitOnP_eq_singleton unbroken, List.map_singleton, String.ofList_toList]

/-- A slash at the end is followed by a segment without characters. -/
theorem splitOn_slash_end (text : String) :
    (text ++ "/").splitOn "/" = text.splitOn "/" ++ [""] := by
  have last : "".splitOn "/" = [""] := splitOn_of_no_slash List.not_mem_nil
  rw [← last, ← splitOn_append_slash, String.append_empty]

/-- A text that an entry of a directory can have for a name. -/
structure Entry.IsName (text : String) : Prop where
  nonempty : text ≠ ""
  no_slash : '/' ∉ text.toList
  /-- The system ends texts with the character of number zero. -/
  no_nul : ∀ c ∈ text.toList, c.toNat ≠ 0
  not_current : text ≠ "."
  not_parent : text ≠ ".."

namespace Path

open Component

variable {directory : Path} {name : String} {names : List String}

/-- A segment that is a name stands for itself. -/
theorem ofSegment?_name (named : Entry.IsName name) (first : Bool) :
    ofSegment? first name = some (.name name) := by
  rw [ofSegment?, if_neg named.nonempty, if_neg named.not_current, if_neg named.not_parent]

/-- A last segment stands for a component after those of the segments before it. -/
theorem map_placedFrom_concat (segments : List String) (segment : String) (first : Bool)
    (offset : Nat) :
    (placedFrom first offset (segments ++ [segment])).map (·.component) =
      (placedFrom first offset segments).map (·.component) ++
        (ofSegment? (first && segments.isEmpty) segment).toList := by
  induction segments generalizing first offset with
  | nil =>
    simp only [List.nil_append, placedFrom, List.isEmpty_nil, Bool.and_true]
    cases ofSegment? first segment <;> rfl
  | cons head rest ih =>
    have after := ih false (offset + head.length + 1)
    simp only [List.cons_append, placedFrom, List.isEmpty_cons, Bool.and_false, Bool.false_and]
      at after ⊢
    cases ofSegment? first head with
    | none => exact after
    | some component => rw [List.map_cons, after, List.map_cons, List.cons_append]

/-- The components of a path are the root, if it is absolute, and those of its segments. -/
theorem components_eq (path : Path) :
    path.components = (if path.isAbsolute then [.root] else []) ++
      (placedFrom (!path.isAbsolute) 0 (path.text.splitOn "/")).map (·.component) := by
  unfold components placed
  cases path.isAbsolute <;> rfl

/-- Whether a path starts at the root does not depend on what follows its first character. -/
theorem isAbsolute_append {text : String} (begun : text ≠ "") (more : String) :
    isAbsolute ⟨text ++ more⟩ = isAbsolute ⟨text⟩ := by
  have nonempty : text.toList ≠ [] := fun empty => begun (String.toList_eq_nil_iff.1 empty)
  rw [isAbsolute, isAbsolute, String.toList_append, List.head?_append_of_ne_nil _ nonempty]

/-- A slash at the end of a path adds no component. -/
theorem components_append_slash {text : String} (begun : text ≠ "") :
    components ⟨text ++ "/"⟩ = components ⟨text⟩ := by
  rw [components_eq, components_eq, isAbsolute_append begun, splitOn_slash_end,
    map_placedFrom_concat]
  simp [ofSegment?]

/-- A name after a slash adds its component. -/
theorem components_append_slash_name (named : Entry.IsName name) (text : String) :
    components ⟨text ++ "/" ++ name⟩ = components ⟨text ++ "/"⟩ ++ [.name name] := by
  have begun : text ++ "/" ≠ "" := by simp
  rw [components_eq, components_eq, isAbsolute_append begun, splitOn_append_slash,
    splitOn_of_no_slash named.no_slash, splitOn_slash_end, map_placedFrom_concat,
    map_placedFrom_concat, ofSegment?_name named]
  simp [ofSegment?]

/-- A name is the only component of a path that is nothing else. -/
theorem components_name (named : Entry.IsName name) : components ⟨name⟩ = [.name name] := by
  have relative : isAbsolute ⟨name⟩ = false := decide_eq_false fun rooted =>
    named.no_slash (List.mem_of_head? rooted)
  rw [components_eq, relative, splitOn_of_no_slash named.no_slash]
  simp [placedFrom, ofSegment?_name named]

/-- A text that ends with a slash is something before a slash. -/
theorem eq_append_slash {text : String} (slashed : text.endsWith "/" = true) :
    ∃ front, text = front ++ "/" := by
  rw [← String.endsWith_toSlice, String.Slice.endsWith_string_iff] at slashed
  obtain ⟨front, same⟩ := slashed
  refine ⟨String.ofList front, String.toList_inj.1 ?_⟩
  simpa using same.symm

/-- The path of an entry has the components of its directory's path, and its name. -/
theorem components_join (named : Entry.IsName name) :
    (directory.join name).components = directory.components ++ [.name name] := by
  obtain ⟨text⟩ := directory
  rw [join]
  dsimp only
  by_cases empty : text = ""
  · subst empty
    have nothing : components ⟨""⟩ = [] := by
      rw [components_eq, splitOn_of_no_slash (by simp)]
      rfl
    rw [if_pos (by simp), String.empty_append, components_name named, nothing, List.nil_append]
  · by_cases slashed : text.endsWith "/" = true
    · obtain ⟨front, rfl⟩ := eq_append_slash slashed
      rw [if_pos (by simp [slashed]), components_append_slash_name named]
    · rw [if_neg (by simp [empty, slashed]), components_append_slash_name named,
        components_append_slash empty]

/-- A name is put behind a slash if the directory's path does not end in one. -/
theorem join_eq_of_bare {text : String} (nonempty : directory.text ≠ "")
    (bare : directory.text.toList.getLast? ≠ some '/')
    (same : directory.text ++ "/" ++ name = text) : directory.join name = ⟨text⟩ := by
  have slashed : ¬directory.text.endsWith "/" = true := by
    intro slashed
    obtain ⟨front, ends⟩ := eq_append_slash slashed
    rw [ends, String.toList_append] at bare
    exact bare List.getLast?_concat
  rw [join, if_neg (by simp [nonempty, slashed]), same]

/-- The path that names lead to from a directory. -/
def under (directory : Path) (names : List String) : Path := names.foldl join directory

/-- Below a directory the first name leads to the entry that the other names go on from. -/
theorem under_cons (directory : Path) (name : String) (names : List String) :
    directory.under (name :: names) = (directory.join name).under names := rfl

/-- Names add their components to those of the path they lead from. -/
theorem components_under (named : ∀ name ∈ names, Entry.IsName name) :
    (directory.under names).components = directory.components ++ names.map .name := by
  induction names generalizing directory with
  | nil => rw [under, List.foldl_nil, List.map_nil, List.append_nil]
  | cons name rest ih =>
    have ⟨first, others⟩ := List.forall_mem_cons.1 named
    rw [under_cons, ih others, components_join first, List.append_assoc, List.map_cons,
      List.singleton_append]

/-- The path that names lead to ends in the last of them. -/
theorem fileName?_under (named : ∀ name ∈ names, Entry.IsName name) (some : names ≠ []) :
    (directory.under names).fileName? = names.getLast? := by
  obtain ⟨front, name, rfl⟩ := List.eq_nil_or_concat names |>.resolve_left some
  rw [fileName?, components_under named, List.concat_eq_append, List.map_append,
    ← List.append_assoc]
  simp

/-- A name is put after the text of its directory's path, which may need a slash. -/
theorem text_join (directory : Path) (name : String) :
    ∃ slash, (slash = "" ∨ slash = "/") ∧
      (directory.join name).text = directory.text ++ slash ++ name := by
  unfold join
  split
  · exact ⟨"", .inl rfl, by rw [String.append_empty]⟩
  · exact ⟨"/", .inr rfl, rfl⟩

/-- The path of an entry is no shorter than its directory's. -/
theorem size_le_join (directory : Path) (name : String) :
    directory.text.utf8ByteSize ≤ (directory.join name).text.utf8ByteSize := by
  obtain ⟨slash, -, text⟩ := directory.text_join name
  rw [text, String.utf8ByteSize_append, String.utf8ByteSize_append]
  omega

/-- It is longer, since names are not empty. -/
theorem size_lt_join (directory : Path) (named : Entry.IsName name) :
    directory.text.utf8ByteSize < (directory.join name).text.utf8ByteSize := by
  obtain ⟨slash, -, text⟩ := directory.text_join name
  have some : name.utf8ByteSize ≠ 0 := String.utf8ByteSize_eq_zero_iff.not.2 named.nonempty
  rw [text, String.utf8ByteSize_append, String.utf8ByteSize_append]
  omega

/-- A path that names lead to is no shorter than the one they lead from. -/
theorem size_le_under (directory : Path) (names : List String) :
    directory.text.utf8ByteSize ≤ (directory.under names).text.utf8ByteSize := by
  induction names generalizing directory with
  | nil => exact le_rfl
  | cons name rest ih => exact (directory.size_le_join name).trans (ih (directory.join name))

end Path

namespace FileSystem

variable {path : Path} {name : String}

/-- A path is refused exactly if it has a null character, is empty or is too long. -/
theorem refusal?_eq_none_iff :
    refusal? path = none ↔ (∀ c ∈ path.text.toList, c.toNat ≠ 0) ∧ path.text ≠ "" ∧
      path.text.utf8ByteSize ≤ maxPathSize := by
  unfold refusal?
  split_ifs with nul empty long <;> simp_all

/-- In a directory that the system can follow the path of, it follows the path of an entry unless
that is too long. -/
theorem refusal?_join_eq_none_iff (named : Entry.IsName name) (followed : refusal? path = none) :
    refusal? (path.join name) = none ↔ (path.join name).text.utf8ByteSize ≤ maxPathSize := by
  obtain ⟨clean, nonempty, -⟩ := refusal?_eq_none_iff.1 followed
  obtain ⟨slash, slashed, text⟩ := path.text_join name
  have cleanSlash : ∀ c ∈ slash.toList, c.toNat ≠ 0 := by
    rcases slashed with rfl | rfl <;> simp
  rw [refusal?_eq_none_iff, text]
  refine ⟨fun fine => fine.2.2, fun short => ⟨fun c member => ?_, ?_, short⟩⟩
  · rw [String.toList_append, String.toList_append, List.mem_append, List.mem_append] at member
    rcases member with (member | member) | member
    · exact clean c member
    · exact cleanSlash c member
    · exact named.no_nul c member
  · simp [nonempty]

end FileSystem

/-! ### Following paths -/

/-- Names that follow one another lead on from where the first of them lead. -/
theorem Entry.descend?_append (tree : Entry) (front back : List String) :
    tree.descend? (front ++ back) =
      (tree.descend? front).bind fun child => child.descend? back := by
  induction front generalizing tree with
  | nil => rfl
  | cons name rest ih =>
    rw [List.cons_append, descend?, descend?]
    cases tree.child? name with
    | none => rfl
    | some child => exact ih child

namespace FileSystem

variable {files : FileSystem} {directory path : Path} {name : String} {trail place : Trail}
  {entry : Entry} {entries : List (String × Entry)} {links : Nat}

/-- What a name leads to from a directory. -/
theorem entryAt?_cons (inside : files.entryAt? trail = some entry) :
    files.entryAt? (name :: trail) = entry.child? name := by
  rw [entryAt?] at inside
  rw [entryAt?, List.reverse_cons, Entry.descend?_append, inside, Option.bind_some, Entry.descend?]
  cases entry.child? name <;> rfl

section

variable {segments rest : List String} {fault : FileFault} {target : Path}

/-- Steps are taken one after another up to the first onto a link. -/
theorem walk_append (files : FileSystem) (trail : Trail) (front back : List String) :
    files.walk trail (front ++ back) = match files.walk trail front with
      | .error fault => .error fault
      | .ok (place, none) => files.walk place back
      | .ok (place, some (target, rest)) => .ok (place, some (target, rest ++ back)) := by
  induction front generalizing trail with
  | nil => rfl
  | cons segment front ih =>
    rw [List.cons_append, walk, walk]
    cases files.step trail segment with
    | error fault => rfl
    | ok place =>
      dsimp only
      rcases files.entryAt? place with _ | (⟨content, modified⟩ | ⟨entries⟩ | ⟨target⟩)
      · exact ih place
      · exact ih place
      · exact ih place
      · rfl

/-- A path that fails before any link fails. -/
theorem follow_of_error (walked : files.walk trail segments = .error fault) :
    files.follow links trail segments = .error fault := by
  rw [follow.eq_def, walked]

/-- A path without links leads where walking it does, and uses up none. -/
theorem follow_of_walk (walked : files.walk trail segments = .ok (place, none)) :
    files.follow links trail segments = .ok (place, links) := by
  rw [follow.eq_def, walked]

/-- A link is followed with one link fewer left. -/
theorem follow_of_link (walked : files.walk trail segments = .ok (place, some (target, rest))) :
    files.follow (links + 1) trail segments = match refusal? target with
      | some fault => .error fault
      | none => files.follow links (startFrom place target) (target.text.splitOn "/" ++ rest) := by
  rewrite [follow.eq_def, walked]
  rfl

/-- Where no link may be followed any more, a link fails. -/
theorem follow_zero_of_link
    (walked : files.walk trail segments = .ok (place, some (target, rest))) :
    files.follow 0 trail segments = .error .tooManyLinks := by
  rw [follow.eq_def, walked]

/-- Steps lead on from where the first of them lead, with the links that are left then. -/
theorem follow_append (files : FileSystem) (links : Nat) (trail : Trail)
    (front back : List String) :
    files.follow links trail (front ++ back) =
      (files.follow links trail front).bind fun reached =>
        files.follow reached.2 reached.1 back := by
  induction links generalizing trail front with
  | zero =>
    have whole := files.walk_append trail front back
    rcases walked : files.walk trail front with fault | ⟨place, _ | ⟨target, rest⟩⟩
    all_goals rw [walked] at whole
    · rw [follow_of_error whole, follow_of_error walked]
      rfl
    · rw [follow_of_walk walked, follow.eq_def, whole, Except.bind, follow.eq_def]
    · rw [follow_zero_of_link whole, follow_zero_of_link walked]
      rfl
  | succ links ih =>
    have whole := files.walk_append trail front back
    rcases walked : files.walk trail front with fault | ⟨place, _ | ⟨target, rest⟩⟩
    all_goals rw [walked] at whole
    · rw [follow_of_error whole, follow_of_error walked]
      rfl
    · rw [follow_of_walk walked, follow.eq_def, whole, Except.bind, follow.eq_def]
    · rw [follow_of_link whole, follow_of_link walked]
      cases refusal? target with
      | some fault => rfl
      | none =>
        dsimp only
        rw [← List.append_assoc, ih]

/-- A name that the system takes leads to its entry, which is no link. -/
theorem follow_name (inside : files.entryAt? trail = some (.directory entries))
    (named : Entry.IsName name) (short : name.utf8ByteSize ≤ maxNameSize)
    (here : (Entry.directory entries).child? name = some entry)
    (solid : ∀ target, entry ≠ .link target) :
    files.follow links trail [name] = .ok (name :: trail, links) := by
  have there : files.entryAt? (name :: trail) = some entry := (entryAt?_cons inside).trans here
  have stepped : files.step trail name = .ok (name :: trail) := by
    rw [step, inside]
    simp [named.nonempty, named.not_current, named.not_parent, Nat.not_lt.2 short, there]
  apply follow_of_walk
  rw [walk, stepped]
  dsimp only
  rw [there]
  cases entry with
  | link target => exact absurd rfl (solid target)
  | _ => rfl

/-- A name that is too long or has no entry leads nowhere. -/
theorem follow_no_name (inside : files.entryAt? trail = some (.directory entries))
    (named : Entry.IsName name) (none : name.utf8ByteSize ≤ maxNameSize →
      (Entry.directory entries).child? name = none) :
    ∃ fault, files.follow links trail [name] = .error fault := by
  have stepped : ∃ fault, files.step trail name = .error fault := by
    rw [step, inside]
    by_cases long : maxNameSize < name.utf8ByteSize
    · exact ⟨.nameTooLong, by
        simp [named.nonempty, named.not_current, named.not_parent, long]⟩
    · refine ⟨.notFound, ?_⟩
      have nothing := (entryAt?_cons inside).trans (none (Nat.not_lt.1 long))
      simp [named.nonempty, named.not_current, named.not_parent, long, nothing]
  obtain ⟨fault, stepped⟩ := stepped
  have walked : files.walk trail [name] = .error fault := by rw [walk, stepped]
  exact ⟨fault, follow_of_error walked⟩

/-- An empty step stays where it is. -/
theorem follow_empty {left : Nat} (reached : files.follow links trail [""] = .ok (place, left)) :
    place = trail ∧ left = links := by
  cases inside : files.entryAt? trail with
  | none =>
    have walked : files.walk trail [""] = .error .notFound := by rw [walk, step, inside]
    rw [follow_of_error walked] at reached
    contradiction
  | some entry =>
    cases entry with
    | directory entries =>
      have walked : files.walk trail [""] = .ok (trail, none) := by
        have stepped : files.step trail "" = .ok trail := by simp [step, inside]
        rw [walk, stepped]
        dsimp only
        rw [inside]
        rfl
      rw [follow_of_walk walked] at reached
      cases reached
      exact ⟨rfl, rfl⟩
    | _ =>
      have walked : files.walk trail [""] = .error .notDirectory := by rw [walk, step, inside]
      rw [follow_of_error walked] at reached
      contradiction

/-- The path of an entry has the steps of its directory's path, but for none at the end, and one
more. -/
theorem exists_splitOn_join (named : Entry.IsName name) (begun : path.text ≠ "") :
    ∃ front, (path.join name).text.splitOn "/" = front ++ [name] ∧
      (path.text.splitOn "/" = front ∨ path.text.splitOn "/" = front ++ [""]) := by
  have last := splitOn_of_no_slash named.no_slash
  rw [Path.join]
  by_cases slashed : path.text.endsWith "/" = true
  · obtain ⟨front, text⟩ := Path.eq_append_slash slashed
    rw [if_pos (by simp [slashed]), text]
    exact ⟨front.splitOn "/", by rw [splitOn_append_slash, last], .inr (splitOn_slash_end front)⟩
  · rw [if_neg (by simp [begun, slashed])]
    exact ⟨path.text.splitOn "/", by rw [splitOn_append_slash, last], .inl rfl⟩

/-- Where the steps of a path lead, the path leads. -/
theorem locate_eq_ok_iff : files.locate path = .ok trail ↔ refusal? path = none ∧
    ∃ left, files.follow maxLinks (files.start path) (path.text.splitOn "/") =
      .ok (trail, left) := by
  rw [locate]
  cases refusal? path with
  | some fault => exact iff_of_false nofun fun leads => nomatch leads.1
  | none =>
    dsimp only
    rcases files.follow maxLinks (files.start path) (path.text.splitOn "/") with
      fault | ⟨place, left⟩
    · exact iff_of_false nofun fun leads => nomatch leads.2.choose_spec
    · simp [Except.map]

/-- A path without links on the way leads where its steps do. -/
theorem locate_of_walk (followed : refusal? path = none)
    (parts : path.text.splitOn "/" = segments)
    (walked : files.walk (files.start path) segments = .ok (place, none)) :
    files.locate path = .ok place :=
  locate_eq_ok_iff.2 ⟨followed, maxLinks, by rw [parts, follow_of_walk walked]⟩

/-- What leads somewhere from a place leads somewhere after steps to that place. -/
theorem follow_append_eq_ok_iff {front back : List String} {left : Nat} :
    files.follow links trail (front ++ back) = .ok (place, left) ↔ ∃ between,
      files.follow links trail front = .ok between ∧
        files.follow between.2 between.1 back = .ok (place, left) := by
  rw [follow_append]
  cases files.follow links trail front with
  | error fault => exact iff_of_false nofun fun leads => nomatch leads.choose_spec.1
  | ok between => simp [Except.bind]

/-- The path of an entry is followed from the place of its directory. -/
theorem locate_join (named : Entry.IsName name) (leads : files.locate path = .ok trail)
    (followed : refusal? (path.join name) = none) :
    ∃ left, files.locate (path.join name) = (files.follow left trail [name]).map (·.1) := by
  obtain ⟨refused, left, leads⟩ := locate_eq_ok_iff.1 leads
  have begun := (refusal?_eq_none_iff.1 refused).2.1
  obtain ⟨front, parts, same⟩ := exists_splitOn_join named begun
  have starts : files.start (path.join name) = files.start path := by
    obtain ⟨slash, -, text⟩ := path.text_join name
    have rooted : (path.join name).isAbsolute = path.isAbsolute := by
      rw [Path.isAbsolute, text, String.append_assoc]
      exact Path.isAbsolute_append begun _
    rw [start, start, startFrom, startFrom, rooted]
  have reached : files.follow maxLinks (files.start path) front = .ok (trail, left) := by
    rcases same with same | same
    all_goals rw [same] at leads
    · exact leads
    · obtain ⟨between, reached, stays⟩ := follow_append_eq_ok_iff.1 leads
      obtain ⟨rfl, rfl⟩ := follow_empty stays
      exact reached
  refine ⟨left, ?_⟩
  rw [locate, followed]
  dsimp only
  rw [starts, parts, follow_append, reached]
  rfl

/-- The system follows the path of a name in a directory that it has followed. -/
def Enters (directory : Path) (name : String) : Prop :=
  refusal? (directory.join name) = none ∧ name.utf8ByteSize ≤ maxNameSize

instance (directory : Path) (name : String) : Decidable (Enters directory name) :=
  inferInstanceAs (Decidable (_ ∧ _))

/-- It follows the path of a name if that and the directory's path are short enough. -/
theorem enters_of_short (named : Entry.IsName name) (followed : refusal? path = none)
    (short : path.text.utf8ByteSize + name.utf8ByteSize < maxPathSize)
    (size : name.utf8ByteSize ≤ maxNameSize) : Enters path name := by
  refine ⟨(refusal?_join_eq_none_iff named followed).2 ?_, size⟩
  obtain ⟨slash, slashed, text⟩ := path.text_join name
  have slashSize : slash.utf8ByteSize ≤ 1 := by
    rcases slashed with rfl | rfl <;> decide
  rw [text, String.utf8ByteSize_append, String.utf8ByteSize_append]
  omega

/-- The entry of a path is the one where the path leads. -/
theorem entry?_eq_some_iff : files.entry? path = some entry ↔
    ∃ trail, files.locate path = .ok trail ∧ files.entryAt? trail = some entry := by
  rw [FileSystem.entry?, Option.bind_eq_some_iff]
  cases files.locate path <;> simp [Except.toOption]

/-- Without links the path of a name leads to the entry of that name, if the system follows it. -/
theorem entry?_join (leads : files.entry? path = some (.directory entries))
    (named : Entry.IsName name)
    (solid : ∀ target, (Entry.directory entries).child? name ≠ some (.link target)) :
    files.entry? (path.join name) =
      if Enters path name then (Entry.directory entries).child? name else none := by
  obtain ⟨trail, leads, inside⟩ := entry?_eq_some_iff.1 leads
  by_cases enters : Enters path name
  · obtain ⟨left, located⟩ := locate_join named leads enters.1
    rw [if_pos enters, entry?, located]
    cases here : (Entry.directory entries).child? name with
    | none =>
      have nowhere : ∃ fault, files.follow left trail [name] = .error fault :=
        follow_no_name inside named fun _ => here
      obtain ⟨fault, nowhere⟩ := nowhere
      rw [nowhere]
      rfl
    | some entry =>
      rw [follow_name inside named enters.2 here fun target same => solid target (same ▸ here)]
      exact (entryAt?_cons inside).trans here
  · rw [if_neg enters, entry?]
    cases followed : refusal? (path.join name) with
    | some fault =>
      rw [locate, followed]
      rfl
    | none =>
      obtain ⟨left, located⟩ := locate_join named leads followed
      have nowhere : ∃ fault, files.follow left trail [name] = .error fault :=
        follow_no_name inside named fun fits => absurd ⟨followed, fits⟩ enters
      obtain ⟨fault, nowhere⟩ := nowhere
      rw [located, nowhere]
      rfl

end

end FileSystem
end Stencil
