import Stencil.Files.Path
/-!
# Files

A file system is a tree of directories with a place to start from. Paths are followed step by step,
so that a step through something that is no directory fails, and so does a slash after a file. A
step onto a symbolic link goes on with the path the link leads to.
-/

namespace Stencil

/-- A file with its content and the second it was last modified, a directory, or a symbolic link. -/
inductive Entry where
  | file (content : ByteArray) (modified : Nat)
  | directory (entries : List (String × Entry))
  /-- A link leads to a path, from the directory it is in if that is relative. -/
  | link (target : Path)

/-- A tree of directories and the directory that relative paths start from. -/
structure FileSystem where
  root : Entry
  /-- The names that lead from the root to the working directory. -/
  working : List String

/-- Why a path leads nowhere or cannot be used. -/
inductive FileFault where
  | notFound
  | exists
  | notDirectory
  | isDirectory
  | nameTooLong
  | tooManyLinks
  /-- A path holds the character that ends texts for the system. -/
  | nulInPath
  | notText
  deriving DecidableEq

/-- What the system says of a fault. -/
def FileFault.message : FileFault → String
  | .notFound => "No such file or directory (os error 2)"
  | .exists => "File exists (os error 17)"
  | .notDirectory => "Not a directory (os error 20)"
  | .isDirectory => "Is a directory (os error 21)"
  | .nameTooLong => "File name too long (os error 36)"
  | .tooManyLinks => "Too many levels of symbolic links (os error 40)"
  | .nulInPath => "file name contained an unexpected NUL byte"
  | .notText => "stream did not contain valid UTF-8"

namespace Entry

/-- Whether an entry is a directory. -/
def isDirectory : Entry → Bool
  | .directory _ => true
  | _ => false

/-- Whether an entry is a file. -/
def isFile : Entry → Bool
  | .file .. => true
  | _ => false

/-- A directory is no file. -/
theorem isFile_of_isDirectory {entry : Entry} (isDirectory : entry.isDirectory = true) :
    entry.isFile = false := by
  cases entry with
  | directory entries => rfl
  | _ => contradiction

/-- The entry of a name in a directory. -/
def child? (entry : Entry) (name : String) : Option Entry :=
  match entry with
  | .directory entries => (entries.find? fun child => child.1 = name).map (·.2)
  | _ => none

/-- The entry that names lead to. -/
def descend? (entry : Entry) : List String → Option Entry
  | [] => some entry
  | name :: rest => (entry.child? name).bind fun child => child.descend? rest

/-- Entries with another one for a name. -/
def setIn (name : String) (entry : Entry) : List (String × Entry) → List (String × Entry)
  | [] => [(name, entry)]
  | (other, old) :: rest =>
    if other = name then (name, entry) :: rest else (other, old) :: setIn name entry rest

/-- A directory with another entry for a name. -/
def setChild (directory : Entry) (name : String) (entry : Entry) : Entry :=
  match directory with
  | .directory entries => .directory (setIn name entry entries)
  | _ => .directory [(name, entry)]

/-- The tree with an entry put where names lead, and with directories on the way. -/
def put (tree entry : Entry) : List String → Entry
  | [] => entry
  | name :: rest =>
    tree.setChild name (((tree.child? name).getD (.directory [])).put entry rest)

/-- The tree without what names lead to. -/
def remove (tree : Entry) : List String → Entry
  | [] => tree
  | [name] =>
    match tree with
    | .directory entries => .directory (entries.filter fun child => child.1 ≠ name)
    | _ => tree
  | name :: rest =>
    match tree.child? name with
    | some child => tree.setChild name (child.remove rest)
    | none => tree

end Entry

/-- A place that a path leads to: the names from the root, innermost first. -/
abbrev Trail := List String

namespace FileSystem

/-- An empty system whose working directory is where names lead. -/
def ofWorking (working : List String) : FileSystem :=
  ⟨(Entry.directory []).put (.directory []) working, working⟩

/-- The entry at a place. -/
def entryAt? (files : FileSystem) (trail : Trail) : Option Entry :=
  files.root.descend? trail.reverse

/-- A name may have this many bytes. -/
def maxNameSize : Nat := 255

/-- A path may have this many bytes. -/
def maxPathSize : Nat := 4095

/-- So many links may be met when a path is followed. -/
def maxLinks : Nat := 40

/-- Why the system does not even begin to follow a path. -/
def refusal? (path : Path) : Option FileFault :=
  if path.text.toList.any fun c => c.toNat = 0 then some .nulInPath
  else if path.text = "" then some .notFound
  else if maxPathSize < path.text.utf8ByteSize then some .nameTooLong
  else none

/-- One step of a path from a place. Steps start in directories; the step up from the root stays
there. -/
def step (files : FileSystem) (trail : Trail) (segment : String) : Except FileFault Trail :=
  match files.entryAt? trail with
  | some (.directory _) =>
    if segment = "" || segment = "." then .ok trail
    else if segment = ".." then .ok trail.tail
    else if maxNameSize < segment.utf8ByteSize then .error .nameTooLong
    else
      match files.entryAt? (segment :: trail) with
      | some _ => .ok (segment :: trail)
      | none => .error .notFound
  | some _ => .error .notDirectory
  | none => .error .notFound

/-- Where steps lead up to the first link among them: the place of the last step, or the directory
of the link with the link's path and the steps after it. -/
def walk (files : FileSystem) (trail : Trail) :
    List String → Except FileFault (Trail × Option (Path × List String))
  | [] => .ok (trail, none)
  | segment :: rest =>
    match files.step trail segment with
    | .error fault => .error fault
    | .ok place =>
      match files.entryAt? place with
      | some (.link target) => .ok (place.tail, some (target, rest))
      | _ => files.walk place rest

/-- Where a path starts that is followed from a place. -/
def startFrom (trail : Trail) (path : Path) : Trail := if path.isAbsolute then [] else trail

/-- Where a path starts. -/
def start (files : FileSystem) (path : Path) : Trail := startFrom files.working.reverse path

/-- Where steps lead, and how many links of those allowed are left. -/
def follow (files : FileSystem) (links : Nat) (trail : Trail) (segments : List String) :
    Except FileFault (Trail × Nat) :=
  match files.walk trail segments with
  | .error fault => .error fault
  | .ok (place, none) => .ok (place, links)
  | .ok (directory, some (target, rest)) =>
    match links with
    | 0 => .error .tooManyLinks
    | links + 1 =>
      match refusal? target with
      | some fault => .error fault
      | none => files.follow links (startFrom directory target) (target.text.splitOn "/" ++ rest)

/-- Where a path leads. -/
def locate (files : FileSystem) (path : Path) : Except FileFault Trail :=
  match refusal? path with
  | some fault => .error fault
  | none => (files.follow maxLinks (files.start path) (path.text.splitOn "/")).map (·.1)

/-- The entry a path leads to. -/
def entry? (files : FileSystem) (path : Path) : Option Entry :=
  (files.locate path).toOption.bind files.entryAt?

/-- Whether a path leads to a directory. -/
def isDirectory (files : FileSystem) (path : Path) : Bool :=
  (files.entry? path).any Entry.isDirectory

/-- Whether a path leads to a file. -/
def isFile (files : FileSystem) (path : Path) : Bool := (files.entry? path).any Entry.isFile

/-- The names in the directory that a path leads to, as they are listed. -/
def namesIn (files : FileSystem) (path : Path) : List String :=
  match files.entry? path with
  | some (.directory entries) => entries.map (·.1)
  | _ => []

/-- The path from the root without detours. -/
def canonical (trail : Trail) : Path := ⟨"/" ++ String.intercalate "/" trail.reverse⟩

/-- The content of the file a path leads to. -/
def read (files : FileSystem) (path : Path) : Except FileFault ByteArray := do
  let trail ← files.locate path
  match files.entryAt? trail with
  | some (.file content _) => .ok content
  | some (.directory _) => .error .isDirectory
  | _ => .error .notFound

/-- The text of the file a path leads to. -/
def readText (files : FileSystem) (path : Path) : Except FileFault String := do
  match String.fromUTF8? (← files.read path) with
  | some text => .ok text
  | none => .error .notText

/-- The system with an entry at a place. -/
def put (files : FileSystem) (trail : Trail) (entry : Entry) : FileSystem :=
  { files with root := files.root.put entry trail.reverse }

/-- The system with an entry where names from the root lead. -/
def putAt (files : FileSystem) (names : List String) (entry : Entry) : FileSystem :=
  files.put names.reverse entry

/-- The system with a directory where names from the root lead, unless something is there. -/
def addDirectory (files : FileSystem) (names : List String) : FileSystem :=
  if (files.root.descend? names).isSome then files else files.putAt names (.directory [])

/-- The names of an absolute path, or those from the working directory. -/
def namesOf (files : FileSystem) (path : Path) : List String :=
  (if path.isAbsolute then [] else files.working) ++ (path.text.splitOn "/").filter (· ≠ "")

/-- The steps of a path but for slashes at the end, which are none. -/
def stepsOf (path : Path) : List String :=
  ((path.text.splitOn "/").reverse.dropWhile (· = "")).reverse

/-- The last step of a path that is followed from a place, and the directory it is taken from. -/
def lastStep (files : FileSystem) (trail : Trail) (path : Path) :
    Except FileFault (Trail × String) :=
  match refusal? path with
  | some fault => .error fault
  | none => do
    let segments := stepsOf path
    let (place, _) ← files.follow maxLinks (startFrom trail path) segments.dropLast
    match files.entryAt? place with
    | some (.directory _) => .ok (place, segments.getLast?.getD "")
    | some _ => .error .notDirectory
    | none => .error .notFound

/-- Where a file is put that is written to a path followed from a place. Its directory must be
there. A link at the end leads on, also to where nothing is yet; so many links at most. A path with
a slash at its end is one of a directory. -/
def landing (files : FileSystem) (trail : Trail) (path : Path) :
    (links : Nat) → Except FileFault Trail
  | 0 => .error .tooManyLinks
  | links + 1 => do
    let (directory, name) ← files.lastStep trail path
    if path.text.endsWith "/" || name = "." || name = ".." then .error .isDirectory
    else if maxNameSize < name.utf8ByteSize then .error .nameTooLong
    else
      match files.entryAt? (name :: directory) with
      | some (.link target) => files.landing directory target links
      | some (.directory _) => .error .isDirectory
      | _ => .ok (name :: directory)

/-- Writes a file. -/
def write (files : FileSystem) (path : Path) (content : ByteArray) (modified : Nat) :
    Except FileFault FileSystem := do
  let place ← files.landing files.working.reverse path (maxLinks + 1)
  .ok (files.put place (.file content modified))

/-- Makes one directory. -/
def makeDirectory (files : FileSystem) (path : Path) : Except FileFault FileSystem := do
  let (trail, name) ← files.lastStep files.working.reverse path
  if name = "" || name = "." || name = ".." then .error .exists
  else if maxNameSize < name.utf8ByteSize then .error .nameTooLong
  else if (files.entryAt? (name :: trail)).isSome then .error .exists
  else .ok (files.put (name :: trail) (.directory []))

/-- Makes one directory, unless there is one. -/
def ensureDirectory (files : FileSystem) (path : Path) : Except FileFault FileSystem :=
  if files.isDirectory path then .ok files else files.makeDirectory path

/-- Makes a directory if there is none, and those on the way to it; so many at most. -/
def makeDirectoriesWithin (files : FileSystem) :
    (levels : Nat) → (path : Path) → Except FileFault FileSystem
  | 0, _ => .error .notFound
  | levels + 1, path =>
    if path.text = "" || files.isDirectory path then .ok files
    else
      match files.makeDirectory path, path.parent? with
      | .error .notFound, some parent => do
        (← files.makeDirectoriesWithin levels parent).ensureDirectory path
      | made, _ => made

/-- Makes a directory if there is none, and those on the way to it. -/
def makeDirectories (files : FileSystem) (path : Path) : Except FileFault FileSystem :=
  files.makeDirectoriesWithin (path.components.length + 1) path

end FileSystem
end Stencil
