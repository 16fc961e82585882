import Stencil.Batch.Fault
import Stencil.Files.Template
/-!
# Finding the files of a batch

The files of a batch are those beneath a directory whose names have a wanted extension. They come in
path order, however the system lists them, and may be cut to a number. Links are followed, and what
the system does not follow the path of is passed over.
-/

namespace Stencil

/-- Which files a batch takes. -/
structure Selection where
  /-- Directories inside the directory are searched too. -/
  isRecursive : Bool := true
  /-- The greatest number of files. -/
  maxFiles : Option Nat := none
  extensions : List String := templateExtensions

namespace Selection

/-- Whether two texts differ in the case of ASCII letters at most. -/
def sameLetters (a b : String) : Bool := a.map Char.toLower = b.map Char.toLower

/-- Whether the name a path ends in has a wanted extension. -/
def wants (selection : Selection) (path : Path) : Bool :=
  path.extension?.any fun extension => selection.extensions.any (sameLetters extension)

/-- The wanted files of a directory, as they are listed. Directories are entered so many levels deep
at most. -/
def visit (selection : Selection) (files : FileSystem) : (levels : Nat) → Path → List Path
  | 0, _ => []
  | levels + 1, directory =>
    (files.namesIn directory).flatMap fun name =>
      let path := directory.join name
      match files.entry? path with
      | some (.directory _) =>
        if selection.isRecursive then selection.visit files levels path else []
      | some (.file ..) => if selection.wants path then [path] else []
      | _ => []

/-- The wanted files of a directory, as they are listed. Each level makes paths longer, and the
system follows none beyond a size. -/
def listed (selection : Selection) (files : FileSystem) (directory : Path) : List Path :=
  selection.visit files (FileSystem.maxPathSize + 1) directory

/-- Paths in order. -/
def sorted (paths : List Path) : List Path := paths.mergeSort fun a b => a.order b ≠ .gt

/-- What is told when a directory has more files than wanted. -/
def limitEvents (found limit : Nat) : List Event :=
  if limit < found then
    [.warning .plainWarning "Reached maximum file limit"
      [("files_found", toString found), ("limit", toString limit)]]
  else
    []

/-- What is told of a fault. -/
def faultEvents (fault : BatchFault) (entries : List (String × String) := []) : List Event :=
  [.error fault.code fault.message entries]

/-- The files among those listed that the batch takes, and what is told of them. -/
def choose (selection : Selection) (directory : Path) (paths : List Path) :
    Except BatchFault (List Path) × List Event :=
  match paths[Limits.maxFilesPerBatch]? with
  | some excess =>
    let fault : BatchFault := .tooManyFiles Limits.maxFilesPerBatch
    (.error fault, faultEvents fault [("directory", (excess.parent?.getD directory).text)])
  | none =>
    if paths.isEmpty then
      let fault : BatchFault := .noFilesFound directory.text
      (.error fault, faultEvents fault)
    else
      let limit := selection.maxFiles.getD paths.length
      let chosen := (sorted paths).take limit
      (.ok chosen, limitEvents paths.length limit ++
        [.info "File discovery completed"
          [("files_found", toString chosen.length), ("directory", directory.text)]])

/-- The files of a batch in a directory, and what is told of them. -/
def discover (selection : Selection) (files : FileSystem) (directory : Path) :
    Except BatchFault (List Path) × List Event :=
  let begun : Event := .info "Starting file discovery"
    [("directory", directory.text), ("recursive", toString selection.isRecursive)]
  if files.isDirectory directory then
    let (chosen, events) := selection.choose directory (selection.listed files directory)
    (chosen, begun :: events)
  else
    let fault : BatchFault := .directoryNotFound directory.text
    (.error fault, begun :: faultEvents fault)

end Selection
end Stencil
