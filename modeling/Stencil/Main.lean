import Stencil.Console.Run
import Std.Time
/-!
# The program

The program takes the files its arguments name into memory, runs the command on them and writes what
the command wrote.
-/

namespace Stencil.Program

/-- What is at a place of the system, and the places that links in it lead to. A link is kept with
the place it leads to, or without one if that is missing. -/
partial def load (place : String) : IO (Entry × List String) := do
  let path := (← IO.currentDir) / place
  let status ← path.symlinkMetadata
  match status.type with
  | .symlink =>
    try
      let real := (← IO.FS.realPath place).toString
      return (.link ⟨real⟩, [real])
    catch _ => return (.link ⟨""⟩, [])
  | .dir =>
    let mut entries := #[]
    let mut targets := []
    for entry in ← path.readDir do
      let (loaded, found) ← load entry.path.toString
      entries := entries.push (entry.fileName, loaded)
      targets := targets ++ found
    return (.directory entries.toList, targets)
  | _ => return (.file (← IO.FS.readBinFile place) status.modified.sec.toNat, [])

/-- A system in memory, and the places that were taken into it whole. -/
structure Loaded where
  files : FileSystem
  places : List String := []

/-- Takes what is at a place without links into memory, and what links in it lead to. -/
partial def Loaded.add (loaded : Loaded) (place : String) : IO Loaded := do
  if loaded.places.any fun other => place = other || place.startsWith (other ++ "/") then
    return loaded
  let (entry, targets) ← load place
  let files := loaded.files.putAt (loaded.files.namesOf ⟨place⟩) entry
  targets.foldlM Loaded.add ⟨files, place :: loaded.places⟩

/-- The parts of a path up to each of its slashes, and the path. -/
def stages (path : String) : List String :=
  let segments := path.splitOn "/"
  (List.range segments.length).map fun count =>
    String.intercalate "/" (segments.take (count + 1))

/-- Takes a directory on the way to a file into memory, or a link and what it leads to. -/
def addStage (files : FileSystem) (stage : String) : IO FileSystem := do
  let place := (← IO.currentDir) / stage
  unless ← place.pathExists do return files
  let real := (← IO.FS.realPath place).toString
  let files := if ← place.isDir then files.addDirectory (files.namesOf ⟨real⟩) else files
  match place.parent, place.fileName with
  | some parent, some name =>
    if (← place.symlinkMetadata).type == .symlink then
      let around := files.namesOf ⟨(← IO.FS.realPath parent).toString⟩
      return files.putAt (around ++ [name]) (.link ⟨real⟩)
    return files
  | _, _ => return files

/-- Takes what a path leads to into memory. -/
def addPath (loaded : Loaded) (path : String) : IO Loaded := do
  let place := (← IO.currentDir) / path
  let loaded ←
    if path ≠ "" && (← place.pathExists) then loaded.add (← IO.FS.realPath place).toString
    else pure loaded
  return { loaded with files := ← (stages path).foldlM addStage loaded.files }

/-- The files that arguments name. -/
def filesOf (arguments : List String) : IO FileSystem := do
  let root := FileSystem.ofWorking []
  let working := root.namesOf ⟨(← IO.currentDir).toString⟩
  let settings := (CommandOptions.ofArguments arguments.tail).1.settings
  let named := arguments.take 1 ++ (settings.map (·.text)).toList
  return (← named.foldlM addPath ⟨FileSystem.ofWorking working, []⟩).files

/-- The preferences that the environment chooses. -/
def preferences : IO Preferences := do
  let values ← Preferences.variableNames.mapM fun name => do return (name, ← IO.getEnv name)
  return Preferences.ofEnvironment fun name =>
    (values.find? fun entry => entry.1 = name).bind (·.2)

/-- The present time. -/
def time : IO String := do
  let now := Std.Time.DateTime.ofTimestamp (← Std.Time.Timestamp.now) .UTC
  return now.format "uuuu-MM-dd'T'HH:mm:ss.SSSSSSSSSxxx"

end Stencil.Program

open Stencil Program in
def main (arguments : List String) : IO UInt32 := do
  let surroundings : Surroundings :=
    ⟨(← IO.appPath).toString, ← preferences, ← filesOf arguments, ← time⟩
  let result := Command.run surroundings arguments
  IO.print result.session.output
  IO.eprint result.session.errors
  return result.status.toUInt32
