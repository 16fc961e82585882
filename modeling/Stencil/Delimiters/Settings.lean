import Stencil.Delimiters.Validation
import Stencil.Files.System
import Stencil.Json
import Stencil.Toml.Document
import Stencil.Toml.Writer
/-!
# Stored delimiters

Delimiters are stored as a document with one line for each setting. A document need not give every
setting, and may give more; what it gives is trimmed, and is not validated.
-/

namespace Stencil

/-- Why delimiters cannot be had. -/
inductive SettingsFault where
  | unusable (fault : DelimiterFault)
  | inaccessible (path : Path) (reason : String)
  | malformed (path : Path) (reason : String)
  deriving DecidableEq

namespace SettingsFault

/-- What went wrong, in one line. -/
def message : SettingsFault → String
  | .unusable fault => fault.message
  | .inaccessible path reason =>
    "Cannot access delimiter settings '" ++ path.text ++ "': " ++ reason
  | .malformed path reason =>
    "Invalid delimiter settings '" ++ path.text ++ "': " ++ reason

/-- The code of a fault. -/
def code : SettingsFault → Code
  | .unusable fault => fault.code
  | .inaccessible .. => .settingsIoError
  | .malformed .. => .settingsFormatError

end SettingsFault

namespace Delimiters

/-- The delimiters of a document. A setting that is missing has its stock value. -/
def ofToml? (text : String) : Option Delimiters := do
  let table ← Toml.document? text
  let given ← Field.all.foldlM (fun (d : Delimiters) field =>
    match table.get? field.key with
    | none => some d
    | some (.value (.text value)) => some (d.set field value)
    | some _ => none) {}
  return given.trimmed

/-- Delimiters as data. -/
def toJson (d : Delimiters) : Json :=
  .obj (d.entries.map fun entry => (entry.1.key, Json.str entry.2))

/-- The document of delimiters. -/
def toToml (d : Delimiters) : String :=
  String.join (d.entries.map fun entry => entry.1.key ++ " = " ++ Toml.write entry.2 ++ "\n")

/-- What is said of a text that is no document of delimiters. -/
def malformedReason : String := "expected a TOML document with a string for each setting"

/-- Loads delimiters from a file. -/
def load (files : FileSystem) (path : Path) : Except SettingsFault Delimiters :=
  match files.readText path with
  | .error fault => .error (.inaccessible path fault.message)
  | .ok text =>
    match ofToml? text with
    | none => .error (.malformed path malformedReason)
    | some d => .ok d

/-- Saves delimiters in a file, and makes its directory if there is none. -/
def save (d : Delimiters) (files : FileSystem) (path : Path) (modified : Nat) :
    Except SettingsFault FileSystem := do
  let parent := path.parent?.getD ⟨""⟩
  let files ← (files.makeDirectories parent).mapError fun fault =>
    .inaccessible parent fault.message
  (files.write path d.toToml.toUTF8 modified).mapError fun fault =>
    .inaccessible path fault.message

end Delimiters
end Stencil
