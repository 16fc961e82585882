import Stencil.Decimal.Ratio
import Stencil.Files.System
import Stencil.Journal.Event
import Stencil.Preferences
import Stencil.Text.Quoted
/-!
# Template files

A template is read from a file of limited size, of limited length and in UTF-8. Its name should have
one of a few extensions; whether it must is a preference.
-/

namespace Stencil

/-- The extensions of template files. -/
def templateExtensions : List String := ["j2", "jinja", "jinja2", "html", "htm", "txt"]

/-- Whether an extension is one of a template file. -/
def isTemplateExtension (extension : Option String) : Bool :=
  extension.any templateExtensions.contains

/-- Why a file cannot be read as a template. -/
inductive ReadingFault where
  | notFound (path : String)
  | invalidExtension (extension : Option String)
  | tooLarge (size limit : Nat)
  | tooManyLines (lines limit : Nat)
  | permissionDenied (path : String)
  | invalidEncoding (path : String)
  | unreadable (reason : String)
  | invalidPath (path : String)
  deriving DecidableEq

namespace ReadingFault

/-- An extension or the lack of one, for a reader. -/
def extensionText : Option String → String
  | none => "None"
  | some extension => "Some(" ++ Text.quote extension ++ ")"

/-- What went wrong, in one line. -/
def message : ReadingFault → String
  | .notFound path => "File not found: " ++ path
  | .invalidExtension extension =>
    "Invalid file extension: expected a template extension, found " ++ extensionText extension
  | .tooLarge size limit =>
    "File too large: " ++ toString size ++ " bytes (max: " ++ toString limit ++ ")"
  | .tooManyLines lines limit =>
    "File exceeds maximum line count: " ++ toString lines ++ " (max: " ++ toString limit ++ ")"
  | .permissionDenied path => "Permission denied: " ++ path
  | .invalidEncoding path => "Invalid UTF-8 encoding in file: " ++ path
  | .unreadable reason => "I/O error reading file: " ++ reason
  | .invalidPath path => "Invalid file path: " ++ path

/-- The code of a fault. -/
def code : ReadingFault → Code
  | .notFound _ => .fileNotFound
  | .invalidExtension _ => .invalidExtension
  | .tooLarge .. => .fileTooLarge
  | .tooManyLines .. => .tooManyLines
  | .permissionDenied _ => .permissionDenied
  | .invalidEncoding _ => .invalidEncoding
  | .unreadable _ => .ioError
  | .invalidPath _ => .invalidPath

end ReadingFault

/-- A template file and what is known of it. -/
structure TemplateFile where
  /-- Where the file is, from the root. -/
  path : Path
  /-- The number of bytes. -/
  size : Nat
  /-- The extension of the name in small letters. -/
  extension : Option String
  lines : Nat
  /-- The second the file was last modified. -/
  modified : Nat
  source : String

namespace TemplateFile

/-- Whether the name has an extension of a template file. -/
def isTemplate (file : TemplateFile) : Bool := isTemplateExtension file.extension

/-- Whether a size is worth telling. -/
def isLargeSize (size : Nat) : Bool := Limits.largeFileThreshold < size

/-- Whether the file is worth telling to be large. -/
def isLarge (file : TemplateFile) : Bool := isLargeSize file.size

/-- The size in units of 1024 bytes. -/
def kibibytes (file : TemplateFile) : Ratio := Ratio.quotient file.size 1024

/-- Whether the file has nothing but blank characters. -/
def isBlank (file : TemplateFile) : Bool := Text.isBlankText file.source

/-- What is known of the file, as data. -/
def toJson (file : TemplateFile) : Json :=
  .obj
    [("path", file.path.text), ("size", file.size), ("extension", .ofOption .str file.extension),
     ("line_count", file.lines), ("is_template_file", file.isTemplate)]

/-- The number of lines: every line feed ends one, and so does the end of a text that does not end
in a line feed. -/
def lineCount (text : String) : Nat :=
  let ended := text.foldl (fun count c => if c = '\n' then count + 1 else count) 0
  if text = "" || text.endsWith "\n" then ended else ended + 1

/-- The number of bytes, from an offset on, of whole characters. -/
def validSize (bytes : ByteArray) (offset : Nat) : Nat :=
  if offset < bytes.size then
    match bytes.utf8DecodeChar? offset with
    | some c => validSize bytes (offset + c.utf8Size)
    | none => offset
  else
    offset
termination_by bytes.size - offset
decreasing_by
  have := Char.utf8Size_pos c
  omega

end TemplateFile

/-- What came of reading a file, and what is told of it. -/
structure ReadingReport where
  outcome : Except ReadingFault TemplateFile
  events : List Event

namespace ReadingReport

/-- Reading failed. The message is the one of the fault. -/
def failed (fault : ReadingFault) (entries : List (String × String) := []) : ReadingReport :=
  ⟨.error fault, [.error fault.code fault.message entries]⟩

/-- A report with events that came before. -/
def after (events : List Event) (report : ReadingReport) : ReadingReport :=
  { report with events := events ++ report.events }

/-- What is told of a template that was read. -/
def readEvent (preferences : ReadingPreferences) (path : Path) (file : TemplateFile) : Event :=
  let basics := [("file", path.text), ("lines", toString file.lines)]
  let details :=
    [("size_kib", file.kibibytes.text 1), ("large", toString file.isLarge), ("duration_ms", "0.00")]
  .success .fileProcessingSuccess "Template read"
    (if preferences.reportsDetails then basics ++ details else basics)

/-- Reads the content of a file as a template. -/
def ofContent (preferences : ReadingPreferences) (path : Path) (place : Trail)
    (content : ByteArray) (modified : Nat) : ReadingReport :=
  let named := [("file", path.text)]
  let canonical := FileSystem.canonical place
  let extension := canonical.extension?.map Text.lower
  if Limits.maxFileSize < content.size then
    failed (.tooLarge content.size Limits.maxFileSize) named
  else
    let isTemplate := isTemplateExtension extension
    let odd : ReadingFault := .invalidExtension extension
    let entries := named ++ [("extension", extension.getD "none")]
    if preferences.requiresExtension && !isTemplate then failed odd entries
    else
      after
        (if isTemplate then []
        else [.warning odd.code "Reading a file without a template extension" entries])
        (match String.fromUTF8? content with
        | none =>
          failed (.invalidEncoding canonical.text)
            (named ++ [("valid_up_to", toString (TemplateFile.validSize content 0))])
        | some source =>
          let lines := TemplateFile.lineCount source
          if Limits.maxLineCount < lines then
            let fault : ReadingFault := .tooManyLines lines Limits.maxLineCount
            ⟨.error fault,
              [.error fault.code "File exceeds maximum line count for safe analysis"
                (named ++ [("lines", toString lines),
                  ("max_lines", toString Limits.maxLineCount)])]⟩
          else
            let file : TemplateFile :=
              ⟨canonical, content.size, extension, lines, modified, source⟩
            ⟨.ok file, [readEvent preferences path file]⟩)

/-- Reads a file as a template. -/
def ofPath (preferences : ReadingPreferences) (files : FileSystem) (path : Path) : ReadingReport :=
  after [.debug "Starting file processing" [("file", path.text)]]
    (match files.locate path with
    | .error _ =>
      if path.text = "" then failed (.invalidPath path.text) else failed (.notFound path.text)
    | .ok place =>
      match files.entryAt? place with
      | some (.file content modified) => ofContent preferences path place content modified
      | _ => failed (.invalidPath path.text))

end ReadingReport
end Stencil
