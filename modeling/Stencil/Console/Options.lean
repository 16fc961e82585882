import Stencil.Batch.Run
/-!
# Options of the command

What follows the name of a template or a directory on the command line. What is not understood is
warned about and skipped.
-/

namespace Stencil

/-- What a command is to do with a template or a directory. -/
structure CommandOptions where
  batch : BatchSetup := {}
  /-- The file that the delimiters are loaded from. -/
  settings : Option Path := none
  showsTokens : Bool := false
  showsTree : Bool := false
  showsFacts : Bool := false
  /-- Results are written as JSON. -/
  isJson : Bool := false

namespace CommandOptions

/-- The number a text stands for: digits, with a plus in front at most, below 2^64. -/
def countOf? (text : String) : Option Nat :=
  let digits := match text.toList with
    | '+' :: rest => rest
    | chars => chars
  if digits.isEmpty || !digits.all Char.isDigit then none
  else
    let number := digits.foldl (fun n c => n * 10 + (c.toNat - '0'.toNat)) 0
    if number < 1 <<< 64 then some number else none

/-- Options with a number of workers. -/
def setThreads (options : CommandOptions) (threads : Nat) : CommandOptions :=
  { options with batch := { options.batch with threads := threads } }

/-- Options with a change to the files that are selected. -/
def select (options : CommandOptions) (change : Selection → Selection) : CommandOptions :=
  { options with batch := { options.batch with selection := change options.batch.selection } }

/-- Options with a number of workers from a text, and a warning if it is none. -/
def readThreads (options : CommandOptions) (text : String) : CommandOptions × List String :=
  match countOf? text with
  | some threads => (options.setThreads threads, [])
  | none => (options, ["Warning: Invalid thread count '" ++ text ++ "', using default"])

/-- Options with a number of files from a text, and a warning if it is none. -/
def readMaxFiles (options : CommandOptions) (text : String) : CommandOptions × List String :=
  match countOf? text with
  | some count => (options.select fun selection => { selection with maxFiles := some count }, [])
  | none => (options, ["Warning: Invalid max files '" ++ text ++ "', ignoring"])

/-- Options with one that stands alone, and a warning if there is no such option. -/
def readFlag (options : CommandOptions) (flag : String) : CommandOptions × List String :=
  match flag with
  | "--tokens" => ({ options with showsTokens := true }, [])
  | "--tree" => ({ options with showsTree := true }, [])
  | "--facts" => ({ options with showsFacts := true }, [])
  | "--json" => ({ options with isJson := true }, [])
  | "--sequential" => (options.setThreads 1, [])
  | "--no-recursive" =>
    (options.select fun selection => { selection with isRecursive := false }, [])
  | "--fail-fast" => ({ options with batch := { options.batch with isFailFast := true } }, [])
  | "--quiet" => ({ options with batch := { options.batch with showsProgress := false } }, [])
  | "--config" => (options, ["Warning: --config requires a file path"])
  | "--threads" => (options, ["Warning: --threads requires a number"])
  | "--max-files" => (options, ["Warning: --max-files requires a number"])
  | flag => (options, ["Warning: Unknown option '" ++ flag ++ "'"])

/-- Options with those of arguments, and the warnings about them. -/
def readAll (options : CommandOptions) : List String → CommandOptions × List String
  | [] => (options, [])
  | "--config" :: path :: rest => readAll { options with settings := some ⟨path⟩ } rest
  | "--threads" :: count :: rest =>
    let (options, warnings) := options.readThreads count
    let (options, later) := readAll options rest
    (options, warnings ++ later)
  | "--max-files" :: count :: rest =>
    let (options, warnings) := options.readMaxFiles count
    let (options, later) := readAll options rest
    (options, warnings ++ later)
  | flag :: rest =>
    let (options, warnings) := options.readFlag flag
    let (options, later) := readAll options rest
    (options, warnings ++ later)

/-- The options of arguments, and the warnings about them. JSON is shown without progress. -/
def ofArguments (arguments : List String) : CommandOptions × List String :=
  let (options, warnings) := readAll {} arguments
  if options.isJson then
    ({ options with batch := { options.batch with showsProgress := false } }, warnings)
  else
    (options, warnings)

end CommandOptions
end Stencil
