import Stencil.Files.Path
import Stencil.Journal.Event
/-!
# Events by file

Errors and warnings are also kept for each file, up to a number of events for one file. Past that
number one warning says that there were more.
-/

namespace Stencil

/-- The errors and warnings of one file, in the order they came. -/
structure FileEvents where
  path : Path
  events : Array Event

/-- The errors and warnings of all files. -/
structure Collector where
  /-- The files with events, in path order. -/
  files : List FileEvents := []
  /-- The components of the files that were worked on, each once. -/
  visited : List (List Component) := []

/-- Counts over all files. -/
structure CollectorSummary where
  files : Nat
  filesWithErrors : Nat
  /-- Files with a warning and no error. -/
  filesWithWarnings : Nat
  errors : Nat
  warnings : Nat
  deriving DecidableEq

namespace FileEvents

/-- The warning that stands for the events past the limit. -/
def overflow : Event :=
  .warning .plainWarning
    ("Too many events for file (limit: " ++ toString Limits.maxLogEventsPerFile ++ ")")

/-- Events with one more, or with the overflow warning in its place, or as they are. -/
def record (events : Array Event) (event : Event) : Array Event :=
  if events.size < Limits.maxLogEventsPerFile then events.push event
  else if events.size = Limits.maxLogEventsPerFile then events.push overflow
  else events

/-- The number of errors. -/
def errorCount (file : FileEvents) : Nat := file.events.countP Event.isError

/-- The number of warnings. -/
def warningCount (file : FileEvents) : Nat := file.events.countP Event.isWarning

/-- Where in a file an event is, on a line of its own. -/
def place (path : Path) (event : Event) : String :=
  (event.span.map fun span => "\n  --> " ++ path.text ++ ":" ++ span.start.label).getD ""

/-- The lines of an error: what it is, where, its named values and what can be done. -/
def errorReport (path : Path) (event : Event) : String :=
  let values := event.context.filter fun entry => entry.1 ≠ "file" && entry.1 ≠ "file_id"
  let help :=
    if event.code.action = Code.noAction then "" else "  = help: " ++ event.code.action ++ "\n"
  "error[" ++ event.code.text ++ "]: " ++ event.message ++ place path event ++ "\n" ++
    String.join (values.map fun entry => "  = " ++ entry.1 ++ ": " ++ entry.2 ++ "\n") ++ help

/-- The lines of a warning: what it is and where. -/
def warningReport (path : Path) (event : Event) : String :=
  "warning[" ++ event.code.text ++ "]: " ++ event.message ++ place path event ++ "\n"

/-- A file's errors and then its warnings; nothing for a file with neither. -/
def report (file : FileEvents) : String :=
  let errors := file.events.toList.filter Event.isError
  let warnings := file.events.toList.filter Event.isWarning
  if errors.isEmpty && warnings.isEmpty then ""
  else
    "Checking " ++ file.path.text ++ "...\n" ++
      String.join (errors.map (errorReport file.path)) ++
      String.join (warnings.map (warningReport file.path)) ++ "\n"

end FileEvents

namespace Collector

/-- Files with an event recorded for one of them. -/
def recordIn (path : Path) (event : Event) : List FileEvents → List FileEvents
  | [] => [⟨path, FileEvents.record #[] event⟩]
  | file :: rest =>
    match path.order file.path with
    | .lt => ⟨path, FileEvents.record #[] event⟩ :: file :: rest
    | .eq => ⟨file.path, FileEvents.record file.events event⟩ :: rest
    | .gt => file :: recordIn path event rest

/-- Records an event for a file. -/
def record (collector : Collector) (path : Path) (event : Event) : Collector :=
  { collector with files := recordIn path event collector.files }

/-- Notes that a file is worked on. -/
def visit (collector : Collector) (path : Path) : Collector :=
  let key := path.components
  if collector.visited.contains key then collector
  else { collector with visited := key :: collector.visited }

/-- The events kept for a file. -/
def eventsOf (collector : Collector) (path : Path) : Array Event :=
  ((collector.files.find? fun file => file.path.same path).map (·.events)).getD #[]

/-- The number of events kept for all files. -/
def eventCount (collector : Collector) : Nat :=
  collector.files.foldl (fun count file => count + file.events.size) 0

/-- Counts over all files. -/
def summary (collector : Collector) : CollectorSummary where
  files := max collector.visited.length collector.files.length
  filesWithErrors := collector.files.countP fun file => 0 < file.errorCount
  filesWithWarnings :=
    collector.files.countP fun file => file.errorCount = 0 && 0 < file.warningCount
  errors := (collector.files.map FileEvents.errorCount).foldl (· + ·) 0
  warnings := (collector.files.map FileEvents.warningCount).foldl (· + ·) 0

/-- A line with a count, unless it is zero. -/
def totalLine (title : String) (count : Nat) : String :=
  if count = 0 then "" else "Total " ++ title ++ ": " ++ toString count ++ "\n"

/-- The events of all files for a reader, file by file, and the totals. -/
def report (collector : Collector) : String :=
  String.join (collector.files.map FileEvents.report) ++
    totalLine "errors" collector.summary.errors ++
    totalLine "warnings" collector.summary.warnings

end Collector
end Stencil
