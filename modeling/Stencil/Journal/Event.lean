import Stencil.Journal.Code
import Stencil.Journal.Level
import Stencil.Json
import Stencil.Limits
import Stencil.Source.Position
/-!
# Events

What is worth telling while templates are processed: a level, a code, a message, a place in the
source if there is one, and named values. The named values are kept in order of their names, so
that the same event always reads the same.
-/

namespace Stencil

/-- One entry of the log. -/
structure Event where
  level : Level
  code : Code
  message : String
  span : Option Span := none
  /-- Named values in order of their names, each name once. -/
  context : List (String × String) := []

namespace Event

/-- Named values with one more, or with another value for a name that is there. -/
def setEntry (key value : String) : List (String × String) → List (String × String)
  | [] => [(key, value)]
  | (other, old) :: rest =>
    if key < other then (key, value) :: (other, old) :: rest
    else if key = other then (key, value) :: rest
    else (other, old) :: setEntry key value rest

/-- An event with one more named value. -/
def withEntry (event : Event) (key value : String) : Event :=
  { event with context := setEntry key value event.context }

/-- An event with more named values; of equal names the last counts. -/
def withEntries (event : Event) (entries : List (String × String)) : Event :=
  entries.foldl (fun event entry => event.withEntry entry.1 entry.2) event

/-- An event about a place in the source. -/
def at? (event : Event) (span : Option Span) : Event := { event with span := span }

/-- Something failed. -/
def error (code : Code) (message : String) (entries : List (String × String) := []) : Event :=
  (Event.mk .error code message none []).withEntries entries

/-- Something may be wrong. -/
def warning (code : Code) (message : String) (entries : List (String × String) := []) : Event :=
  (Event.mk .warning code message none []).withEntries entries

/-- Something was done. -/
def success (code : Code) (message : String) (entries : List (String × String) := []) : Event :=
  (Event.mk .info code message none []).withEntries entries

/-- Something begins or goes on. -/
def info (message : String) (entries : List (String × String) := []) : Event :=
  success .plainInfo message entries

/-- A detail. -/
def debug (message : String) (entries : List (String × String) := []) : Event :=
  (Event.mk .debug .plainDebug message none []).withEntries entries

/-- Whether an event says that something failed. -/
def isError (event : Event) : Bool := event.level = .error

/-- Whether an event says that something may be wrong. -/
def isWarning (event : Event) : Bool := event.level = .warning

/-- A message cut to the greatest length a log line may have, with three dots where it was cut. -/
def boundMessage (message : String) : String :=
  if message.length ≤ Limits.maxLogMessageLength then message
  else String.ofList (message.toList.take Limits.maxLogMessageLength) ++ "..."

/-- An event whose message is not too long. -/
def bounded (event : Event) : Event := { event with message := boundMessage event.message }

/-! ### Written forms -/

/-- One line: level, code, message, place, and the named values in parentheses. -/
def line (event : Event) : String :=
  let place := (event.span.map fun span => " at " ++ span.start.label).getD ""
  let head := "[" ++ event.level.name ++ "] " ++ event.code.text ++ " - " ++ event.message ++ place
  if event.context.isEmpty then head
  else
    let entries := event.context.map fun entry => entry.1 ++ "=" ++ entry.2
    head ++ " (" ++ String.intercalate ", " entries ++ ")"

/-- The place of an event as data. -/
def spanData (span : Span) : Json :=
  .obj
    [("end_column", span.stop.column), ("end_line", span.stop.line),
     ("end_offset", span.stop.offset), ("start_column", span.start.column),
     ("start_line", span.start.line), ("start_offset", span.start.offset)]

/-- What is known of the code of an error, as data. -/
def codeData (code : Code) : Json :=
  .obj
    [("description", code.description), ("recommended_action", code.action),
     ("recoverable", code.isRecoverable), ("requires_halt", code.halts)]

/-- An event as data, with its time if that is known; fields in order of their names. -/
def toJson (event : Event) (time : Option String := none) : Json :=
  let context : Option Json :=
    if event.context.isEmpty then none
    else some (.obj (event.context.map fun entry => (entry.1, .str entry.2)))
  let known : Option Json := if event.isError then some (codeData event.code) else none
  .obj
    ([("category", .str event.code.category), ("code", .str event.code.text)] ++
      Json.optionalField "context" context ++ Json.optionalField "error_metadata" known ++
      [("level", .str event.level.name), ("message", .str event.message),
       ("severity", .str event.code.severity.name)] ++
      Json.optionalField "span" (event.span.map spanData) ++
      Json.optionalField "timestamp" (time.map .str))

end Event
end Stencil
