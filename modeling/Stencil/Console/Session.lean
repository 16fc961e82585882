import Stencil.Batch.Run
import Stencil.Journal.Basic
import Stencil.Preferences
/-!
# Sessions

What a run of the command writes to its two channels. The log is written as events come in, if it
goes to the console: errors and warnings to one channel, everything else to the other.
-/

namespace Stencil

/-- A run of the command so far. -/
structure Session where
  log : LogPreferences
  /-- The time that events are given. -/
  time : String
  journal : Journal
  output : String := ""
  errors : String := ""

namespace Session

/-- A run before its first line. -/
def start (log : LogPreferences) (time : String) : Session where
  log := log
  time := time
  journal := { service := { lowest := log.lowest }, namesFile := log.namesFile }

/-- Text for the first channel. -/
def write (session : Session) (text : String) : Session :=
  { session with output := session.output ++ text }

/-- A line for the first channel. -/
def say (session : Session) (line : String) : Session := session.write (line ++ "\n")

/-- Lines for the first channel. -/
def sayAll (session : Session) (lines : List String) : Session := lines.foldl say session

/-- A line for the second channel. -/
def complain (session : Session) (line : String) : Session :=
  { session with errors := session.errors ++ line ++ "\n" }

/-- Lines for the second channel. -/
def complainAll (session : Session) (lines : List String) : Session := lines.foldl complain session

/-- An event as a line of the log. -/
def logLine (session : Session) (event : Event) : String :=
  if session.log.structured then (event.toJson (some session.time)).compact else event.line

/-- Shows an event, if the log goes to the console and takes it. -/
def display (session : Session) (event : Event) : Session :=
  if session.log.console && session.log.lowest.takes event.level then
    if event.isError || event.isWarning then session.complain (session.logLine event)
    else session.say (session.logLine event)
  else
    session

/-- Takes an event. -/
def note (session : Session) (event : Event) : Session :=
  let event := event.bounded
  let shown := session.display (session.journal.withFile event)
  { shown with journal := session.journal.take event }

/-- Takes events in order. -/
def noteAll (session : Session) (events : List Event) : Session := events.foldl note session

/-- Takes the events of a file. -/
def noteFile (session : Session) (path : Path) (id : Nat) (events : List Event) : Session :=
  let inside := { session with journal := session.journal.enter path id }.noteAll events
  { inside with journal := inside.journal.leave }

/-- Takes what happened in a batch. -/
def follow (session : Session) (happenings : List Happening) : Session :=
  happenings.foldl (fun session happening =>
    match happening with
    | .note event => session.note event
    | .progress line => session.say line
    | .file job events => session.noteFile job.path job.id events) session

/-- Lists the errors and warnings of all files, if that is wanted. -/
def summarize (session : Session) : Session :=
  if session.log.summary then session.write session.journal.collector.report else session

end Session
end Stencil
