import Stencil.Journal.Collector
import Stencil.Journal.Log
/-!
# The journal

The journal takes every event: it says which file the event is about, keeps it for that file if it
is an error or a warning, and puts it into the log. Nothing the library computes depends on the
journal, so the functions that compute hand out their events as lists and the journal takes them
afterwards.
-/

namespace Stencil

/-- The file that is worked on, and its number in the batch. -/
structure FileContext where
  path : Path
  id : Nat

/-- Where events go. -/
structure Journal where
  service : LogService
  /-- Events say which file they are about. -/
  namesFile : Bool := true
  collector : Collector := {}
  context : Option FileContext := none

namespace Journal

/-- The log. -/
def log (journal : Journal) : EventLog := journal.service.log

/-- An event with the file that is worked on. -/
def withFile (journal : Journal) (event : Event) : Event :=
  match journal.context with
  | some context =>
    if journal.namesFile then
      (event.withEntry "file" context.path.text).withEntry "file_id" (toString context.id)
    else
      event
  | none => event

/-- Takes an event as it is. -/
def take (journal : Journal) (event : Event) : Journal :=
  let event := journal.withFile event
  let collector := match journal.context with
    | some context =>
      if event.isError || event.isWarning then journal.collector.record context.path event
      else journal.collector
    | none => journal.collector
  { journal with collector := collector, service := journal.service.record event }

/-- Takes an event, with its message cut if it is too long. -/
def note (journal : Journal) (event : Event) : Journal := journal.take event.bounded

/-- Takes events in order. -/
def noteAll (journal : Journal) (events : List Event) : Journal := events.foldl note journal

/-- Work on a file begins. -/
def enter (journal : Journal) (path : Path) (id : Nat) : Journal :=
  { journal with collector := journal.collector.visit path, context := some ⟨path, id⟩ }

/-- Work on a file ends. -/
def leave (journal : Journal) : Journal := { journal with context := none }

/-- Takes the events of a file. -/
def noteFile (journal : Journal) (path : Path) (id : Nat) (events : List Event) : Journal :=
  ((journal.enter path id).noteAll events).leave

/-- Forgets the events of all files. -/
def clearCollector (journal : Journal) : Journal := { journal with collector := {} }

end Journal
end Stencil
