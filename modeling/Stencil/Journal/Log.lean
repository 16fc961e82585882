import Stencil.Journal.Event
/-!
# Logs

A log keeps the last so many events. A service puts events into a log up to some level.
-/

namespace Stencil

/-- The last events, oldest first. A few more than `limit` may be stored, so that old ones need not
be dropped one at a time. -/
structure EventLog where
  limit : Nat := Limits.maxLoggedEvents
  stored : Array Event := #[]

namespace EventLog

/-- The last `limit` of some events. -/
def lastOf (limit : Nat) (events : Array Event) : Array Event :=
  events.extract (events.size - limit) events.size

/-- The events a log keeps. -/
def events (log : EventLog) : Array Event := lastOf log.limit log.stored

/-- A log with one more event. -/
def push (log : EventLog) (event : Event) : EventLog :=
  let stored := log.stored.push event
  { log with stored := if stored.size ≤ 2 * log.limit then stored else lastOf log.limit stored }

/-- The number of errors a log keeps. -/
def errorCount (log : EventLog) : Nat := log.events.countP Event.isError

/-- Whether a log keeps an event with a code. -/
def hasCode (log : EventLog) (code : Code) : Bool := log.events.any fun event => event.code = code

/-- The lines of the events a log keeps. -/
def lines (log : EventLog) : List String := log.events.toList.map Event.line

end EventLog

/-- A log that takes events up to a level. -/
structure LogService where
  lowest : Level
  log : EventLog := {}

namespace LogService

/-- Puts an event into the log, if the log takes its level. -/
def record (service : LogService) (event : Event) : LogService :=
  if service.lowest.takes event.level then { service with log := service.log.push event }
  else service

end LogService
end Stencil
