import Stencil.Text.Blank
import Stencil.Text.LowerCase
/-!
# Levels

Every event has a level, and a log takes the events up to some level.
-/

namespace Stencil

/-- How urgent an event is, most urgent first. -/
inductive Level where
  | error | warning | info | debug
  deriving DecidableEq

namespace Level

/-- Every level, in order. -/
def all : List Level := [.error, .warning, .info, .debug]

/-- The place of a level in the order. -/
def rank : Level → Nat
  | .error => 0
  | .warning => 1
  | .info => 2
  | .debug => 3

/-- The name of a level in log lines. -/
def name : Level → String
  | .error => "ERROR" | .warning => "WARN" | .info => "INFO" | .debug => "DEBUG"

/-- The name of a level in data. -/
def dataName : Level → String
  | .error => "Error" | .warning => "Warning" | .info => "Info" | .debug => "Debug"

/-- The words and numbers that stand for a level in settings. -/
def words : Level → List String
  | .error => ["error", "0"]
  | .warning => ["warning", "warn", "1"]
  | .info => ["info", "2"]
  | .debug => ["debug", "3"]

/-- The level a text stands for. Blanks around it and the case of its letters do not matter. -/
def ofText? (text : String) : Option Level :=
  let word := Text.lower (Text.trim text)
  all.find? fun level => level.words.contains word

/-- Whether a log that goes down to `lowest` takes events of a level. -/
def takes (lowest level : Level) : Bool := level.rank ≤ lowest.rank

end Level
end Stencil
