import Stencil.Journal.Code
import Stencil.Json
/-!
# Facts

The names a template uses and defines, and how complex it is.
-/

namespace Stencil

/-- The sets that names are collected in. -/
inductive NameSet where
  /-- Names of values, and the targets of loops and assignments. -/
  | values
  | macros
  | blocks
  | filters
  /-- Other templates that are named by strings. -/
  | dependencies
  deriving DecidableEq

/-- The name of a set. -/
def NameSet.name : NameSet → String
  | .values => "variables" | .macros => "macros" | .blocks => "blocks"
  | .filters => "filters" | .dependencies => "dependencies"

/-- What is known of a template. Each set is sorted and names nothing twice. -/
structure Facts where
  values : List String := []
  macros : List String := []
  blocks : List String := []
  filters : List String := []
  dependencies : List String := []
  /-- The number of statements with a body and of `elif` branches. -/
  complexity : Nat := 0
  deriving DecidableEq

namespace Facts

/-- The number of names in all sets. -/
def nameCount (facts : Facts) : Nat :=
  facts.values.length + facts.macros.length + facts.blocks.length + facts.filters.length +
    facts.dependencies.length

/-- Whether nothing is known. -/
def isEmpty (facts : Facts) : Bool := facts.nameCount = 0 && facts.complexity = 0

/-- Facts as data. -/
def toJson (facts : Facts) : Json :=
  .obj
    [("variables", Json.strs facts.values), ("macros", Json.strs facts.macros),
     ("blocks", Json.strs facts.blocks), ("filters", Json.strs facts.filters),
     ("dependencies", Json.strs facts.dependencies), ("complexity", facts.complexity)]

end Facts

/-- What can go wrong in analysis. None of it stops work on a file. -/
inductive AnalysisFault where
  | tooManyNames (set : String) (limit : Nat)
  | cacheUnavailable
  deriving DecidableEq

namespace AnalysisFault

/-- What went wrong, in one line. -/
def message : AnalysisFault → String
  | .tooManyNames set limit =>
    "Too many " ++ set ++ " (limit " ++ toString limit ++ "); further names are dropped"
  | .cacheUnavailable => "Facts cache is unavailable after a worker panic"

/-- The code of a fault. -/
def code : AnalysisFault → Code
  | .tooManyNames .. => .factsLimitExceeded
  | .cacheUnavailable => .cacheUnavailable

/-- Work on the file goes on after every fault. -/
def isRecoverable (_ : AnalysisFault) : Bool := true

end AnalysisFault
end Stencil
