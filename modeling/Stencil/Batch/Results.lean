import Stencil.Check.Statistics
/-!
# Results of a batch

The files of a batch that were checked and those that could not be, each in order.
-/

namespace Stencil

/-- What came of checking one file. -/
abbrev FileOutcome := Except CheckFault CheckedTemplate

/-- The files of a batch by what came of them. -/
structure BatchResults where
  successes : List (Path × CheckedTemplate) := []
  failures : List (Path × CheckFault) := []
  /-- The number of files that were worked on. -/
  processed : Nat := 0
  /-- The number of files the batch was to take. -/
  discovered : Nat := 0

namespace BatchResults

/-- The results with what came of another file. -/
def add (results : BatchResults) (path : Path) (outcome : FileOutcome) : BatchResults :=
  match outcome with
  | .ok checked =>
    { results with
      successes := results.successes ++ [(path, checked)], processed := results.processed + 1 }
  | .error fault =>
    { results with
      failures := results.failures ++ [(path, fault)], processed := results.processed + 1 }

/-- The results of files with a number of files to take. -/
def ofOutcomes (discovered : Nat) (outcomes : List (Path × FileOutcome)) : BatchResults :=
  outcomes.foldl (fun results outcome => results.add outcome.1 outcome.2)
    { discovered := discovered }

/-- The number of files that were checked. -/
def successCount (results : BatchResults) : Nat := results.successes.length

/-- The number of files that could not be checked. -/
def failureCount (results : BatchResults) : Nat := results.failures.length

/-- The number of files with diagnostics. -/
def withDiagnostics (results : BatchResults) : Nat :=
  results.successes.countP fun success => success.2.hasDiagnostics

/-- Whether nothing is wrong with any file. -/
def isClean (results : BatchResults) : Bool :=
  results.failureCount = 0 && results.withDiagnostics = 0

/-- The share of files that were checked. -/
def successRate (results : BatchResults) : Ratio :=
  Ratio.quotient results.successCount results.processed

/-- The sums over the files that were checked. -/
def statistics (results : BatchResults) : CheckStatistics :=
  CheckStatistics.ofTemplates (results.successes.map (·.2))

/-- The results in one line. -/
def summary (results : BatchResults) : String :=
  "Batch processing completed: " ++ toString results.processed ++ " files processed, " ++
    toString results.successCount ++ " successful (" ++ results.successRate.percent ++ "%), " ++
    toString results.withDiagnostics ++ " with diagnostics, " ++
    toString results.failureCount ++ " failed, 0.00s total"

/-- What is told of a batch that ran to its end. -/
def completed (results : BatchResults) (threads : Nat) : Event :=
  .success .batchComplete "Batch processing completed"
    [("files_processed", toString results.processed),
     ("successful", toString results.successCount),
     ("with_diagnostics", toString results.withDiagnostics),
     ("failed", toString results.failureCount), ("threads_used", toString threads),
     ("duration_ms", "0.00")]

end BatchResults
end Stencil
