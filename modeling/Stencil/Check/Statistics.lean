import Stencil.Check.Template
/-!
# Statistics of checks

Sums over the templates that were checked, and the ratios of them that are shown.
-/

namespace Stencil

/-- Sums over templates. -/
structure CheckStatistics where
  files : Nat := 0
  filesWithDiagnostics : Nat := 0
  diagnostics : Nat := 0
  tokens : Nat := 0
  nodes : Nat := 0
  bytes : Nat := 0
  /-- The number of templates whose facts were kept. -/
  factsKept : Nat := 0
  milliseconds : Nat := 0
  deriving DecidableEq

namespace CheckStatistics

/-- The sums over templates that were checked. -/
def ofTemplates (templates : List CheckedTemplate) : CheckStatistics where
  files := templates.length
  filesWithDiagnostics := templates.countP CheckedTemplate.hasDiagnostics
  diagnostics := (templates.map CheckedTemplate.diagnosticCount).foldl (· + ·) 0
  tokens := (templates.map CheckedTemplate.tokenCount).foldl (· + ·) 0
  nodes := (templates.map CheckedTemplate.nodeCount).foldl (· + ·) 0
  bytes := (templates.map fun checked => checked.file.size).foldl (· + ·) 0
  factsKept := templates.countP CheckedTemplate.factsWereKept

/-- The number of templates without diagnostics. -/
def clean (statistics : CheckStatistics) : Nat :=
  statistics.files - statistics.filesWithDiagnostics

/-- The share of templates without diagnostics. -/
def cleanRate (statistics : CheckStatistics) : Ratio :=
  Ratio.quotient statistics.clean statistics.files

/-- The time in seconds. -/
def seconds (statistics : CheckStatistics) : Ratio :=
  (Ratio.ofNat (statistics.milliseconds / 1000)).plus
    (Ratio.quotient (statistics.milliseconds % 1000) 1000)

/-- The number of bytes for a second. -/
def throughput (statistics : CheckStatistics) : Ratio :=
  (Ratio.ofNat statistics.bytes).per statistics.seconds

/-- The sums as data. -/
def toJson (statistics : CheckStatistics) : Json :=
  .obj
    [("files", statistics.files), ("files_with_diagnostics", statistics.filesWithDiagnostics),
     ("total_diagnostics", statistics.diagnostics), ("total_tokens", statistics.tokens),
     ("total_nodes", statistics.nodes), ("total_bytes", statistics.bytes),
     ("facts_cache_hits", statistics.factsKept)]

end CheckStatistics
end Stencil
