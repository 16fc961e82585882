import Stencil.Facts.Cache
import Stencil.Facts.Collect
import Stencil.Parser.Report
import Stencil.Check.Fault
/-!
# Checking a template

A check validates the delimiters, reads the file, splits it into tokens, parses them and collects
facts. Facts are taken from a cache where it has them.
-/

namespace Stencil

/-- How templates are checked. -/
structure CheckSetup where
  delimiters : Delimiters := {}
  preferences : Preferences := {}

/-- A template that was checked. -/
structure CheckedTemplate where
  path : Path
  file : TemplateFile
  stream : TokenStream
  parsed : ParsedTemplate
  metrics : LexicalMetrics
  facts : Option Facts
  /-- The facts are from the cache. -/
  factsWereKept : Bool

/-- The cache of facts, if there is one. -/
abbrev FactsCache := Option (Cache Facts)

/-- What came of a check, the cache after it, and what is told of it. -/
structure CheckReport where
  outcome : Except CheckFault CheckedTemplate
  cache : FactsCache
  events : List Event

namespace CheckedTemplate

/-- The number of tokens. -/
def tokenCount (checked : CheckedTemplate) : Nat := checked.stream.size

/-- The number of nodes. -/
def nodeCount (checked : CheckedTemplate) : Nat := checked.parsed.statistics.nodeCount

/-- The number of diagnostics. -/
def diagnosticCount (checked : CheckedTemplate) : Nat := checked.parsed.diagnostics.size

/-- Whether anything is wrong with the template. -/
def hasDiagnostics (checked : CheckedTemplate) : Bool := checked.parsed.hasDiagnostics

/-- The diagnostics for a reader, each with its line. -/
def diagnosticsReport (checked : CheckedTemplate) : String :=
  let map := SourceMap.ofSource checked.stream.source
  String.join (checked.parsed.diagnostics.toList.map fun diagnostic =>
    (map.render? checked.path.text (map.pointSpan diagnostic.offset)
      ("[" ++ diagnostic.fault.code.text ++ "] " ++ diagnostic.message)).getD "")

/-- What is told of a check that went through. -/
def completed (checked : CheckedTemplate) : Event :=
  .success .operationCompletedSuccessfully "Template pipeline completed"
    [("file", checked.path.text), ("tokens", toString checked.tokenCount),
     ("nodes", toString checked.nodeCount), ("diagnostics", toString checked.diagnosticCount),
     ("duration_ms", "0.00"), ("tokens_per_sec", "0")]

end CheckedTemplate

namespace CheckSetup

/-- What is told when a check begins. -/
def started (setup : CheckSetup) (path : Path) : Event :=
  .info "Starting template pipeline"
    [("file", path.text), ("custom_delimiters", toString setup.delimiters.isCustom)]

/-- What is told when facts were kept. -/
def factsKept (path : Path) : Event :=
  .success .cacheHit "Reusing cached template facts" [("file", path.text)]

/-- The facts of a template, whether they were kept, the cache afterwards, and what is told. -/
def facts (setup : CheckSetup) (path : Path) (modified : Nat) (stream : TokenStream)
    (tree : SyntaxTree) (cache : FactsCache) : (Facts × Bool) × FactsCache × List Event :=
  match cache, setup.preferences.analysis.cachesFacts with
  | some kept, true =>
    let ((facts, isKept), kept, events) :=
      kept.getOrCompute path modified fun _ => Facts.collect tree stream
    ((facts, isKept), some kept, if isKept then events ++ [factsKept path] else events)
  | cache, _ =>
    let (facts, events) := Facts.collect tree stream
    ((facts, false), cache, events)

/-- Checks the tokens of a template that was read. -/
def checkStream (setup : CheckSetup) (path : Path) (file : TemplateFile) (stream : TokenStream)
    (metrics : LexicalMetrics) (cache : FactsCache) : CheckReport :=
  let parsed := stream.parse
  let parsing := parsed.events stream setup.preferences.parsing
  if setup.preferences.analysis.collectsFacts then
    let ((facts, isKept), cache, collecting) :=
      setup.facts path file.modified stream parsed.tree cache
    let checked : CheckedTemplate := ⟨path, file, stream, parsed, metrics, some facts, isKept⟩
    ⟨.ok checked, cache, parsing ++ collecting ++ [checked.completed]⟩
  else
    let checked : CheckedTemplate := ⟨path, file, stream, parsed, metrics, none, false⟩
    ⟨.ok checked, cache, parsing ++ [checked.completed]⟩

/-- Checks a template that was read. -/
def checkFile (setup : CheckSetup) (path : Path) (file : TemplateFile) (cache : FactsCache) :
    CheckReport :=
  let lexed := LexicalReport.ofSource file.source setup.delimiters setup.preferences.lexing
  match lexed.outcome with
  | .error fault => ⟨.error (.lexing fault), cache, lexed.events⟩
  | .ok stream =>
    let report := setup.checkStream path file stream lexed.metrics cache
    { report with events := lexed.events ++ report.events }

/-- Checks the template in a file. -/
def check (setup : CheckSetup) (files : FileSystem) (path : Path) (cache : FactsCache) :
    CheckReport :=
  let begun := setup.started path
  match setup.delimiters.fault? with
  | some fault =>
    ⟨.error (.settings (.unusable fault)), cache,
      [begun, .error fault.code fault.message [("file", path.text)]]⟩
  | none =>
    let read := ReadingReport.ofPath setup.preferences.reading files path
    match read.outcome with
    | .error fault => ⟨.error (.reading fault), cache, begun :: read.events⟩
    | .ok file =>
      let report := setup.checkFile path file cache
      { report with events := begun :: read.events ++ report.events }

end CheckSetup
end Stencil
