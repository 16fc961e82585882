import Stencil.Lexer.Report
import Stencil.Parser.Parse
/-!
# Parsing with a report

What is told of a parse: that it begins, every diagnostic if that is wanted, and its counts.
-/

namespace Stencil
namespace ParsedTemplate

/-- A warning for each diagnostic, at its place. -/
def diagnosticEvents (stream : TokenStream) (parsed : ParsedTemplate) : List Event :=
  let map := SourceMap.ofSource stream.source
  parsed.diagnostics.toList.map fun diagnostic =>
    (Event.warning diagnostic.fault.code diagnostic.message
      [("offset", toString diagnostic.offset)]).at? (map.pointSpan diagnostic.offset)

/-- A warning if there were more diagnostics than are recorded. -/
def suppressedEvents (parsed : ParsedTemplate) : List Event :=
  if parsed.statistics.suppressed = 0 then []
  else
    [.warning .plainWarning "Further syntax diagnostics suppressed"
      [("suppressed", toString parsed.statistics.suppressed)]]

/-- What is told of the diagnostics of a parse. -/
def faultEvents (stream : TokenStream) (parsed : ParsedTemplate) : List Event :=
  if parsed.hasDiagnostics then parsed.diagnosticEvents stream ++ parsed.suppressedEvents else []

/-- The events of a parse. -/
def events (stream : TokenStream) (parsed : ParsedTemplate)
    (preferences : ParsingPreferences := {}) : List Event :=
  .debug "Starting syntax analysis" [("tokens", toString stream.size)] ::
    (if preferences.reportsDiagnostics then parsed.faultEvents stream else []) ++
    [.success .parseComplete "Syntax analysis completed"
      [("nodes", toString parsed.statistics.nodeCount),
       ("statements", toString parsed.statementCount),
       ("diagnostics", toString parsed.diagnostics.size)]]

end ParsedTemplate
end Stencil
