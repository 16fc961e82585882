import Stencil.Batch.Results
import Stencil.Console.Options
/-!
# Reports

The results of a check and of a batch, line by line, for a reader.
-/

namespace Stencil

/-- Names with commas between them, or a dash if there is none. -/
def joinNames (names : List String) : String :=
  if names.isEmpty then "-" else String.intercalate ", " names

namespace Facts

/-- Facts line by line. -/
def reportLines (facts : Facts) : List String :=
  ["  variables:    " ++ joinNames facts.values,
   "  macros:       " ++ joinNames facts.macros,
   "  blocks:       " ++ joinNames facts.blocks,
   "  filters:      " ++ joinNames facts.filters,
   "  dependencies: " ++ joinNames facts.dependencies,
   "  complexity:   " ++ toString facts.complexity]

end Facts

namespace CheckedTemplate

/-- A token with its range, its kind and its text. -/
def tokenLine (source : String) (token : Token) : String :=
  "  " ++ Text.padLeft 6 (toString token.start) ++ ".." ++
    Text.padRight 6 (toString token.stop) ++ " " ++ Text.padRight 22 token.kind.name ++ " " ++
    Text.quote (token.text source)

/-- The tokens, if they are wanted. -/
def tokenLines (checked : CheckedTemplate) (options : CommandOptions) : List String :=
  if options.showsTokens then
    ["", "Tokens:"] ++ checked.stream.tokens.toList.map (tokenLine checked.stream.source)
  else
    []

/-- The tree, if it is wanted. -/
def treeText (checked : CheckedTemplate) (options : CommandOptions) : String :=
  if options.showsTree then
    "\nSyntax tree:\n" ++ checked.parsed.tree.dump checked.stream
  else
    ""

/-- The facts, if they are wanted and were collected. -/
def factLines (checked : CheckedTemplate) (options : CommandOptions) : List String :=
  match options.showsFacts, checked.facts with
  | true, some facts => ["", "Facts:"] ++ facts.reportLines
  | _, _ => []

/-- The counts of a check. -/
def countLine (checked : CheckedTemplate) : String :=
  let counts :=
    toString checked.tokenCount ++ " tokens, " ++ toString checked.nodeCount ++ " nodes, "
  if checked.hasDiagnostics then
    "DONE: " ++ counts ++ toString checked.diagnosticCount ++ " diagnostics"
  else
    "SUCCESS: " ++ counts ++ "no diagnostics"

end CheckedTemplate

namespace BatchResults

/-- A number and the share it is. -/
def shareLine (title : String) (count : Nat) (rate : Ratio) : String :=
  "  " ++ title ++ ": " ++ toString count ++ " (" ++ rate.percent ++ "%)"

/-- The files that could not be checked. -/
def failureLines (results : BatchResults) : List String :=
  if results.failures.isEmpty then []
  else
    ["", "Failed Files:"] ++
      results.failures.map fun failure => "  " ++ failure.1.text ++ ": " ++ failure.2.title

/-- The number of files that are listed one by one. -/
def maxListed : Nat := 10

/-- The files that were checked, unless there are too many. -/
def successLines (results : BatchResults) : List String :=
  if results.successes.isEmpty || maxListed < results.successCount then []
  else
    ["", "Processed Files:"] ++
      results.successes.map fun success =>
        "  " ++ success.1.text ++ ": " ++ toString success.2.tokenCount ++ " tokens, " ++
          toString success.2.diagnosticCount ++ " diagnostics"

/-- The sums and the files of a batch. -/
def reportLines (results : BatchResults) : List String :=
  let statistics := results.statistics
  ["Batch Processing Summary:",
   "  Files discovered: " ++ toString results.discovered,
   "  Files processed: " ++ toString results.processed,
   shareLine "Successful" results.successCount results.successRate,
   shareLine "Clean" statistics.clean statistics.cleanRate,
   "  Failed: " ++ toString results.failureCount,
   "  Diagnostics: " ++ toString statistics.diagnostics,
   "  Facts cache hits: " ++ toString statistics.factsKept,
   "  Total time: 0.00s"] ++ results.failureLines ++ results.successLines

end BatchResults
end Stencil
