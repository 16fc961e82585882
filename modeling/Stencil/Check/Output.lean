import Stencil.Check.Template
/-!
# The result of a check as data

The result of a check as JSON, with the tokens and the tree if they are wanted.
-/

namespace Stencil
namespace CheckedTemplate

/-- A diagnostic and its place. -/
def diagnosticData (map : SourceMap) (diagnostic : Diagnostic) : Json :=
  let place := map.positionAt diagnostic.offset
  .obj
    [("code", diagnostic.fault.code.text), ("message", diagnostic.message),
     ("offset", diagnostic.offset), ("line", place.line), ("column", place.column)]

/-- A token and its text. -/
def tokenData (source : String) (token : Token) : Json :=
  .obj
    [("kind", token.kind.dataName), ("text", token.text source), ("start", token.start),
     ("end", token.stop)]

/-- The names of the stages that are timed, in order. -/
def timedStages : List String := ["facts", "parse", "read", "tokenize", "total", "validate"]

/-- The result as data. -/
def toJson (checked : CheckedTemplate) (withTokens withTree : Bool) : Json :=
  let map := SourceMap.ofSource checked.stream.source
  let tokens :=
    if withTokens then
      some (.arr (checked.stream.tokens.toList.map (tokenData checked.stream.source)))
    else
      none
  .obj
    ([("file", .str checked.path.text), ("size_bytes", .nat checked.file.size),
      ("line_count", .nat checked.file.lines), ("token_count", .nat checked.tokenCount),
      ("node_count", .nat checked.nodeCount),
      ("diagnostics", .arr (checked.parsed.diagnostics.toList.map (diagnosticData map)))] ++
      Json.optionalField "facts" (checked.facts.map Facts.toJson) ++
      [("facts_from_cache", .bool checked.factsWereKept),
       ("timings_ms", .obj (timedStages.map fun stage => (stage, .number "0.0")))] ++
      Json.optionalField "tokens" tokens ++
      Json.optionalField "tree" (if withTree then some checked.parsed.tree.toJson else none))

end CheckedTemplate
end Stencil
