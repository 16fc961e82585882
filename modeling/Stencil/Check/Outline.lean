import Stencil.Files.Template
import Stencil.Journal.Event
import Stencil.Limits
/-!
# The outline of a check

What a check can do, for a reader: its stages, its limits and the extensions it takes; and what is
told when a program starts.
-/

namespace Stencil.Outline

/-- The stages of a check, in order. -/
def stages : List String := ["validate", "read", "tokenize", "parse", "facts"]

/-- The name of the set of limits. -/
def profile : String := "development"

/-- The folder of the set of limits. -/
def folder : String := "config"

/-- Where the limits come from. -/
def origin : String := "Generated from " ++ folder ++ "/" ++ profile ++ ".toml"

/-- The extensions of template files in one line. -/
def extensions : String := String.intercalate ", " templateExtensions

/-- The stages and the limits, line by line. -/
def lines : List String :=
  ["Template Pipeline:",
   "- Stages: " ++ String.intercalate " -> " stages,
   "- Max File Size: " ++ toString (Limits.maxFileSize / 1048576) ++ " MB",
   "- Max Tokens: " ++ toString Limits.maxTokenCount,
   "- Max Parse Depth: " ++ toString Limits.maxParseDepth,
   "- Max Diagnostics: " ++ toString Limits.maxDiagnostics,
   "- Max Worker Threads: " ++ toString Limits.maxWorkerThreads,
   "- Supported Extensions: " ++ extensions,
   "- Build Profile: " ++ profile]

/-- The stages and the limits. -/
def report : String := String.intercalate "\n" lines

/-- The outline in one line. -/
def summary : String :=
  toString stages.length ++ "-stage template pipeline supporting " ++ extensions

/-- What is told when the log is ready. -/
def logReady : Event :=
  .success .systemInitializationCompleted "Global logging system initialized"

/-- What is said when a log is to be made ready twice. -/
def logReadyAlready : String := "Global logger already initialized"

/-- What is told of the limits on files. -/
def fileLimits : Event :=
  .debug "File processor compile-time configuration loaded"
    [("max_file_size", toString Limits.maxFileSize),
     ("large_file_threshold", toString Limits.largeFileThreshold),
     ("max_line_count", toString Limits.maxLineCount)]

/-- What is told of the limits on tokens. -/
def tokenLimits : Event :=
  .debug "Lexical limits"
    [("max_token_count", toString Limits.maxTokenCount),
     ("max_delimiter_length", toString Limits.maxDelimiterLength),
     ("max_string_size", toString Limits.maxStringSize)]

/-- What is told when a program starts. -/
def startEvents : List Event :=
  [.debug "Validating pipeline configuration", fileLimits, tokenLimits,
   .success .systemInitializationCompleted "Pipeline validation succeeded"
     [("stages_validated", toString stages.length)]]

end Stencil.Outline
