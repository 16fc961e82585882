/-!
# Limits

The sizes at which the library stops, truncates or warns. Every limit is a plain number here;
the functions that obey one take it from this module or from a record of limits that defaults to it.
-/

namespace Stencil.Limits

/-- A template file may hold this many bytes. -/
def maxFileSize : Nat := 10485760

/-- A template file above this many bytes is reported as large. -/
def largeFileThreshold : Nat := 1048576

/-- A template file may have this many lines. -/
def maxLineCount : Nat := 200000

/-- A source may produce this many tokens. -/
def maxTokenCount : Nat := 2000000

/-- A delimiter may have this many characters. -/
def maxDelimiterLength : Nat := 10

/-- A string literal above this many bytes is counted as oversized. -/
def maxStringSize : Nat := 1048576

/-- The tally of token kinds holds this many distinct kinds. -/
def kindTallySize : Nat := 64

/-- Expressions and statement bodies may nest this deep. -/
def maxParseDepth : Nat := 256

/-- A parse records this many diagnostics and counts the rest. -/
def maxDiagnostics : Nat := 1000

/-- The facts cache holds this many files unless told otherwise. -/
def maxCachedFiles : Nat := 4096

/-- Each set of facts holds this many names. -/
def maxFactsPerSet : Nat := 10000

/-- A batch runs on this many workers at most. -/
def maxWorkerThreads : Nat := 8

/-- A batch may find this many files. -/
def maxFilesPerBatch : Nat := 10000

/-- The event log keeps this many events. -/
def maxLoggedEvents : Nat := 10000

/-- A log message keeps this many characters. -/
def maxLogMessageLength : Nat := 4096

/-- The collector keeps this many events for one file. -/
def maxLogEventsPerFile : Nat := 500

end Stencil.Limits
