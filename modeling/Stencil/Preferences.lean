import Stencil.Journal.Level
import Stencil.Json
import Stencil.Limits
/-!
# Preferences

What a user may choose by environment variables. Preferences change what is reported and collected,
never what is accepted, with one exception: a file can be required to have a template extension.
-/

namespace Stencil

/-- How files are read. -/
structure ReadingPreferences where
  /-- A file without a template extension is refused. -/
  requiresExtension : Bool := false
  /-- The size of a file and the time it took are reported. -/
  reportsDetails : Bool := true

/-- What the lexer reports. -/
structure LexingPreferences where
  /-- Tokens are counted kind by kind. -/
  countsKinds : Bool := true
  /-- Every bad character is reported. -/
  reportsBadCharacters : Bool := true

/-- What the parser reports. -/
structure ParsingPreferences where
  /-- Every diagnostic is reported. -/
  reportsDiagnostics : Bool := true

/-- What is collected from a tree. -/
structure AnalysisPreferences where
  collectsFacts : Bool := true
  /-- Facts are kept while the file they are from does not change. -/
  cachesFacts : Bool := true

/-- What the log shows. -/
structure LogPreferences where
  /-- Events are written as data. -/
  structured : Bool := false
  /-- Events are written to the console. -/
  console : Bool := false
  lowest : Level := .info
  performance : Bool := true
  /-- The events of all files are listed at the end. -/
  summary : Bool := true
  /-- Events say which file they are about. -/
  namesFile : Bool := true

/-- All preferences. -/
structure Preferences where
  reading : ReadingPreferences := {}
  lexing : LexingPreferences := {}
  parsing : ParsingPreferences := {}
  analysis : AnalysisPreferences := {}
  log : LogPreferences := {}

namespace Preferences

/-- The truth value a variable holds. Any other text counts as if the variable were not set. -/
def truthOr (value : Option String) (fallback : Bool) : Bool :=
  match value.map Text.trim with
  | some "true" => true
  | some "false" => false
  | _ => fallback

/-- The level a variable holds. Any other text counts as if the variable were not set. -/
def levelOr (value : Option String) (fallback : Level) : Level :=
  (value.bind Level.ofText?).getD fallback

/-- The environment variables that are looked at. -/
def variableNames : List String :=
  ["JINJA_REQUIRE_TEMPLATE_EXTENSION", "JINJA_ENABLE_PERFORMANCE_LOGGING",
   "JINJA_LEXICAL_DETAILED_METRICS", "JINJA_LEXICAL_LOG_BAD_CHARACTERS",
   "JINJA_SYNTAX_LOG_DIAGNOSTICS", "JINJA_ANALYSIS_COLLECT_FACTS", "JINJA_ANALYSIS_ENABLE_CACHE",
   "JINJA_LOGGING_USE_STRUCTURED", "JINJA_LOGGING_ENABLE_CONSOLE", "JINJA_LOGGING_MIN_LEVEL",
   "JINJA_LOGGING_LOG_PERFORMANCE", "JINJA_LOGGING_CARGO_STYLE",
   "JINJA_LOGGING_INCLUDE_FILE_CONTEXT"]

/-- The preferences that environment variables choose. -/
def ofEnvironment (variableOf : String → Option String) : Preferences where
  reading :=
    { requiresExtension := truthOr (variableOf "JINJA_REQUIRE_TEMPLATE_EXTENSION") false
      reportsDetails := truthOr (variableOf "JINJA_ENABLE_PERFORMANCE_LOGGING") true }
  lexing :=
    { countsKinds := truthOr (variableOf "JINJA_LEXICAL_DETAILED_METRICS") true
      reportsBadCharacters := truthOr (variableOf "JINJA_LEXICAL_LOG_BAD_CHARACTERS") true }
  parsing := { reportsDiagnostics := truthOr (variableOf "JINJA_SYNTAX_LOG_DIAGNOSTICS") true }
  analysis :=
    { collectsFacts := truthOr (variableOf "JINJA_ANALYSIS_COLLECT_FACTS") true
      cachesFacts := truthOr (variableOf "JINJA_ANALYSIS_ENABLE_CACHE") true }
  log :=
    { structured := truthOr (variableOf "JINJA_LOGGING_USE_STRUCTURED") false
      console := truthOr (variableOf "JINJA_LOGGING_ENABLE_CONSOLE") false
      lowest := levelOr (variableOf "JINJA_LOGGING_MIN_LEVEL") .info
      performance := truthOr (variableOf "JINJA_LOGGING_LOG_PERFORMANCE") true
      summary := truthOr (variableOf "JINJA_LOGGING_CARGO_STYLE") true
      namesFile := truthOr (variableOf "JINJA_LOGGING_INCLUDE_FILE_CONTEXT") true }

/-- Preferences as data. -/
def toJson (preferences : Preferences) : Json :=
  .obj
    [("file_processor", .obj
        [("require_template_extension", preferences.reading.requiresExtension),
         ("enable_performance_logging", preferences.reading.reportsDetails)]),
     ("lexical", .obj
        [("collect_detailed_metrics", preferences.lexing.countsKinds),
         ("log_bad_characters", preferences.lexing.reportsBadCharacters)]),
     ("syntax", .obj [("log_diagnostics", preferences.parsing.reportsDiagnostics)]),
     ("analysis", .obj
        [("collect_facts", preferences.analysis.collectsFacts),
         ("enable_facts_cache", preferences.analysis.cachesFacts)]),
     ("logging", .obj
        [("use_structured_logging", preferences.log.structured),
         ("enable_console_logging", preferences.log.console),
         ("min_log_level", preferences.log.lowest.dataName),
         ("log_performance_events", preferences.log.performance),
         ("enable_cargo_style_output", preferences.log.summary),
         ("include_file_context", preferences.log.namesFile)])]

end Preferences

/-- The limits and preferences of the log for a reader. -/
def LogPreferences.report (log : LogPreferences) : String :=
  String.intercalate "\n"
    ["Logging Configuration:",
     "=== Limits (compile-time) ===",
     "- Error collection size: " ++ toString Limits.maxLoggedEvents,
     "- Max events per file: " ++ toString Limits.maxLogEventsPerFile,
     "- Max message length: " ++ toString Limits.maxLogMessageLength,
     "=== Preferences (runtime) ===",
     "- Min log level: " ++ log.lowest.name,
     "- Structured logging: " ++ toString log.structured,
     "- Console logging: " ++ toString log.console,
     "- Performance events: " ++ toString log.performance,
     "- Cargo-style output: " ++ toString log.summary,
     "- Include file context: " ++ toString log.namesFile]

end Stencil
