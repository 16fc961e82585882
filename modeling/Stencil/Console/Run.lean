import Stencil.Check.Output
import Stencil.Console.Help
import Stencil.Console.Reports
import Stencil.Console.Session
/-!
# The command

The command checks a template or the templates of a directory and says what it found. Its status is
zero exactly if nothing is wrong with any of them.
-/

namespace Stencil

/-- A run of the command that has ended. -/
structure CommandResult where
  /-- Zero if nothing is wrong. -/
  status : Nat
  session : Session

/-- What surrounds a run of the command. -/
structure Surroundings where
  /-- The name the command is called by. -/
  program : String
  preferences : Preferences
  files : FileSystem
  time : String

namespace Command

/-- The status of a run after which something may be wrong. -/
def statusOf (isClean : Bool) : Nat := if isClean then 0 else 1

/-- The status of a batch. -/
def batchStatus (outcome : Except BatchFault BatchResults) : Nat :=
  match outcome with
  | .ok results => statusOf results.isClean
  | .error _ => 1

/-- Says what came of a template that was checked. -/
def sayChecked (options : CommandOptions) (checked : CheckedTemplate) (session : Session) :
    Session :=
  if options.isJson then
    session.say (checked.toJson options.showsTokens options.showsTree).pretty
  else
    let session := session.say ("Processing file: " ++ checked.path.text)
    let session := session.sayAll (checked.tokenLines options)
    let session := session.write (checked.treeText options)
    let session := session.sayAll (checked.factLines options)
    let session :=
      if checked.hasDiagnostics then session.complain ("\n" ++ checked.diagnosticsReport)
      else session
    (session.sayAll ["", checked.countLine]).summarize

/-- Says why a check stopped. -/
def sayFault (fault : CheckFault) (session : Session) : Session :=
  (session.complainAll
    ["", "FAILED: " ++ fault.message,
     fault.stage ++ " stage failed [" ++ fault.code.text ++ "]:",
     "  " ++ fault.message]).summarize

/-- Checks a template. -/
def runFile (setup : CheckSetup) (options : CommandOptions) (files : FileSystem) (path : Path)
    (cache : FactsCache) (session : Session) : CommandResult :=
  let report := setup.check files path cache
  let session := session.noteFile path 0 report.events
  match report.outcome with
  | .ok checked =>
    ⟨statusOf (!checked.hasDiagnostics), sayChecked options checked session⟩
  | .error fault => ⟨1, sayFault fault session⟩

/-- Says that a batch begins. -/
def sayBegin (options : CommandOptions) (directory : Path) (session : Session) : Session :=
  if options.isJson then session
  else
    session.sayAll
      ["Starting batch processing: " ++ directory.text,
       "Configuration: " ++ toString options.batch.workers ++ " threads, recursive=" ++
         toString options.batch.selection.isRecursive ++ ", fail_fast=" ++
         toString options.batch.isFailFast]

/-- Says how many errors and warnings were logged, if there are any. -/
def sayLogged (session : Session) : Session :=
  let logged := session.journal.collector.summary
  if logged.errors = 0 && logged.warnings = 0 then session
  else
    session.sayAll
      ["", "Logged " ++ toString logged.errors ++ " errors and " ++ toString logged.warnings ++
        " warnings across " ++ toString logged.files ++ " files"]

/-- Says what came of a batch. -/
def sayResults (options : CommandOptions) (results : BatchResults) (session : Session) : Session :=
  if options.isJson then
    session.say (Json.arr (results.successes.map fun success =>
      success.2.toJson options.showsTokens options.showsTree)).pretty
  else
    let flawed := results.successes.filter fun success => success.2.hasDiagnostics
    let session := session.complainAll
      (flawed.map fun success => success.2.diagnosticsReport ++ "\n")
    let session := session.sayAll ["", "Batch processing completed!"]
    sayLogged (session.sayAll results.reportLines).summarize

/-- Says why a batch came to nothing. -/
def sayBatchFault (fault : BatchFault) (session : Session) : Session :=
  (session.complain
    ("Batch processing failed: [" ++ fault.code.text ++ "] " ++ fault.message)).summarize

/-- Says how a batch ended. -/
def sayOutcome (options : CommandOptions) (outcome : Except BatchFault BatchResults)
    (session : Session) : Session :=
  match outcome with
  | .ok results => sayResults options results session
  | .error fault => sayBatchFault fault session

/-- Checks the templates of a directory by a given check of one file. -/
def runDirectory {σ : Type} (delimiters : Delimiters) (options : CommandOptions)
    (files : FileSystem) (directory : Path) (check : σ → Job → FileReport × σ) (shared : σ)
    (session : Session) (order : Nat → List Nat := fun _ => []) : CommandResult :=
  let report := options.batch.run delimiters files directory check shared order
  let session := (sayBegin options directory session).follow report.happenings
  ⟨batchStatus report.outcome, sayOutcome options report.outcome session⟩

/-- The delimiters that the options ask for. -/
def loadDelimiters (files : FileSystem) (options : CommandOptions) :
    Except SettingsFault Delimiters :=
  match options.settings with
  | none => .ok {}
  | some path => Delimiters.load files path

/-- Checks what the first argument names. The order says how the workers of a batch take turns. -/
def runInput (surroundings : Surroundings) (input : Path) (options : CommandOptions)
    (delimiters : Delimiters) (session : Session) (order : Nat → List Nat := fun _ => []) :
    CommandResult :=
  let files := surroundings.files
  let preferences := surroundings.preferences
  let setup : CheckSetup := ⟨delimiters, preferences⟩
  let cache : FactsCache :=
    if preferences.analysis.cachesFacts then some (Cache.ofCapacity Limits.maxCachedFiles) else none
  if files.isFile input then runFile setup options files input cache session
  else if files.isDirectory input then
    runDirectory delimiters options files input (setup.checkJob files) cache session order
  else
    ⟨1, session.complainAll
      ["Error: Input must be a template file or directory", "  Path: " ++ input.text]⟩

/-- Runs the command with its arguments. -/
def run (surroundings : Surroundings) (arguments : List String)
    (order : Nat → List Nat := fun _ => []) : CommandResult :=
  let session := Session.start surroundings.preferences.log surroundings.time
  let session := session.noteAll (Outline.logReady :: Outline.startEvents)
  match arguments with
  | [] => ⟨1, session.complainAll (Help.usage surroundings.program)⟩
  | "--help" :: _ => ⟨0, session.sayAll (Help.lines surroundings.program)⟩
  | input :: rest =>
    let (options, warnings) := CommandOptions.ofArguments rest
    let session := session.complainAll warnings
    match loadDelimiters surroundings.files options with
    | .error fault => ⟨1, session.complain ("Error: " ++ fault.message)⟩
    | .ok delimiters => runInput surroundings ⟨input⟩ options delimiters session order

end Command
end Stencil
