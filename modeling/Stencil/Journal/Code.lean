/-!
# Event codes

Every event in the log carries a code. The registry says of each code this library uses how severe
it is, whether work goes on after it, and what can be done about it.
-/

namespace Stencil

/-- The stable identifier of a kind of event. -/
structure Code where
  text : String
  deriving DecidableEq

/-- How much a code matters, most severe first. -/
inductive Severity where
  | critical | high | medium | low
  deriving DecidableEq

/-- The name of a severity. -/
def Severity.name : Severity → String
  | .critical => "Critical" | .high => "High" | .medium => "Medium" | .low => "Low"

/-- What is known of a code. -/
structure CodeInfo where
  code : Code
  category : String
  severity : Severity
  /-- Work on the template goes on. -/
  recoverable : Bool
  /-- Work on the template stops. -/
  halts : Bool
  description : String
  action : String
  deriving DecidableEq

namespace Code

/-! ### The codes of this library -/

/-- Critical internal error. -/
def internalError : Code := ⟨"ERR001"⟩

/-- Logging or configuration initialization failure. -/
def initializationFailure : Code := ⟨"ERR002"⟩

/-- Template file not found. -/
def fileNotFound : Code := ⟨"E005"⟩

/-- File does not have a recognised template extension. -/
def invalidExtension : Code := ⟨"E006"⟩

/-- Template exceeds the maximum file size. -/
def fileTooLarge : Code := ⟨"E007"⟩

/-- Template exceeds the maximum line count. -/
def tooManyLines : Code := ⟨"E008"⟩

/-- Permission denied reading template. -/
def permissionDenied : Code := ⟨"E009"⟩

/-- Template is not valid UTF-8. -/
def invalidEncoding : Code := ⟨"E010"⟩

/-- I/O error while reading template. -/
def ioError : Code := ⟨"E011"⟩

/-- Path is not a regular file. -/
def invalidPath : Code := ⟨"E012"⟩

/-- Required delimiter is empty. -/
def emptyDelimiter : Code := ⟨"E013"⟩

/-- Delimiter is longer than the allowed maximum. -/
def delimiterTooLong : Code := ⟨"E014"⟩

/-- Two delimiters have the same spelling. -/
def duplicateDelimiter : Code := ⟨"E015"⟩

/-- One delimiter is contained in another. -/
def overlappingDelimiter : Code := ⟨"E016"⟩

/-- Delimiter settings file could not be read or written. -/
def settingsIoError : Code := ⟨"E017"⟩

/-- Delimiter settings file is not valid TOML. -/
def settingsFormatError : Code := ⟨"E018"⟩

/-- Character not valid inside a block or variable. -/
def badCharacter : Code := ⟨"E020"⟩

/-- Tokenizer range lies outside the buffer. -/
def invalidRange : Code := ⟨"E021"⟩

/-- Template produced more tokens than allowed. -/
def tooManyTokens : Code := ⟨"E027"⟩

/-- Block tag is not closed. -/
def missingBlockEnd : Code := ⟨"E040"⟩

/-- Variable tag is not closed. -/
def missingVariableEnd : Code := ⟨"E041"⟩

/-- Comment is not closed. -/
def missingCommentEnd : Code := ⟨"E042"⟩

/-- Bracket, parenthesis or brace group is not closed. -/
def unclosedGroup : Code := ⟨"E043"⟩

/-- Expression expected. -/
def expectedExpression : Code := ⟨"E044"⟩

/-- Name expected. -/
def expectedName : Code := ⟨"E045"⟩

/-- Statement block has no matching end tag. -/
def unclosedBlock : Code := ⟨"E046"⟩

/-- Unexpected token. -/
def unexpectedToken : Code := ⟨"E050"⟩

/-- Expression nesting exceeds the maximum parse depth. -/
def maxRecursionDepth : Code := ⟨"E087"⟩

/-- Too many distinct names collected for a template. -/
def factsLimitExceeded : Code := ⟨"E060"⟩

/-- Facts cache could not be used. -/
def cacheUnavailable : Code := ⟨"E061"⟩

/-- No template files found. -/
def noFilesFound : Code := ⟨"E070"⟩

/-- Too many files for one batch. -/
def tooManyFiles : Code := ⟨"E071"⟩

/-- A worker thread failed. -/
def workerFailure : Code := ⟨"E072"⟩

/-- Operation completed successfully. -/
def operationCompletedSuccessfully : Code := ⟨"I001"⟩

/-- Logging initialized. -/
def systemInitializationCompleted : Code := ⟨"I004"⟩

/-- Template file read. -/
def fileProcessingSuccess : Code := ⟨"I006"⟩

/-- Delimiter configuration validated. -/
def configurationValidated : Code := ⟨"I013"⟩

/-- Tokenization complete. -/
def tokenizationComplete : Code := ⟨"I020"⟩

/-- Syntax tree built. -/
def parseComplete : Code := ⟨"I040"⟩

/-- Template facts collected. -/
def factsCollected : Code := ⟨"I060"⟩

/-- Template facts served from cache. -/
def cacheHit : Code := ⟨"I061"⟩

/-- Batch processing complete. -/
def batchComplete : Code := ⟨"I070"⟩

/-! ### The codes of events that have none of their own -/

/-- A warning of no special kind. -/
def plainWarning : Code := ⟨"W000"⟩

/-- A remark of no special kind. -/
def plainInfo : Code := ⟨"I000"⟩

/-- A detail of no special kind. -/
def plainDebug : Code := ⟨"D000"⟩

/-! ### The registry -/

/-- What is known of every code of this library. -/
def registry : List CodeInfo :=
  [⟨internalError, "System", .critical, false, true,
    "Critical internal error",
    "File a bug report with the template that triggered it"⟩,
   ⟨initializationFailure, "System", .critical, false, true,
    "Logging or configuration initialization failure",
    "Check environment variables and the build profile"⟩,
   ⟨fileNotFound, "FileProcessing", .medium, false, true,
    "Template file not found",
    "Check the path and ensure the file exists"⟩,
   ⟨invalidExtension, "FileProcessing", .low, true, false,
    "File does not have a recognised template extension",
    "Rename the file or disable the extension requirement"⟩,
   ⟨fileTooLarge, "FileProcessing", .medium, false, true,
    "Template exceeds the maximum file size",
    "Split the template or raise max_file_size in the build profile"⟩,
   ⟨tooManyLines, "FileProcessing", .medium, false, true,
    "Template exceeds the maximum line count",
    "Split the template or raise max_line_count_for_analysis"⟩,
   ⟨permissionDenied, "FileProcessing", .medium, false, true,
    "Permission denied reading template",
    "Check file permissions"⟩,
   ⟨invalidEncoding, "FileProcessing", .medium, false, true,
    "Template is not valid UTF-8",
    "Re-encode the file as UTF-8"⟩,
   ⟨ioError, "FileProcessing", .high, false, true,
    "I/O error while reading template",
    "Check disk and file system health"⟩,
   ⟨invalidPath, "FileProcessing", .medium, false, true,
    "Path is not a regular file",
    "Pass a template file or a directory to batch mode"⟩,
   ⟨emptyDelimiter, "Configuration", .high, false, true,
    "Required delimiter is empty",
    "Set all six block, variable and comment delimiters"⟩,
   ⟨delimiterTooLong, "Configuration", .high, false, true,
    "Delimiter is longer than the allowed maximum",
    "Use a shorter delimiter"⟩,
   ⟨duplicateDelimiter, "Configuration", .high, false, true,
    "Two delimiters have the same spelling",
    "Give every delimiter a distinct spelling"⟩,
   ⟨overlappingDelimiter, "Configuration", .high, false, true,
    "One delimiter is contained in another",
    "Choose delimiters where none is a substring of another"⟩,
   ⟨settingsIoError, "Configuration", .medium, false, true,
    "Delimiter settings file could not be read or written",
    "Check the settings path and permissions"⟩,
   ⟨settingsFormatError, "Configuration", .medium, false, true,
    "Delimiter settings file is not valid TOML",
    "Fix the settings file syntax"⟩,
   ⟨badCharacter, "Lexical", .low, true, false,
    "Character not valid inside a block or variable",
    "Remove the character or move it outside the tag"⟩,
   ⟨invalidRange, "Lexical", .high, false, true,
    "Tokenizer range lies outside the buffer",
    "Pass start and end offsets on character boundaries"⟩,
   ⟨tooManyTokens, "Lexical", .high, false, true,
    "Template produced more tokens than allowed",
    "Split the template or raise max_token_count"⟩,
   ⟨missingBlockEnd, "Syntax", .medium, true, false,
    "Block tag is not closed",
    "Add the block end delimiter"⟩,
   ⟨missingVariableEnd, "Syntax", .medium, true, false,
    "Variable tag is not closed",
    "Add the variable end delimiter"⟩,
   ⟨missingCommentEnd, "Syntax", .medium, true, false,
    "Comment is not closed",
    "Add the comment end delimiter"⟩,
   ⟨unclosedGroup, "Syntax", .medium, true, false,
    "Bracket, parenthesis or brace group is not closed",
    "Add the missing closing character"⟩,
   ⟨expectedExpression, "Syntax", .medium, true, false,
    "Expression expected",
    "Complete the expression"⟩,
   ⟨expectedName, "Syntax", .medium, true, false,
    "Name expected",
    "Provide an identifier"⟩,
   ⟨unclosedBlock, "Syntax", .medium, true, false,
    "Statement block has no matching end tag",
    "Add the end tag for the opening statement"⟩,
   ⟨unexpectedToken, "Syntax", .medium, true, false,
    "Unexpected token",
    "Check the tag syntax near the reported location"⟩,
   ⟨maxRecursionDepth, "Syntax", .high, true, false,
    "Expression nesting exceeds the maximum parse depth",
    "Reduce nesting or raise max_parse_depth"⟩,
   ⟨factsLimitExceeded, "Analysis", .low, true, false,
    "Too many distinct names collected for a template",
    "Raise max_facts_per_set"⟩,
   ⟨cacheUnavailable, "Analysis", .medium, true, false,
    "Facts cache could not be used",
    "Facts are recomputed; no action required"⟩,
   ⟨noFilesFound, "Batch", .medium, false, true,
    "No template files found",
    "Check the directory and the extension filter"⟩,
   ⟨tooManyFiles, "Batch", .medium, false, true,
    "Too many files for one batch",
    "Process a smaller directory or raise max_files_per_batch"⟩,
   ⟨workerFailure, "Batch", .high, false, true,
    "A worker thread failed",
    "Re-run sequentially to isolate the failing file"⟩,
   ⟨operationCompletedSuccessfully, "Success", .low, true, false,
    "Operation completed successfully",
    "None"⟩,
   ⟨systemInitializationCompleted, "Success", .low, true, false,
    "Logging initialized",
    "None"⟩,
   ⟨fileProcessingSuccess, "Success", .low, true, false,
    "Template file read",
    "Continue to tokenization"⟩,
   ⟨configurationValidated, "Success", .low, true, false,
    "Delimiter configuration validated",
    "Continue to tokenization"⟩,
   ⟨tokenizationComplete, "Success", .low, true, false,
    "Tokenization complete",
    "Continue to parsing"⟩,
   ⟨parseComplete, "Success", .low, true, false,
    "Syntax tree built",
    "Continue to fact collection"⟩,
   ⟨factsCollected, "Success", .low, true, false,
    "Template facts collected",
    "None"⟩,
   ⟨cacheHit, "Success", .low, true, false,
    "Template facts served from cache",
    "None"⟩,
   ⟨batchComplete, "Success", .low, true, false,
    "Batch processing complete",
    "None"⟩]

/-- What is known of a code, if it is one of this library's. -/
def info? (code : Code) : Option CodeInfo := registry.find? fun info => info.code = code

/-- Codes from elsewhere matter somewhat. -/
def severity (code : Code) : Severity := (code.info?.map (·.severity)).getD .medium

/-- Work goes on after codes from elsewhere. -/
def isRecoverable (code : Code) : Bool := (code.info?.map (·.recoverable)).getD true

/-- Work does not stop at codes from elsewhere. -/
def halts (code : Code) : Bool := (code.info?.map (·.halts)).getD false

/-- What a code means. -/
def description (code : Code) : String := (code.info?.map (·.description)).getD "Unknown error"

/-- What is said to do when there is nothing to say. -/
def noAction : String := "No specific action available"

/-- What can be done about a code. -/
def action (code : Code) : String := (code.info?.map (·.action)).getD noAction

/-- The part of the library a code comes from. -/
def category (code : Code) : String := (code.info?.map (·.category)).getD "Unknown"

end Code
end Stencil
