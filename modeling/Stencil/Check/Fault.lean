import Stencil.Delimiters.Settings
import Stencil.Facts.Basic
import Stencil.Files.Template
import Stencil.Lexer.Report
/-!
# Faults of a check

A template is checked in stages, and each can stop the check. Diagnostics never do.
-/

namespace Stencil

/-- Why a check stopped. -/
inductive CheckFault where
  | settings (fault : SettingsFault)
  | reading (fault : ReadingFault)
  | lexing (fault : LexerFault)
  | analysis (fault : AnalysisFault)
  /-- The result cannot be written. -/
  | writing (reason : String)
  | internal (reason : String)

namespace CheckFault

/-- What went wrong, in one line. -/
def message : CheckFault → String
  | .settings fault => "Invalid delimiter configuration: " ++ fault.message
  | .reading fault => "File processing failed: " ++ fault.message
  | .lexing fault => "Lexical analysis failed: " ++ fault.message
  | .analysis fault => "Template analysis failed: " ++ fault.message
  | .writing reason => "Output serialization failed: " ++ reason
  | .internal reason => "Pipeline error: " ++ reason

/-- The code of a fault. -/
def code : CheckFault → Code
  | .settings fault => fault.code
  | .reading fault => fault.code
  | .lexing fault => fault.code
  | .analysis fault => fault.code
  | .writing _ | .internal _ => .internalError

/-- The stage that stopped. -/
def stage : CheckFault → String
  | .settings _ => "configuration"
  | .reading _ => "file processing"
  | .lexing _ => "lexical analysis"
  | .analysis _ => "analysis"
  | .writing _ => "output"
  | .internal _ => "pipeline"

/-- What went wrong, in a few words. -/
def title : CheckFault → String
  | .settings _ => "Delimiter configuration error"
  | .reading _ => "File processing error"
  | .lexing _ => "Lexical analysis error"
  | .analysis _ => "Analysis error"
  | .writing _ => "Serialization error"
  | .internal _ => "Pipeline error"

end CheckFault
end Stencil
