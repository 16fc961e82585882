import Stencil.Delimiters.Settings
/-!
# Faults of a batch

What can stop a batch as a whole. A file that cannot be checked does not: it is listed among the
failures.
-/

namespace Stencil

/-- Why a batch came to nothing. -/
inductive BatchFault where
  | directoryNotFound (path : String)
  | noFilesFound (path : String)
  | tooManyFiles (limit : Nat)
  /-- A directory cannot be listed. -/
  | traversal (reason : String)
  | workerFailure (reason : String)
  | settings (fault : SettingsFault)
  deriving DecidableEq

namespace BatchFault

/-- What went wrong, in one line. -/
def message : BatchFault → String
  | .directoryNotFound path => "Directory not found: " ++ path
  | .noFilesFound path => "No template files found in directory: " ++ path
  | .tooManyFiles limit => "Too many files found: more than " ++ toString limit
  | .traversal reason => "IO error during directory traversal: " ++ reason
  | .workerFailure reason => "Worker thread failed: " ++ reason
  | .settings fault => "Invalid delimiter configuration: " ++ fault.message

/-- The code of a fault. -/
def code : BatchFault → Code
  | .directoryNotFound _ => .invalidPath
  | .noFilesFound _ => .noFilesFound
  | .tooManyFiles _ => .tooManyFiles
  | .traversal _ => .ioError
  | .workerFailure _ => .workerFailure
  | .settings fault => fault.code

end BatchFault
end Stencil
