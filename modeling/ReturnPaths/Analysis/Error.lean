import ReturnPaths.Config.Loading
import ReturnPaths.Json.Fault

/-!
# Why an analysis fails

* `AnalysisError.message` : the wording of an error.
-/

namespace ReturnPaths

/-- Why units cannot be collected or analyzed. -/
inductive AnalysisError where
  /-- A unit cannot be read. -/
  | unreadable (error : FileError)
  /-- A unit is not well formed. -/
  | invalidUnit (path : Path) (refusal : Json.Refusal)
  /-- A path is neither a file nor a directory. -/
  | pathNotFound (path : Path)
  /-- No path was given. -/
  | noPaths
  /-- A check was selected that is not registered. -/
  | unknownCheck (id : String)
  /-- The configuration cannot be loaded. -/
  | badConfig (error : ConfigError)
  deriving DecidableEq, Repr

/-- The wording of an error. -/
def AnalysisError.message : AnalysisError → String
  | unreadable error => s!"Failed to read file: {error.message}"
  | invalidUnit path refusal => s!"Invalid flow unit {path.text}: {refusal.message}"
  | pathNotFound path => s!"Path does not exist: {path.text}"
  | noPaths => "No paths given for analysis"
  | unknownCheck id => s!"Unknown check '{id}'"
  | badConfig error => s!"Configuration error: {error.message}"

end ReturnPaths
