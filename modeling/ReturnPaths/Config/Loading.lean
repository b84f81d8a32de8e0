import ReturnPaths.Config.FromToml
import ReturnPaths.Session

/-!
# Loading configurations

* `loadConfig` : the configuration in a file.
* `findConfig?` : the nearest configuration file, looking in a directory and the ones above it.
* `loadConfigFrom` : the configuration in the nearest file, if there is one.  A file that is found
  but cannot be loaded is an error, whatever lies further up.
* `loadConfigHere` : the same, starting from the working directory, which has to be there.
-/

namespace ReturnPaths

/-- Why a configuration cannot be loaded. -/
inductive ConfigError where
  /-- The file cannot be read, or the directory where the search for it would start. -/
  | unreadable (path : Path) (error : FileError)
  /-- The file is not a well-formed configuration. -/
  | malformed (path : Path)
  deriving DecidableEq, Repr

namespace ConfigError

/-- What is wrong with the file. -/
def cause : ConfigError → String
  | unreadable _ error => error.message
  | malformed _ => "TOML parse error"

/-- The wording of an error. -/
def message : ConfigError → String
  | unreadable path error => s!"Failed to read {path.text}: {error.message}"
  | malformed path => s!"Failed to parse {path.text}: TOML parse error"

end ConfigError

/-- The configuration in a file of a tree. -/
def readConfig (files : FileTree) (path : Path) : Except ConfigError Config := do
  let text ← (files.readText path).mapError (.unreadable path)
  match Config.ofToml? text with
  | some config => .ok config
  | none => .error (.malformed path)

/-- The configuration in a file; that it is loaded is recorded first. -/
def loadConfig (path : Path) : StateM Session (Except ConfigError Config) := do
  record (.configLoading path)
  return readConfig (← get).files path

/-- The path of the configuration file in the nearest directory that has one, starting from the
given directory and going up. -/
def findConfig? (files : FileTree) (start : Path) : Option Path :=
  (start.ancestors.map fun directory => directory.join ⟨configFileName⟩).find? files.denotes

/-- The configuration in the nearest file and the path of the file, if there is one. -/
def loadConfigFrom (start : Path) :
    StateM Session (Except ConfigError (Option (Config × Path))) := do
  match findConfig? (← get).files start with
  | none => return .ok none
  | some path => return (← loadConfig path).map fun config => some (config, path)

/-- The configuration in the file nearest to the working directory and the path of the file, if
there is one. -/
def loadConfigHere : StateM Session (Except ConfigError (Option (Config × Path))) := do
  match (← get).files.currentDirectory with
  | .ok directory => loadConfigFrom directory
  | .error error => return .error (.unreadable ⟨"."⟩ error)

end ReturnPaths
