import ReturnPaths.Analysis.Error
import ReturnPaths.Config.Exclusion

/-!
# The units to analyze

Paths are given as files or directories.  A file is taken as it is; of a directory, all files at
any depth below it are taken that have the extension of flow units and are not left out by the
configuration, which sees their paths relative to the directory.  A file below a directory is looked
up once more under its whole path, which fails if this path is too long.

* `collectUnits` : the units for a list of paths, in the order of paths and each path once.
-/

namespace ReturnPaths

/-- The extension of flow units. -/
def unitExtension : String := "json"

/-- The relative paths of the units below a directory. -/
def unitsBelow (config : Config) (directory : Node) : List Path :=
  (directory.files.map fun names => (⟨"/".intercalate names⟩ : Path)).filter fun path =>
    path.extension? = some unitExtension && !config.isExcluded path

/-- The units for one path. -/
def unitsAt (config : Config) (files : FileTree) (path : Path) :
    Except AnalysisError (List Path) :=
  match files.node? path with
  | some (.file _) => .ok [path]
  | some directory => .ok (((unitsBelow config directory).map path.join).filter files.isFile)
  | none => .error (.pathNotFound path)

/-- Leaves out every path that is the same as the one before it. -/
def dropRepeated : List Path → List Path
  | [] => []
  | path :: paths =>
    match dropRepeated paths with
    | [] => [path]
    | next :: rest => if path.same next then path :: rest else path :: next :: rest

/-- The units for some paths; the first path that denotes nothing is an error. -/
def collectUnits (config : Config) (files : FileTree) (paths : List Path) :
    Except AnalysisError (List Path) := do
  if paths.isEmpty then .error .noPaths
  else
    let units ← paths.mapM (unitsAt config files)
    .ok (dropRepeated (units.flatten.mergeSort Path.le))

end ReturnPaths
