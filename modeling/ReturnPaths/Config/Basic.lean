import ReturnPaths.Path.Basic

/-!
# Configurations

What a configuration file can set: the checks to run, the files to leave out and the format of the
report.  Everything is optional, and the empty configuration is the one used without a file.
-/

namespace ReturnPaths

/-- The settings of a run. -/
structure Config where
  /-- If set, only these checks run. -/
  enabled : Option (List String) := none
  /-- Checks that do not run. -/
  disabled : List String := []
  /-- Patterns for the flow units to leave out. -/
  exclude : List String := []
  /-- The name of the format of the report. -/
  format : Option String := none
  deriving DecidableEq, Repr, Inhabited

/-- The name of configuration files. -/
def configFileName : String := ".noret.toml"

end ReturnPaths
