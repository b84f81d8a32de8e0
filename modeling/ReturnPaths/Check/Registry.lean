import ReturnPaths.Check.MissingReturn
import ReturnPaths.Config.Basic

/-!
# The registry of checks

Checks are registered in some order and run in this order.

* `Registry.enabled` : the checks to run.  Checks that are selected run whatever the configuration
  says; without a selection the allow-list of the configuration decides, or else the default of
  each check, and then the disabled ones are left out.
* `Registry.run` : the findings of the checks to run.
-/

namespace ReturnPaths

/-- The available checks, in the order of their registration. -/
structure Registry where
  /-- The checks. -/
  checks : List Check := []

namespace Registry

/-- The registry of the checks of this library. -/
def builtin : Registry := ⟨[missingReturn]⟩

/-- Adds a check. -/
def register (registry : Registry) (check : Check) : Registry :=
  ⟨registry.checks ++ [check]⟩

/-- The first check with an identifier. -/
def find? (registry : Registry) (id : String) : Option Check :=
  registry.checks.find? (·.id = id)

/-- The identifiers of all checks. -/
def ids (registry : Registry) : List String :=
  registry.checks.map (·.id)

/-- Whether the configuration lets a check run. -/
def allows (config : Config) (check : Check) : Bool :=
  let wanted := match config.enabled with
    | some ids => ids.contains check.id
    | none => check.enabledByDefault
  wanted && !config.disabled.contains check.id

/-- The checks to run, under a configuration and a list of selected identifiers. -/
def enabled (registry : Registry) (config : Config) (selected : List String) : List Check :=
  if selected.isEmpty then registry.checks.filter (allows config)
  else registry.checks.filter fun check => selected.contains check.id

/-- The findings of the checks to run on a unit, one check after the other. -/
def run (registry : Registry) (config : Config) (selected : List String) (unit : FlowUnit)
    (file : BytePath) : Findings :=
  Findings.collect (fun check => check.run unit file) (registry.enabled config selected)

end Registry

end ReturnPaths
