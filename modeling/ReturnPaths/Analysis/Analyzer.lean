import ReturnPaths.Analysis.Units
import ReturnPaths.Check.Registry
import ReturnPaths.FlowUnit.Reader
import ReturnPaths.Issue.Collection

/-!
# The analyzer

An analyzer runs the enabled checks of its registry on flow units.

* `Analyzer.select` : restricts the checks to a selection; a selection with an unknown check
  changes nothing.
* `Analyzer.analyzeUnit` : the issues of one unit, in the order of their discovery.
* `Analyzer.analyzeFile` : the same for a file, with the events of the run recorded.
* `Analyzer.analyzePaths` : the issues of all units for some paths, in order.  A unit that cannot
  be loaded is noted in the result and does not keep the others from being analyzed.
-/

namespace ReturnPaths

/-- A configured set of checks. -/
structure Analyzer where
  /-- The configuration. -/
  config : Config := {}
  /-- The available checks. -/
  registry : Registry := .builtin
  /-- The selected checks; if there are none, the configuration decides. -/
  selected : List String := []

/-- What an analysis of several units gives. -/
structure Analysis where
  /-- The issues, in order. -/
  issues : IssueCollection
  /-- Why some units could not be loaded. -/
  failures : List AnalysisError

/-- The flow unit in a file. -/
def loadUnit (files : FileTree) (path : Path) : Except AnalysisError FlowUnit := do
  let text ← (files.readText path).mapError .unreadable
  (FlowUnit.ofJson text).mapError (.invalidUnit path)

namespace Analyzer

/-- Restricts the run to some checks, or lets the configuration decide if there are none. -/
def select (analyzer : Analyzer) (ids : List String) : Except AnalysisError Analyzer :=
  match ids.find? fun id => (analyzer.registry.find? id).isNone with
  | some id => .error (.unknownCheck id)
  | none => .ok { analyzer with selected := ids }

/-- The checks that run. -/
def enabled (analyzer : Analyzer) : List Check :=
  analyzer.registry.enabled analyzer.config analyzer.selected

/-- The findings of the enabled checks on a unit. -/
def examine (analyzer : Analyzer) (unit : FlowUnit) : Findings :=
  analyzer.registry.run analyzer.config analyzer.selected unit unit.file

/-- The issues of a unit. -/
def analyzeUnit (analyzer : Analyzer) (unit : FlowUnit) : IssueCollection :=
  ⟨(analyzer.examine unit).issues⟩

/-- The issues of the unit in a file. -/
def analyzeFile (analyzer : Analyzer) (path : Path) :
    StateM Session (Except AnalysisError IssueCollection) := do
  match loadUnit (← get).files path with
  | .error error => return .error error
  | .ok unit =>
    record (.unitLoaded path unit.file unit.subjectCount)
    recordAll (analyzer.examine unit).events
    return .ok (analyzer.analyzeUnit unit)

/-- The results of analyzing files one after the other, each with its path. -/
def analyzeFiles (analyzer : Analyzer) :
    List Path → StateM Session (List (Path × Except AnalysisError IssueCollection))
  | [] => return []
  | path :: paths => do
    let result ← analyzer.analyzeFile path
    return (path, result) :: (← analyzer.analyzeFiles paths)

/-- The units for some paths. -/
def collectUnits (analyzer : Analyzer) (files : FileTree) (paths : List Path) :
    Except AnalysisError (List Path) :=
  ReturnPaths.collectUnits analyzer.config files paths

/-- The issues of the files that were analyzed. -/
def issuesOf (results : List (Path × Except AnalysisError IssueCollection)) : IssueCollection :=
  ⟨results.flatMap fun
    | (_, .ok issues) => issues.toList
    | (_, .error _) => []⟩

/-- The files that could not be analyzed, and why. -/
def failuresOf (results : List (Path × Except AnalysisError IssueCollection)) :
    List (Path × AnalysisError) :=
  results.filterMap fun
    | (path, .error error) => some (path, error)
    | (_, .ok _) => none

/-- The analysis of the units for some paths. -/
def analyzePaths (analyzer : Analyzer) (paths : List Path) :
    StateM Session (Except AnalysisError Analysis) := do
  match analyzer.collectUnits (← get).files paths with
  | .error error => return .error error
  | .ok units =>
    record (.configSummary (analyzer.enabled.map (·.id)) analyzer.config.exclude.length)
    record (.analysisStart units.length)
    let results ← analyzer.analyzeFiles units
    let failures := failuresOf results
    recordAll (failures.map fun (path, error) => .unitFailed path error.message)
    let issues := (issuesOf results).sort
    record (.complete units.length issues.errorCount issues.warningCount)
    return .ok ⟨issues, failures.map (·.2)⟩

end Analyzer

end ReturnPaths
