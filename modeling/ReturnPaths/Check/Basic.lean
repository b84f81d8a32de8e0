import ReturnPaths.FlowUnit.Basic
import ReturnPaths.Issue.Basic
import ReturnPaths.Log.Event

/-!
# Checks

A check looks at a flow unit and reports issues in its source file.  Along with the issues it gives
the events that are to be logged; nothing else follows from them.
-/

namespace ReturnPaths

/-- What a check reports. -/
structure Findings where
  /-- The issues, in the order of their discovery. -/
  issues : List Issue := []
  /-- What is to be logged. -/
  events : List Event := []
  deriving DecidableEq, Repr

namespace Findings

/-- The findings of a list of things, one after the other. -/
def collect {α : Type} (find : α → Findings) (xs : List α) : Findings :=
  ⟨xs.flatMap fun x => (find x).issues, xs.flatMap fun x => (find x).events⟩

end Findings

/-- A check with its names. -/
structure Check where
  /-- The identifier, as it is used in configurations and reports. -/
  id : String
  /-- A short name for lists. -/
  shortName : String
  /-- The name shown to people. -/
  displayName : String
  /-- What the check is about. -/
  description : String
  /-- The groups it is listed under, the outermost first. -/
  groupPath : List String
  /-- Whether it runs unless the configuration says otherwise. -/
  enabledByDefault : Bool := true
  /-- What it reports on a flow unit; the path is the source file that issues refer to. -/
  run : FlowUnit → BytePath → Findings

end ReturnPaths
