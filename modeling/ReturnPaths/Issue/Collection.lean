import ReturnPaths.Issue.Basic

/-!
# Collections of issues

A collection keeps the issues in the order in which they came in, until it is sorted.
-/

namespace ReturnPaths

/-- The issues found by an analysis. -/
structure IssueCollection where
  /-- The issues, in order. -/
  toList : List Issue := []
  deriving DecidableEq, Repr

namespace IssueCollection

/-- The collection without issues. -/
def empty : IssueCollection := {}

/-- Puts an issue at the end. -/
def add (collection : IssueCollection) (issue : Issue) : IssueCollection :=
  ⟨collection.toList ++ [issue]⟩

/-- Puts issues at the end. -/
def extend (collection : IssueCollection) (issues : List Issue) : IssueCollection :=
  ⟨collection.toList ++ issues⟩

/-- Puts the issues in order. -/
def sort (collection : IssueCollection) : IssueCollection :=
  ⟨Issue.sort collection.toList⟩

/-- The number of issues. -/
def size (collection : IssueCollection) : Nat :=
  collection.toList.length

/-- Whether there is no issue. -/
def isEmpty (collection : IssueCollection) : Bool :=
  collection.toList.isEmpty

/-- The number of errors. -/
def errorCount (collection : IssueCollection) : Nat :=
  Issue.countSeverity .error collection.toList

/-- The number of warnings. -/
def warningCount (collection : IssueCollection) : Nat :=
  Issue.countSeverity .warning collection.toList

end IssueCollection

end ReturnPaths
