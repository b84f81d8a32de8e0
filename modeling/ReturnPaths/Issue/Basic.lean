import ReturnPaths.Path.Bytes

/-!
# Issues

An issue is one diagnostic of a check, attached to a position of a source file.

* `Issue.compare` : the order of issues, by file as a path, then line, then column.
* `Issue.sort` : issues in this order; issues at the same position keep their order.
* `Issue.groupByFile` : issues grouped by the text that their file is shown as, in the order of
  these texts, and the issues of a group in the order of their positions.
-/

namespace ReturnPaths

/-- How serious an issue is. -/
inductive Severity where
  /-- A value is required on every path, and some path lacks one. -/
  | error
  /-- The paths disagree on whether a value is produced. -/
  | warning
  deriving DecidableEq, Repr

/-- The name of a severity. -/
def Severity.label : Severity → String
  | error => "error"
  | warning => "warning"

/-- A diagnostic. -/
structure Issue where
  /-- The check that found it. -/
  check : String
  /-- How serious it is. -/
  severity : Severity
  /-- What is wrong. -/
  message : String
  /-- The source file. -/
  file : BytePath
  /-- The line, counted from 1. -/
  line : UInt64
  /-- The column, counted from 1. -/
  column : UInt64
  /-- The method or closure it belongs to. -/
  subject : Option String := none
  /-- How to mend it. -/
  tip : Option String := none
  deriving DecidableEq, Repr

namespace Issue

/-- The order of positions within a file. -/
def comparePosition (a b : Issue) : Ordering :=
  (compareOfLessAndEq a.line b.line).then (compareOfLessAndEq a.column b.column)

/-- The order of issues. -/
def compare (a b : Issue) : Ordering :=
  (a.file.compare b.file).then (a.comparePosition b)

/-- Issues in order; issues at the same position keep their order. -/
def sort (issues : List Issue) : List Issue :=
  issues.mergeSort fun a b => (a.compare b).isLE

/-- The issues of one file in the order of their positions. -/
def sortPositions (issues : List Issue) : List Issue :=
  issues.mergeSort fun a b => (a.comparePosition b).isLE

/-- The number of issues of a severity. -/
def countSeverity (severity : Severity) (issues : List Issue) : Nat :=
  issues.countP (·.severity = severity)

/-- The texts that the files of some issues are shown as, each once and in order. -/
def fileTexts (issues : List Issue) : List String :=
  (issues.map (·.file.text)).eraseDups.mergeSort fun a b => !decide (b < a)

/-- The issues grouped by the text that their file is shown as. -/
def groupByFile (issues : List Issue) : List (String × List Issue) :=
  (fileTexts issues).map fun text =>
    (text, sortPositions (issues.filter (·.file.text = text)))

end Issue

end ReturnPaths
