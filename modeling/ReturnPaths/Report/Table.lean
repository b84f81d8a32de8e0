import ReturnPaths.Issue.Collection

/-!
# The table report

For people: a section for each file with a row for each of its issues, in the order of their
positions, and the numbers of errors and warnings at the end.
-/

namespace ReturnPaths.Report

/-- A text filled up with blanks on the left. -/
def padLeft (width : Nat) (text : String) : String :=
  String.ofList (List.replicate (width - text.length) ' ') ++ text

/-- A text filled up with blanks on the right. -/
def padRight (width : Nat) (text : String) : String :=
  text ++ String.ofList (List.replicate (width - text.length) ' ')

/-- The marker of a severity. -/
def marker : Severity → String
  | .error => "ERROR"
  | .warning => "WARNING"

/-- The rows of an issue: the issue, and its tip if it has one. -/
def rows (issue : Issue) : String :=
  let kind := padRight 7 (marker issue.severity)
  let line := padLeft 4 (toString issue.line)
  let column := padRight 3 (toString issue.column)
  let tip := match issue.tip with
    | some tip => s!"       Tip: {tip}\n"
    | none => ""
  s!" {kind} {line}:{column} {issue.message}\n" ++ tip

/-- The section of a file. -/
def fileSection (file : String) (issues : List Issue) : String :=
  s!"\n -- {file} --\n\n" ++ String.join (issues.map rows)

/-- A count of things with the ending of its noun. -/
def counted (count : Nat) (noun : String) : String :=
  if count = 1 then s!"{count} {noun}" else s!"{count} {noun}s"

/-- The numbers of errors and warnings. -/
def footer (errors warnings : Nat) : String :=
  let errorLine := "\n [ERROR] Found " ++ counted errors "error" ++ "\n"
  let warningLine :=
    if warnings = 0 then "" else " [WARNING] Found " ++ counted warnings "warning" ++ "\n"
  errorLine ++ warningLine

/-- The table report. -/
def table (collection : IssueCollection) : String :=
  if collection.isEmpty then " [OK] No missing returns\n"
  else
    String.join
        ((Issue.groupByFile collection.toList).map fun (file, issues) => fileSection file issues)
      ++ footer collection.errorCount collection.warningCount

end ReturnPaths.Report
