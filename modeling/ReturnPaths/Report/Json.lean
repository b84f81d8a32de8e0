import ReturnPaths.Issue.Collection
import ReturnPaths.Json.Value

/-!
# The JSON report

The totals of the issues, and for each file, under the text of its path, the numbers of its errors
and warnings and its issues in the order of their positions.
-/

namespace ReturnPaths.Report

open ReturnPaths.Json (Value)

/-- A member for a value that may be missing. -/
def optionalMember (name : String) (text : Option String) : List (String × Value) :=
  (text.map fun text => (name, Value.text text)).toList

/-- The entry of an issue. -/
def issueEntry (issue : Issue) : Value :=
  .object <|
    [("message", .text issue.message), ("line", .natural issue.line.toNat),
     ("column", .natural issue.column.toNat), ("severity", .text issue.severity.label),
     ("check", .text issue.check)]
    ++ optionalMember "subject" issue.subject ++ optionalMember "tip" issue.tip

/-- The entry of a file with its issues. -/
def fileEntry (issues : List Issue) : Value :=
  .object
    [("errors", .natural (Issue.countSeverity .error issues)),
     ("warnings", .natural (Issue.countSeverity .warning issues)),
     ("messages", .list (issues.map issueEntry))]

/-- The report as a JSON value. -/
def document (collection : IssueCollection) : Value :=
  let files := Issue.groupByFile collection.toList
  .object
    [("totals", .object
       [("errors", .natural collection.errorCount), ("warnings", .natural collection.warningCount),
        ("files", .natural files.length)]),
     ("files", .object (files.map fun (text, issues) => (text, fileEntry issues)))]

/-- The JSON report. -/
def json (collection : IssueCollection) : String :=
  (document collection).pretty

end ReturnPaths.Report
