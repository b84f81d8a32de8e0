import ReturnPaths.Issue.Collection

/-!
# The raw report

One line for each issue, in order: file, line, column and message with colons between them.
-/

namespace ReturnPaths.Report

/-- The line of an issue. -/
def rawLine (issue : Issue) : String :=
  s!"{issue.file.text}:{issue.line}:{issue.column}:{issue.message}\n"

/-- The raw report. -/
def raw (collection : IssueCollection) : String :=
  String.join (collection.sort.toList.map rawLine)

end ReturnPaths.Report
