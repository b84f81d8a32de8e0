import ReturnPaths.Issue.Collection

/-!
# The annotation report

One workflow command for each issue, in the order in which the issues were collected:

`::error file=F,line=L,col=C,title=T::M`

In the message `M`, percent signs and line breaks are escaped (`escapeMessage`); the properties are
written as they are.
-/

namespace ReturnPaths.Report

/-- A character of a message as it is written in a workflow command. -/
def escapeChar (c : Char) : List Char :=
  match c with
  | '%' => ['%', '2', '5']
  | '\r' => ['%', '0', 'D']
  | '\n' => ['%', '0', 'A']
  | c => [c]

/-- A message as it is written in a workflow command. -/
def escapeMessage (message : String) : String :=
  String.ofList (message.toList.flatMap escapeChar)

/-- The workflow command for an issue. -/
def annotationLine (issue : Issue) : String :=
  s!"::{issue.severity.label} file={issue.file.text},line={issue.line},col={issue.column}"
    ++ s!",title={issue.check}::{escapeMessage issue.message}\n"

/-- The annotation report. -/
def github (collection : IssueCollection) : String :=
  String.join (collection.toList.map annotationLine)

end ReturnPaths.Report
