import ReturnPaths.Report.Raw
import ReturnPaths.Report.Github
import ReturnPaths.Report.Json
import ReturnPaths.Report.Table

/-!
# Report formats

* `OutputFormat.ofName?` : the format with a name, in capital or small letters.
* `OutputFormat.render` : the report on a collection of issues in a format.
-/

namespace ReturnPaths

/-- The formats of reports. -/
inductive OutputFormat where
  /-- One line for each issue. -/
  | raw
  /-- A JSON document. -/
  | json
  /-- A table for people. -/
  | table
  /-- Workflow annotations. -/
  | github
  deriving DecidableEq, Repr

namespace OutputFormat

/-- The format that is used where none is asked for. -/
def standard : OutputFormat := .table

/-- The formats by their names. -/
def named : List (String × OutputFormat) :=
  [("raw", .raw), ("json", .json), ("table", .table), ("github", .github)]

/-- The names of the formats. -/
def names : List String :=
  named.map (·.1)

/-- The format with a name.  Lower case is taken letter by letter within ASCII; this is enough,
since no letter of a name is the lower case of a character outside ASCII on its own. -/
def ofName? (name : String) : Option OutputFormat :=
  named.lookup name.toLower

/-- The report on a collection of issues. -/
def render : OutputFormat → IssueCollection → String
  | raw => Report.raw
  | json => Report.json
  | table => Report.table
  | github => Report.github

end OutputFormat

end ReturnPaths
