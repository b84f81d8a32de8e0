import ReturnPaths.Report.Format
import ReturnPaths.Proofs.Issue.Grouping
import ReturnPaths.Proofs.Json.Decoding
import ReturnPaths.Proofs.Path.Bytes

/-!
# Reading the JSON report

The report is a JSON text with one value, and from this value all issues can be read, each under the
text that its file is shown as.  The readers here look members up by their names and give nothing if
a member is missing or repeated or if there are others.

* `Issue.shown` : an issue as it is shown; this is the issue itself if the path of its file is a
  text.
* `Summary`, `FileSummary` : what is read, and `readDocument` the reader.
* `Summary.Describes` : a summary tells of the issues of a collection, and of nothing else.
* `json_describes` : the report does.
-/

namespace ReturnPaths

namespace Issue

/-- An issue as it is shown: what its file is shown as stands for the path of the file. -/
def shown (issue : Issue) : Issue :=
  { issue with file := (⟨issue.file.text⟩ : Path) }

/-- A path that is a text is shown as it is, so nothing of the issue is lost. -/
theorem shown_of_isText {issue : Issue} (h : issue.file.IsText) : issue.shown = issue := by
  obtain ⟨path, hpath⟩ := h
  rw [shown, hpath, Path.text_toBytes, ← hpath]

end Issue

namespace Report

open Json (Value Decodes)

/-! ### Members -/

/-- The members of an object, if it has no members but those with some names. -/
def membersAmong? (names : List String) : Value → Option (List (String × Value))
  | .object members => if ∀ member ∈ members, member.1 ∈ names then some members else none
  | _ => none

/-- The value of the only member with a name. -/
def member? (name : String) (members : List (String × Value)) : Option Value :=
  match members.filter (·.1 = name) with
  | [(_, value)] => some value
  | _ => none

/-- The number in the only member with a name. -/
def number? (name : String) (members : List (String × Value)) : Option ℕ :=
  match member? name members with
  | some (.natural n) => some n
  | _ => none

/-- The number of 64 bits in the only member with a name. -/
def word? (name : String) (members : List (String × Value)) : Option UInt64 :=
  (number? name members).bind fun n => if n < 2 ^ 64 then some (.ofNat n) else none

/-- The string in the only member with a name. -/
def text? (name : String) (members : List (String × Value)) : Option String :=
  match member? name members with
  | some (.text s) => some s
  | _ => none

/-- The string in the only member with a name, if there is a member with this name. -/
def optionalText? (name : String) (members : List (String × Value)) : Option (Option String) :=
  if ∃ member ∈ members, member.1 = name then (text? name members).map some else some none

/-- The elements of the list in the only member with a name. -/
def elements? (name : String) (members : List (String × Value)) : Option (List Value) :=
  match member? name members with
  | some (.list elements) => some elements
  | _ => none

/-- The severity with a name. -/
def severity? (label : String) : Option Severity :=
  [Severity.error, .warning].find? (·.label = label)

/-! ### Summaries -/

/-- What a report tells of a file. -/
structure FileSummary where
  /-- The text of its path. -/
  name : String
  /-- The number of its errors. -/
  errors : ℕ
  /-- The number of its warnings. -/
  warnings : ℕ
  /-- Its issues. -/
  messages : List Issue
  deriving DecidableEq

/-- What a report tells. -/
structure Summary where
  /-- The number of errors. -/
  errors : ℕ
  /-- The number of warnings. -/
  warnings : ℕ
  /-- The number of files. -/
  fileCount : ℕ
  /-- The files. -/
  files : List FileSummary
  deriving DecidableEq

/-- The issue of a file in an entry. -/
def readIssue (file : String) (entry : Value) : Option Issue := do
  let members ← membersAmong?
    ["message", "line", "column", "severity", "check", "subject", "tip"] entry
  let message ← text? "message" members
  let line ← word? "line" members
  let column ← word? "column" members
  let severity ← (text? "severity" members).bind severity?
  let check ← text? "check" members
  let subject ← optionalText? "subject" members
  let tip ← optionalText? "tip" members
  let path : Path := ⟨file⟩
  return { check, severity, message, file := path, line, column, subject, tip }

/-- A file in a member. -/
def readFile (member : String × Value) : Option FileSummary := do
  let (name, entry) := member
  let members ← membersAmong? ["errors", "warnings", "messages"] entry
  let errors ← number? "errors" members
  let warnings ← number? "warnings" members
  let messages ← (← elements? "messages" members).mapM (readIssue name)
  return { name, errors, warnings, messages }

/-- The summary in the value of a report. -/
def readDocument (document : Value) : Option Summary := do
  let members ← membersAmong? ["totals", "files"] document
  let totals ← membersAmong? ["errors", "warnings", "files"] (← member? "totals" members)
  let errors ← number? "errors" totals
  let warnings ← number? "warnings" totals
  let fileCount ← number? "files" totals
  let .object files ← member? "files" members | none
  let files ← files.mapM readFile
  return { errors, warnings, fileCount, files }

/-- A summary tells of the issues of a collection, and of nothing else. -/
structure Summary.Describes (summary : Summary) (collection : IssueCollection) : Prop where
  /-- The files are in the order of the bytes of their names, so none is there twice. -/
  ordered : (summary.files.map fun file => Text.bytes file.name).Pairwise (· < ·)
  /-- They are the files of the issues. -/
  names : ∀ name, (∃ file ∈ summary.files, file.name = name) ↔
    ∃ issue ∈ collection.toList, issue.file.text = name
  /-- The issues of each file are all its issues as they are shown, sorted by line and column;
  issues at the same position keep their order. -/
  messages : ∀ file ∈ summary.files, ∃ issues, file.messages = issues.map Issue.shown ∧
    StablySorted Issue.comparePosition (collection.toList.filter (·.file.text = file.name)) issues
  /-- The errors of each file are counted. -/
  fileErrors : ∀ file ∈ summary.files, file.errors =
    Issue.countSeverity .error (collection.toList.filter (·.file.text = file.name))
  /-- The warnings of each file are counted. -/
  fileWarnings : ∀ file ∈ summary.files, file.warnings =
    Issue.countSeverity .warning (collection.toList.filter (·.file.text = file.name))
  /-- The number of errors is that of the collection, and that of all files together. -/
  errors : summary.errors = collection.errorCount ∧
    summary.errors = (summary.files.map FileSummary.errors).sum
  /-- The number of warnings is that of the collection, and that of all files together. -/
  warnings : summary.warnings = collection.warningCount ∧
    summary.warnings = (summary.files.map FileSummary.warnings).sum
  /-- The files are counted. -/
  fileCount : summary.fileCount = summary.files.length

/-! ### What is read from a report -/

theorem mapM_map_eq_some {α β γ : Type} {read : β → Option γ} {write : α → β} {f : α → γ}
    {list : List α} (h : ∀ a ∈ list, read (write a) = some (f a)) :
    (list.map write).mapM read = some (list.map f) := by
  induction list with
  | nil => rfl
  | cons a list ih =>
    rw [List.forall_mem_cons] at h
    rw [List.map_cons, List.mapM_cons, h.1, ih h.2]
    rfl

theorem severity?_label (severity : Severity) : severity? severity.label = some severity := by
  cases severity <;> decide

theorem readIssue_issueEntry (issue : Issue) :
    readIssue issue.file.text (issueEntry issue) = some issue.shown := by
  obtain ⟨check, severity, message, file, line, column, subject, tip⟩ := issue
  have hword (n : UInt64) : n.toNat < 18446744073709551616 := n.toNat_lt
  -- which members there are depends on the two optional ones
  cases subject <;> cases tip <;>
    simp [readIssue, issueEntry, optionalMember, membersAmong?, optionalText?, text?, word?,
      number?, member?, severity?_label, hword, Issue.shown]

/-- The summary of a file. -/
def fileSummary (group : String × List Issue) : FileSummary :=
  ⟨group.1, Issue.countSeverity .error group.2, Issue.countSeverity .warning group.2,
    group.2.map Issue.shown⟩

theorem readFile_fileEntry {group : String × List Issue}
    (h : ∀ issue ∈ group.2, issue.file.text = group.1) :
    readFile (group.1, fileEntry group.2) = some (fileSummary group) := by
  have hmessages :
      (group.2.map issueEntry).mapM (readIssue group.1) = some (group.2.map Issue.shown) :=
    mapM_map_eq_some fun issue hissue => h issue hissue ▸ readIssue_issueEntry issue
  simp [readFile, fileEntry, membersAmong?, number?, elements?, member?, hmessages, fileSummary]

theorem readDocument_document (collection : IssueCollection) :
    readDocument (document collection) = some
      ⟨collection.errorCount, collection.warningCount,
        (Issue.groupByFile collection.toList).length,
        (Issue.groupByFile collection.toList).map fileSummary⟩ := by
  have hfiles : ((Issue.groupByFile collection.toList).map fun group =>
      (group.1, fileEntry group.2)).mapM readFile =
        some ((Issue.groupByFile collection.toList).map fileSummary) := by
    refine mapM_map_eq_some fun group hgroup => readFile_fileEntry fun issue hissue => ?_
    obtain ⟨text, -, rfl⟩ := List.mem_map.1 hgroup
    simpa using (List.mem_filter.1 (List.mem_mergeSort.1 hissue)).2
  simp [readDocument, document, membersAmong?, number?, member?, hfiles]

theorem exists_fileSummary {issues : List Issue} {file : FileSummary}
    (h : file ∈ (Issue.groupByFile issues).map fileSummary) :
    ∃ text, file =
      fileSummary (text, Issue.sortPositions (issues.filter (·.file.text = text))) := by
  rw [Issue.groupByFile, List.map_map] at h
  obtain ⟨text, -, rfl⟩ := List.mem_map.1 h
  exact ⟨text, rfl⟩

/-- The files of the report and what it says of them come from grouping the issues. -/
theorem describes_groups (collection : IssueCollection) :
    Summary.Describes ⟨collection.errorCount, collection.warningCount,
      (Issue.groupByFile collection.toList).length,
      (Issue.groupByFile collection.toList).map fileSummary⟩ collection where
  ordered := by
    rw [Issue.groupByFile, List.map_map, List.map_map, List.pairwise_map]
    exact (Issue.pairwise_fileTexts collection.toList).imp Text.bytes_lt_bytes
  names name := by
    rw [← Issue.mem_fileTexts, Issue.groupByFile, List.map_map]
    simp [fileSummary]
  messages file hfile := by
    obtain ⟨text, rfl⟩ := exists_fileSummary hfile
    exact ⟨_, rfl, Issue.stablySorted_sortPositions _⟩
  fileErrors file hfile := by
    obtain ⟨text, rfl⟩ := exists_fileSummary hfile
    exact Issue.countSeverity_sortPositions .error _
  fileWarnings file hfile := by
    obtain ⟨text, rfl⟩ := exists_fileSummary hfile
    exact Issue.countSeverity_sortPositions .warning _
  errors := by
    rw [List.map_map]
    exact ⟨rfl, (Issue.sum_countSeverity .error collection.toList).symm⟩
  warnings := by
    rw [List.map_map]
    exact ⟨rfl, (Issue.sum_countSeverity .warning collection.toList).symm⟩
  fileCount := (List.length_map _).symm

/-- **The JSON report loses and invents nothing.**  The report on any collection is a JSON text with
one value.  In it, the files are the distinct files of the issues, in the order of their bytes; each
has all its issues as they are, sorted by line and column, and the numbers of its errors and
warnings; and the totals are those of the collection. -/
theorem json_describes (collection : IssueCollection) :
    ∃ value, Decodes (json collection) value ∧
      ∃ summary, readDocument value = some summary ∧ summary.Describes collection :=
  ⟨document collection, (document collection).decodes_pretty, _,
    readDocument_document collection, describes_groups collection⟩

end Report

end ReturnPaths
