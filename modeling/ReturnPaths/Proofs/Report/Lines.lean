import ReturnPaths.Proofs.Check.Reported
import ReturnPaths.Proofs.FlowUnit.RoundTrip
import ReturnPaths.Proofs.Path.Bytes
import ReturnPaths.Report.Format

/-!
# The lines of a report

The raw report and the annotation report have a line for each issue, as long as no line break gets
into it from the unit.  Both write the path of the file as it is; the raw report writes messages as
they are as well, and these hold the names of subjects.

* `IsLines` : a text is made of lines.
* `LinePerIssue` : its lines are those of issues, one for each.
* `Analyzer.analyzeUnit_linePerIssue` : when this is so for the reports on a unit.
* `Analyzer.analyzeUnit_linePerIssue_broken` : a unit with line breaks in its names.
-/

namespace ReturnPaths

/-! ### Lines -/

/-- A text is made of lines: each is followed by a line break, and none has another one in it. -/
def IsLines (text : String) (lines : List (List Char)) : Prop :=
  text.toList = lines.flatMap (· ++ ['\n']) ∧ ∀ line ∈ lines, '\n' ∉ line

theorem count_flatMap_lines {lines : List (List Char)} (h : ∀ line ∈ lines, '\n' ∉ line) :
    (lines.flatMap (· ++ ['\n'])).count '\n' = lines.length := by
  induction lines with
  | nil => rfl
  | cons line lines ih =>
    rw [List.forall_mem_cons] at h
    rw [List.flatMap_cons, List.count_append, List.count_append, ih h.2,
      List.count_eq_zero_of_not_mem h.1, List.count_singleton_self, List.length_cons]
    omega

theorem IsLines.length_eq {text : String} {lines : List (List Char)} (h : IsLines text lines) :
    lines.length = text.toList.count '\n' := by
  rw [h.1, count_flatMap_lines h.2]

/-- The lines of a text are those of issues, one for each issue and in the same order. -/
def LinePerIssue (render : Issue → String) (issues : List Issue) (text : String) : Prop :=
  ∃ lines, IsLines text lines ∧
    List.Forall₂ (fun issue line => (render issue).toList = line ++ ['\n']) issues lines

section LinePerIssue

variable {render : Issue → String} {content : Issue → List Char} {issues : List Issue}

/-- What is rendered issue by issue, with a line break after each, has one line for each issue if
and only if there are no other line breaks. -/
theorem linePerIssue_iff (hrender : ∀ issue, (render issue).toList = content issue ++ ['\n']) :
    LinePerIssue render issues (String.join (issues.map render)) ↔
      ∀ issue ∈ issues, '\n' ∉ content issue := by
  constructor
  · rintro ⟨lines, ⟨-, hlines⟩, hall⟩ issue hissue
    simp only [hrender, List.append_cancel_right_eq] at hall
    have heq : issues.map content = lines :=
      List.forall₂_eq_eq_eq ▸ List.forall₂_map_left_iff.2 hall
    rw [← heq] at hlines
    exact hlines _ (List.mem_map_of_mem hissue)
  · intro h
    refine ⟨issues.map content, ⟨?_, ?_⟩, ?_⟩
    · simp only [String.toList_join, List.flatMap_map, hrender]
    · simpa using h
    · rw [List.forall₂_map_right_iff]
      exact List.forall₂_same.2 fun issue _ => hrender issue

end LinePerIssue

/-! ### The lines of an issue -/

namespace Report

/-- The line of an issue in the raw report, without its end. -/
def rawContent (issue : Issue) : List Char :=
  issue.file.text.toList ++ ':' :: (Nat.toDigits 10 issue.line.toNat ++
    ':' :: (Nat.toDigits 10 issue.column.toNat ++ ':' :: issue.message.toList))

/-- The properties of the workflow command for an issue. -/
def properties (issue : Issue) : List Char :=
  "file=".toList ++ (issue.file.text.toList ++ (",line=".toList ++
    (Nat.toDigits 10 issue.line.toNat ++ (",col=".toList ++
      (Nat.toDigits 10 issue.column.toNat ++ (",title=".toList ++ issue.check.toList))))))

/-- The workflow command for an issue, without its end. -/
def annotationContent (issue : Issue) : List Char :=
  "::".toList ++ (issue.severity.label.toList ++ (" ".toList ++ (properties issue ++
    ("::".toList ++ issue.message.toList.flatMap escapeChar))))

theorem rawLine_toList (issue : Issue) : (rawLine issue).toList = rawContent issue ++ ['\n'] := by
  simp [rawLine, rawContent, toString, Nat.repr]

theorem annotationLine_toList (issue : Issue) :
    (annotationLine issue).toList = annotationContent issue ++ ['\n'] := by
  simp [annotationLine, annotationContent, properties, escapeMessage, toString, Nat.repr]

theorem not_mem_toDigits {c : Char} (hc : c.isDigit = false) (n : ℕ) : c ∉ Nat.toDigits 10 n := by
  intro h
  have hdigit := Nat.isDigit_of_mem_toDigits (by decide) (by decide) h
  rw [hc] at hdigit
  cases hdigit

theorem linebreak_mem_rawContent {issue : Issue} :
    '\n' ∈ rawContent issue ↔ '\n' ∈ issue.file.text.toList ∨ '\n' ∈ issue.message.toList := by
  simp [rawContent, not_mem_toDigits]

theorem linebreak_not_mem_escapeChar (c : Char) : '\n' ∉ escapeChar c := by
  unfold escapeChar
  split <;> simp_all [eq_comm]

theorem linebreak_mem_annotationContent {issue : Issue} :
    '\n' ∈ annotationContent issue ↔
      '\n' ∈ issue.file.text.toList ∨ '\n' ∈ issue.check.toList := by
  have hlabel : '\n' ∉ issue.severity.label.toList := by cases issue.severity <;> decide
  simp [annotationContent, properties, not_mem_toDigits, linebreak_not_mem_escapeChar,
    hlabel]

end Report

/-! ### The issues of a unit -/

namespace Subject

mutual

theorem enclosing_of_mem_walk : (subject : Subject) → ∀ {enclosing : Option String}
    {entry : Option String × Subject}, entry ∈ subject.walk enclosing →
    entry.1 = enclosing ∨ ∃ other ∈ subject.walk enclosing, entry.1 = some other.2.name
  | ⟨name, kind, declared, returnType, body, closures⟩, enclosing, entry, h => by
    rw [walk, List.mem_append, List.mem_singleton] at h
    rcases h with h | rfl
    · refine .inr ?_
      rcases enclosing_of_mem_walkAll closures h with houter | ⟨other, hother, hname⟩
      · -- a closure of the subject itself
        exact ⟨(enclosing, ⟨name, kind, declared, returnType, body, closures⟩),
          by simp [walk], houter⟩
      · exact ⟨other, by simp [walk, hother], hname⟩
    · exact .inl rfl

/-- What a subject is written in is a subject of the walk, or what all of them are written in. -/
theorem enclosing_of_mem_walkAll : (subjects : List Subject) → ∀ {enclosing : Option String}
    {entry : Option String × Subject}, entry ∈ walkAll enclosing subjects →
    entry.1 = enclosing ∨ ∃ other ∈ walkAll enclosing subjects, entry.1 = some other.2.name
  | [], _, _, h => by simp [walkAll] at h
  | subject :: subjects, enclosing, entry, h => by
    rw [walkAll, List.mem_append] at h
    rcases h with h | h
    · refine (enclosing_of_mem_walk subject h).imp_right ?_
      rintro ⟨other, hother, hname⟩
      exact ⟨other, by simp [walkAll, hother], hname⟩
    · refine (enclosing_of_mem_walkAll subjects h).imp_right ?_
      rintro ⟨other, hother, hname⟩
      exact ⟨other, by simp [walkAll, hother], hname⟩

end

end Subject

namespace MissingReturn

theorem mem_found {file : Path} {walk : List (Option String × Subject)} {issue : Issue}
    (h : issue ∈ found file walk) :
    ∃ entry ∈ walk, ∃ anchor, issue = issueAt file entry.1 entry.2 anchor := by
  obtain ⟨entry, hentry, hissue⟩ := List.mem_flatMap.1 h
  obtain ⟨_, anchor, -, -, -, rfl⟩ := mem_examine.1 hissue
  exact ⟨entry, hentry, anchor, rfl⟩

/-- A message has line breaks only from the names in it. -/
theorem linebreak_not_mem_message {enclosing : Option String} {subject : Subject}
    (hname : '\n' ∉ subject.name.toList) (houter : ∀ outer ∈ enclosing, '\n' ∉ outer.toList) :
    '\n' ∉ (message enclosing subject).toList := by
  have hlabel : '\n' ∉ (label enclosing subject).toList := by
    unfold label
    split <;> simp_all [toString]
  simp [message, hlabel]

end MissingReturn

namespace Analyzer

open Report

theorem mem_analyzeUnit {config : Config} {selected : List String} {unit : FlowUnit} {issue : Issue}
    (h : issue ∈ (analyzeUnit { config, selected } unit).toList) :
    ∃ entry ∈ unit.walk, ∃ anchor,
      issue = MissingReturn.issueAt unit.file entry.1 entry.2 anchor := by
  rcases issues_analyzeUnit config selected with hissues | hissues
  · rw [hissues] at h
    cases h
  · rw [hissues] at h
    exact MissingReturn.mem_found h

/-- The path of a file is broken in all lines of its issues or in none. -/
theorem forall_unbroken_iff {file : BytePath} {issues : List Issue} {Broken : Issue → Prop}
    (hfile : ∀ issue ∈ issues, issue.file = file) :
    (∀ issue ∈ issues, ¬ ('\n' ∈ issue.file.text.toList ∨ Broken issue)) ↔
      issues = [] ∨ ('\n' ∉ file.text.toList ∧ ∀ issue ∈ issues, ¬ Broken issue) := by
  constructor
  · intro h
    refine or_iff_not_imp_left.2 fun hne => ?_
    obtain ⟨issue, hissue⟩ := List.exists_mem_of_ne_nil _ hne
    rw [← hfile issue hissue]
    exact ⟨fun hbreak => h issue hissue (.inl hbreak),
      fun other hother hbroken => h other hother (.inr hbroken)⟩
  · rintro (rfl | ⟨hbreak, hbroken⟩) issue hissue
    · cases hissue
    · rw [hfile issue hissue]
      exact not_or.2 ⟨hbreak, hbroken issue hissue⟩

/-- **A line for each issue.**  The annotations of a unit have one line for each issue if and only
if there is no issue or the path of the source file has no line break; the raw report needs messages
without line breaks as well, which there are if no name of a subject has one. -/
theorem analyzeUnit_linePerIssue (config : Config) (selected : List String) (unit : FlowUnit) :
    let issues := analyzeUnit { config, selected } unit
    (LinePerIssue annotationLine issues.toList (OutputFormat.github.render issues) ↔
        issues.toList = [] ∨ '\n' ∉ unit.file.text.toList) ∧
      (LinePerIssue rawLine issues.sort.toList (OutputFormat.raw.render issues) ↔
        issues.toList = [] ∨ ('\n' ∉ unit.file.text.toList ∧
          ∀ issue ∈ issues.toList, '\n' ∉ issue.message.toList)) ∧
      ((∀ entry ∈ unit.walk, '\n' ∉ entry.2.name.toList) →
        ∀ issue ∈ issues.toList, '\n' ∉ issue.message.toList) := by
  intro issues
  have hfile : ∀ issue ∈ issues.toList, issue.file = unit.file := by
    intro issue hissue
    obtain ⟨_, _, _, rfl⟩ := mem_analyzeUnit hissue
    rfl
  have hcheck : ∀ issue ∈ issues.toList, '\n' ∉ issue.check.toList := by
    intro issue hissue
    obtain ⟨_, _, _, rfl⟩ := mem_analyzeUnit hissue
    show '\n' ∉ MissingReturn.id.toList
    decide
  refine ⟨?_, ?_, ?_⟩
  · refine (linePerIssue_iff annotationLine_toList).trans ?_
    simp only [linebreak_mem_annotationContent]
    rw [forall_unbroken_iff hfile, and_iff_left hcheck, Path.text_toBytes]
  · have hmem (issue : Issue) : issue ∈ issues.sort.toList ↔ issue ∈ issues.toList :=
      List.mem_mergeSort
    refine (linePerIssue_iff rawLine_toList).trans ?_
    simp only [linebreak_mem_rawContent, hmem]
    rw [forall_unbroken_iff hfile, Path.text_toBytes]
  · intro hnames issue hissue
    obtain ⟨entry, hentry, _, rfl⟩ := mem_analyzeUnit hissue
    refine MissingReturn.linebreak_not_mem_message (hnames entry hentry) fun outer houter => ?_
    rcases Subject.enclosing_of_mem_walkAll unit.subjects hentry with hnone | ⟨other, hother, hname⟩
    · rw [hnone] at houter
      cases houter
    · rw [hname] at houter
      cases houter
      exact hnames other hother

/-- A method that falls off its end: one line in each report. -/
theorem analyzeUnit_linePerIssue_oneUnit :
    let anchor : Element := { range := ⟨3, 9⟩, location := ⟨2, 5⟩ }
    let method : Subject :=
      ⟨"f", .method, true, some ⟨"int", .primitive⟩,
        some ⟨[⟨.fallThrough, none, false⟩], some anchor⟩, []⟩
    let issues := analyzeUnit {} ⟨⟨"A"⟩, [method]⟩
    LinePerIssue annotationLine issues.toList (OutputFormat.github.render issues) ∧
      LinePerIssue rawLine issues.sort.toList (OutputFormat.raw.render issues) ∧
      issues.size = 1 := by
  intro anchor method issues
  obtain ⟨hgithub, hraw, hmessages⟩ := analyzeUnit_linePerIssue {} [] ⟨⟨"A"⟩, [method]⟩
  have hfile : '\n' ∉ "A".toList := by decide
  refine ⟨hgithub.2 (.inr hfile), hraw.2 (.inr ⟨hfile, hmessages ?_⟩), by decide⟩
  intro entry hentry
  have hwalk : FlowUnit.walk ⟨⟨"A"⟩, [method]⟩ = [(none, method)] := rfl
  rw [hwalk, List.mem_singleton] at hentry
  rw [hentry]
  show '\n' ∉ "f".toList
  decide

/-- A unit with line breaks in the path of its file and in the name of its method.  It can be read,
and its only issue takes three lines of the raw report and two lines of the annotations. -/
theorem analyzeUnit_linePerIssue_broken :
    let anchor : Element := { range := ⟨3, 9⟩, location := ⟨2, 5⟩ }
    let method : Subject :=
      ⟨"f\ng", .method, true, some ⟨"int", .primitive⟩,
        some ⟨[⟨.fallThrough, none, false⟩], some anchor⟩, []⟩
    let unit : FlowUnit := ⟨⟨"A\nB"⟩, [method]⟩
    let issues := analyzeUnit {} unit
    FlowUnit.ofJson unit.toJson = .ok unit ∧ issues.size = 1 ∧
      (∀ lines, IsLines (OutputFormat.raw.render issues) lines → lines.length = 3) ∧
      ∀ lines, IsLines (OutputFormat.github.render issues) lines → lines.length = 2 := by
  intro anchor method unit issues
  let issue := MissingReturn.issueAt unit.file none method anchor
  have hissues : issues = ⟨[issue]⟩ := by decide
  have hraw : (OutputFormat.raw.render issues).toList = rawContent issue ++ ['\n'] := by
    rw [hissues]
    simp [OutputFormat.render, raw, IssueCollection.sort, Issue.sort, rawLine_toList]
  have hgithub : (OutputFormat.github.render issues).toList =
      annotationContent issue ++ ['\n'] := by
    rw [hissues]
    simp [OutputFormat.render, github, annotationLine_toList]
  refine ⟨?_, by decide, ?_, ?_⟩
  · refine readWhole_eq_ok unit.json.writes_compact ?_
    rw [unit.written depthLimit]
    exact if_pos (by decide)
  · intro lines hlines
    rw [hlines.length_eq, hraw]
    decide
  · intro lines hlines
    rw [hlines.length_eq, hgithub]
    decide

end Analyzer

end ReturnPaths
