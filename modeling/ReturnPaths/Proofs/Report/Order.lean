import ReturnPaths.Proofs.Issue.Grouping
import ReturnPaths.Report.Format

/-!
# Reports and the order of issues

The raw report sorts the issues itself, so it does not depend on their order where no two of them
are at the same place; and the annotations, which follow the collection, come in its order after the
collection was sorted.

The JSON report and the table group the issues by the texts that their files are shown as and sort
each group by positions.  Issues that are shown at the same place keep their sequence.  If their
files are the same, so does sorting the collection beforehand; but different files can be shown as
the same text, and then sorting follows their paths.  This cannot be if the paths are texts.

* `Issue.SameShownPlace` : two issues are shown at the same place.
* `Issue.groupByFile_sort`, `Issue.groupByFile_of_perm` : when the groups do not depend on the order
  of the issues.
* `OutputFormat.render_reordered` : which reports are the same for which collections.
-/

namespace ReturnPaths

namespace Issue

/-- Two issues are shown at the same position of files that are shown as the same text. -/
def SameShownPlace (a b : Issue) : Prop :=
  a.file.text = b.file.text ∧ a.line = b.line ∧ a.column = b.column

instance : DecidableRel SameShownPlace := fun a b =>
  inferInstanceAs (Decidable (a.file.text = b.file.text ∧ a.line = b.line ∧ a.column = b.column))

theorem comparePosition_eq_eq {a b : Issue} :
    a.comparePosition b = .eq ↔ a.line = b.line ∧ a.column = b.column := by
  rw [comparePosition_eq, compareLex_eq_eq, compareOn, compareOn,
    Std.LawfulEqCmp.compare_eq_iff_eq, Std.LawfulEqCmp.compare_eq_iff_eq]

/-- Paths that are texts and are shown alike are the same. -/
theorem SameShownPlace.samePlace {a b : Issue} (h : a.SameShownPlace b) (ha : a.file.IsText)
    (hb : b.file.IsText) : a.SamePlace b := by
  have hfile : a.file = b.file := ha.eq_of_text_eq hb h.1
  exact ⟨hfile ▸ BytePath.same_self a.file, h.2⟩

theorem SamePlace.notAfter {a b : Issue} (h : a.SamePlace b) : a.NotAfter b :=
  .inr ⟨h.1, .inr ⟨h.2.1, UInt64.le_of_eq h.2.2⟩⟩

variable {issues issues' : List Issue}

/-! ### Grouped issues -/

theorem fileTexts_of_perm (h : issues'.Perm issues) : fileTexts issues' = fileTexts issues := by
  refine (pairwise_fileTexts issues').eq_of_mem_iff (pairwise_fileTexts issues) fun text => ?_
  simp only [mem_fileTexts, h.mem_iff]

theorem groupByFile_congr (hperm : issues'.Perm issues)
    (hgroups : ∀ text, sortPositions (issues'.filter (·.file.text = text)) =
      sortPositions (issues.filter (·.file.text = text))) :
    groupByFile issues' = groupByFile issues := by
  rw [groupByFile, groupByFile, fileTexts_of_perm hperm]
  exact List.map_congr_left fun text _ => by rw [hgroups]

theorem groupByFile_of_text_eq {text : String} (hne : issues ≠ [])
    (h : ∀ issue ∈ issues, issue.file.text = text) :
    groupByFile issues = [(text, sortPositions issues)] := by
  have htexts : fileTexts issues = [text] := by
    refine (pairwise_fileTexts issues).eq_of_mem_iff (List.pairwise_singleton _ _) fun other => ?_
    rw [mem_fileTexts, List.mem_singleton]
    constructor
    · rintro ⟨issue, hissue, rfl⟩
      exact h issue hissue
    · rintro rfl
      obtain ⟨issue, hissue⟩ := List.exists_mem_of_ne_nil issues hne
      exact ⟨issue, hissue, h issue hissue⟩
  rw [groupByFile, htexts, List.map_singleton,
    List.filter_eq_self.2 fun issue hissue => decide_eq_true (h issue hissue)]

/-- Grouping sorted issues gives the same groups if issues that are shown at the same place are in
order already. -/
theorem groupByFile_sort
    (h : issues.Pairwise fun a b => a.SameShownPlace b → a.NotAfter b) :
    groupByFile (sort issues) = groupByFile issues := by
  refine groupByFile_congr (sort_perm issues) fun text => mergeSort_eq_of_filter fun a => ?_
  rw [List.filter_filter, List.filter_filter]
  refine filter_mergeSort ((h.filter _).imp_of_mem fun {b c} hb hc hbc => ?_)
  simp only [List.mem_filter, Bool.and_eq_true, decide_eq_true_eq, comparePosition_eq_eq] at hb hc
  obtain ⟨-, ⟨hbline, hbcolumn⟩, hbtext⟩ := hb
  obtain ⟨-, ⟨hcline, hccolumn⟩, hctext⟩ := hc
  exact isLE_compare_iff.2 (hbc ⟨hbtext.trans hctext.symm, hbline.symm.trans hcline,
    hbcolumn.symm.trans hccolumn⟩)

/-- The groups do not depend on the order of the issues if no two are shown at the same place. -/
theorem groupByFile_of_perm (hperm : issues'.Perm issues)
    (h : issues.Pairwise fun a b => ¬ a.SameShownPlace b) :
    groupByFile issues' = groupByFile issues := by
  refine groupByFile_congr hperm fun text => mergeSort_eq_of_perm (hperm.filter _) ?_
  refine (h.filter _).imp_of_mem fun {a b} ha hb hab heq => hab ?_
  simp only [List.mem_filter, decide_eq_true_eq] at ha hb
  exact ⟨ha.2.trans hb.2.symm, comparePosition_eq_eq.1 heq⟩

end Issue

/-! ### Reports -/

namespace Report

variable {collection other : IssueCollection}

theorem raw_sort (collection : IssueCollection) : raw collection.sort = raw collection := by
  simp only [raw, IssueCollection.sort, Issue.sort_sort]

theorem raw_of_perm (hperm : other.toList.Perm collection.toList)
    (hplaces : collection.toList.Pairwise fun a b => ¬ a.SamePlace b) :
    raw other = raw collection := by
  simp only [raw, IssueCollection.sort, Issue.sort_eq_of_perm hperm hplaces]

theorem json_of_groupByFile_eq (hperm : other.toList.Perm collection.toList)
    (hgroups : Issue.groupByFile other.toList = Issue.groupByFile collection.toList) :
    json other = json collection := by
  simp only [json, document, IssueCollection.errorCount, IssueCollection.warningCount,
    Issue.countSeverity, hperm.countP_eq, hgroups]

theorem table_of_groupByFile_eq (hperm : other.toList.Perm collection.toList)
    (hgroups : Issue.groupByFile other.toList = Issue.groupByFile collection.toList) :
    table other = table collection := by
  have hempty : other.isEmpty = collection.isEmpty := hperm.isEmpty_eq
  rw [table, table, hempty, hgroups]
  simp only [IssueCollection.errorCount, IssueCollection.warningCount, Issue.countSeverity,
    hperm.countP_eq]

end Report

namespace OutputFormat

theorem render_of_groupByFile_eq {collection other : IssueCollection}
    (hperm : other.toList.Perm collection.toList)
    (hgroups : Issue.groupByFile other.toList = Issue.groupByFile collection.toList)
    {format : OutputFormat} (hformat : format ∈ [json, table]) :
    format.render other = format.render collection := by
  simp only [List.mem_cons, List.not_mem_nil, or_false] at hformat
  rcases hformat with rfl | rfl
  · exact Report.json_of_groupByFile_eq hperm hgroups
  · exact Report.table_of_groupByFile_eq hperm hgroups

/-- **Reports and the order in which issues were collected.**  The raw report is the same for a
collection and for the sorted collection, and it lists the issues as the annotations do once the
collection is sorted.  If no two issues are at the same place, it is the same for all orders of the
issues.  The JSON report and the table are the same for a collection and for the sorted collection
if issues that are shown at the same place are in order, and they are the same for all orders of the
issues if no two are shown at the same place.  If the paths are texts, issues that are shown at the
same place are at the same place, so the same can be said of all three reports. -/
theorem render_reordered (collection : IssueCollection) :
    raw.render collection.sort = raw.render collection ∧
      (∃ order, StablySorted Issue.compare collection.toList order ∧
        raw.render collection = String.join (order.map Report.rawLine) ∧
        github.render collection.sort = String.join (order.map Report.annotationLine)) ∧
      (∀ other : IssueCollection, other.toList.Perm collection.toList →
        collection.toList.Pairwise (fun a b => ¬ a.SamePlace b) →
          raw.render other = raw.render collection) ∧
      (collection.toList.Pairwise (fun a b => a.SameShownPlace b → a.NotAfter b) →
        ∀ format ∈ [json, table], format.render collection.sort = format.render collection) ∧
      (∀ other : IssueCollection, other.toList.Perm collection.toList →
        collection.toList.Pairwise (fun a b => ¬ a.SameShownPlace b) →
          ∀ format ∈ [json, table], format.render other = format.render collection) ∧
      ((∀ issue ∈ collection.toList, issue.file.IsText) →
        (∀ format ∈ [raw, json, table],
          format.render collection.sort = format.render collection) ∧
        ∀ other : IssueCollection, other.toList.Perm collection.toList →
          collection.toList.Pairwise (fun a b => ¬ a.SamePlace b) →
            ∀ format ∈ [raw, json, table], format.render other = format.render collection) := by
  have hgrouped {other : IssueCollection} (hperm : other.toList.Perm collection.toList)
      (hgroups : Issue.groupByFile other.toList = Issue.groupByFile collection.toList) :
      ∀ format ∈ [json, table], format.render other = format.render collection :=
    fun _ => render_of_groupByFile_eq hperm hgroups
  have hperm : collection.sort.toList.Perm collection.toList := Issue.sort_perm collection.toList
  refine ⟨Report.raw_sort collection, ⟨_, collection.stablySorted_sort, rfl, rfl⟩,
    fun other hperm hplaces => Report.raw_of_perm hperm hplaces,
    fun h => hgrouped hperm (Issue.groupByFile_sort h),
    fun other hperm h => hgrouped hperm (Issue.groupByFile_of_perm hperm h), fun htexts => ?_⟩
  have hsame : ∀ a ∈ collection.toList, ∀ b ∈ collection.toList,
      a.SameShownPlace b → a.SamePlace b :=
    fun a ha b hb h => h.samePlace (htexts a ha) (htexts b hb)
  constructor
  · have hsorted : collection.toList.Pairwise fun a b => a.SameShownPlace b → a.NotAfter b :=
      List.pairwise_of_forall_mem_list fun a ha b hb h => (hsame a ha b hb h).notAfter
    exact List.forall_mem_cons.2
      ⟨Report.raw_sort collection, hgrouped hperm (Issue.groupByFile_sort hsorted)⟩
  · intro other hperm hplaces
    have hshown : collection.toList.Pairwise fun a b => ¬ a.SameShownPlace b :=
      hplaces.imp_of_mem fun {a b} ha hb => mt (hsame a ha b hb)
    exact List.forall_mem_cons.2
      ⟨Report.raw_of_perm hperm hplaces, hgrouped hperm (Issue.groupByFile_of_perm hperm hshown)⟩

/-- Two issues of files that are shown alike, in order, and one of another file. -/
theorem render_reordered_swapped :
    let first : Issue := ⟨"t", .error, "M", ⟨[0xfe]⟩, 1, 1, none, none⟩
    let second : Issue := ⟨"t", .warning, "N", ⟨[0xff]⟩, 1, 1, none, some "T"⟩
    let third : Issue := ⟨"t", .warning, "N", (⟨"a//b"⟩ : Path), 1, 1, none, none⟩
    first.SameShownPlace second ∧
      raw.render ⟨[third, second, first]⟩ = raw.render ⟨[first, second, third]⟩ ∧
      (∀ format ∈ [json, table],
        format.render (.sort ⟨[first, second, third]⟩) =
          format.render ⟨[first, second, third]⟩) ∧
      (∀ format ∈ [json, table],
        format.render ⟨[third, first]⟩ = format.render ⟨[first, third]⟩) ∧
      raw.render ⟨[third, third]⟩ = raw.render (.sort ⟨[third, third]⟩) := by
  intro first second third
  obtain ⟨-, -, hraw, hsort, -⟩ := render_reordered ⟨[first, second, third]⟩
  obtain ⟨-, -, -, -, hperm, -⟩ := render_reordered ⟨[first, third]⟩
  obtain ⟨-, -, -, -, -, htexts⟩ := render_reordered ⟨[third, third]⟩
  have hplaces : [first, second, third].Pairwise fun a b => ¬ a.SamePlace b := by decide +kernel
  have horder : [first, second, third].Pairwise fun a b => a.SameShownPlace b → a.NotAfter b := by
    simp only [← Issue.isLE_compare_iff]
    decide +kernel
  have hshown : [first, third].Pairwise fun a b => ¬ a.SameShownPlace b := by decide +kernel
  have htext : ∀ issue ∈ [third, third], issue.file.IsText := by
    simp only [List.forall_mem_cons, List.not_mem_nil, false_implies, implies_true, and_true,
      and_self]
    exact ⟨⟨"a//b"⟩, rfl⟩
  exact ⟨by decide +kernel, hraw _ (by decide) hplaces, hsort horder,
    hperm _ (by decide) hshown, ((htexts htext).1 raw (by decide)).symm⟩

/-- Two issues of files that are shown alike, at the same position.  Their paths differ, but sorting
them changes what the JSON report and the table show. -/
theorem render_reordered_alike :
    let first : Issue := ⟨"t", .error, "M", ⟨[0xff]⟩, 1, 1, none, none⟩
    let second : Issue := ⟨"t", .error, "N", ⟨[0xfe]⟩, 1, 1, none, none⟩
    let collection : IssueCollection := ⟨[first, second]⟩
    collection.toList.Pairwise (fun a b => ¬ a.SamePlace b) ∧
      collection.sort.toList.Perm collection.toList ∧
      json.render collection.sort ≠ json.render collection ∧
      table.render collection.sort ≠ table.render collection := by
  intro first second collection
  have hcompare : first.compare second = .gt := by decide +kernel
  have hsort : collection.sort = ⟨[second, first]⟩ := by
    simp [collection, IssueCollection.sort, Issue.sort, List.mergeSort,
      List.MergeSort.Internal.splitInTwo, hcompare]
  have htexts : ∀ issue ∈ [first, second], issue.file.text = "\uFFFD" := by decide +kernel
  have htexts' : ∀ issue ∈ [second, first], issue.file.text = "\uFFFD" := by decide +kernel
  have hgroups : Issue.groupByFile [first, second] = [("\uFFFD", [first, second])] := by
    rw [Issue.groupByFile_of_text_eq (by simp) htexts, Issue.sortPositions,
      List.mergeSort_of_pairwise (by decide)]
  have hgroups' : Issue.groupByFile [second, first] = [("\uFFFD", [second, first])] := by
    rw [Issue.groupByFile_of_text_eq (by simp) htexts', Issue.sortPositions,
      List.mergeSort_of_pairwise (by decide)]
  refine ⟨by decide +kernel, Issue.sort_perm _, ?_, ?_⟩
  · rw [hsort]
    simp only [collection, render, Report.json, Report.document, hgroups, hgroups']
    refine mt String.ofList_injective ?_
    decide +kernel
  · rw [hsort]
    simp only [collection, render, Report.table, hgroups, hgroups']
    decide +kernel

end OutputFormat

end ReturnPaths
