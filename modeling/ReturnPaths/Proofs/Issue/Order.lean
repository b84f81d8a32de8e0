import ReturnPaths.Issue.Collection
import ReturnPaths.Proofs.Path.Bytes

/-!
# The order of issues

Issues are ordered by their files, as paths, and then by their lines and columns; sorting keeps
issues at the same position in sequence.

* `Issue.NotAfter` : the order, from the files and the positions of two issues.
* `Issue.SamePlace` : what issues have in common whose sequence is kept.
* `Issue.sort_perm`, `Issue.sort_sort` : sorting loses and invents nothing, and once is enough.
-/

namespace ReturnPaths

namespace Issue

/-- The order of issues by their files alone. -/
def compareFile (a b : Issue) : Ordering := a.file.compare b.file

instance : Std.TransCmp compareFile where
  eq_swap {a b} := Std.OrientedCmp.eq_swap (a := a.file) (b := b.file)
  isLE_trans {_ b _} h h' := Std.TransCmp.isLE_trans (b := b.file) h h'

theorem compare_eq : Issue.compare =
    compareLex compareFile (compareLex (compareOn Issue.line) (compareOn Issue.column)) := rfl

instance : Std.TransCmp Issue.compare := compare_eq ▸ inferInstance

/-- Two issues are at the same position of the same file, whose path may be spelled in two ways. -/
def SamePlace (a b : Issue) : Prop :=
  a.file.same b.file = true ∧ a.line = b.line ∧ a.column = b.column

instance : DecidableRel SamePlace := fun a b =>
  inferInstanceAs (Decidable (a.file.same b.file = true ∧ a.line = b.line ∧ a.column = b.column))

theorem compare_eq_eq {a b : Issue} : a.compare b = .eq ↔ a.SamePlace b := by
  rw [Issue.compare_eq, compareLex_eq_eq, compareLex_eq_eq, compareFile, BytePath.compare_eq_eq,
    SamePlace, compareOn, compareOn, Std.LawfulEqCmp.compare_eq_iff_eq,
    Std.LawfulEqCmp.compare_eq_iff_eq]

/-- An issue is in an earlier file than another, or in the same file on an earlier line, or on the
same line in a column that is not later. -/
def NotAfter (a b : Issue) : Prop :=
  a.file.Before b.file ∨
    (a.file.same b.file = true ∧ (a.line < b.line ∨ (a.line = b.line ∧ a.column ≤ b.column)))

theorem isLE_compare_iff {a b : Issue} : (a.compare b).isLE = true ↔ a.NotAfter b := by
  rw [Issue.compare_eq, compareLex, Ordering.isLE_then_iff_or, compareLex,
    Ordering.isLE_then_iff_or, compareFile, BytePath.compare_eq_lt_iff, BytePath.compare_eq_eq,
    compareOn, compareOn, Std.compare_eq_lt, Std.LawfulEqCmp.compare_eq_iff_eq,
    Std.isLE_compare, NotAfter]

variable {issues issues' : List Issue}

/-! ### Sorted issues -/

theorem sort_perm (issues : List Issue) : (sort issues).Perm issues :=
  List.mergeSort_perm _ _

theorem stablySorted_sort (issues : List Issue) :
    StablySorted Issue.compare issues (sort issues) :=
  stablySorted_mergeSort issues

theorem sort_sort (issues : List Issue) : sort (sort issues) = sort issues :=
  List.mergeSort_of_pairwise (stablySorted_sort issues).ordered

theorem sort_eq_of_perm (hperm : issues'.Perm issues)
    (hplaces : issues.Pairwise fun a b => ¬ a.SamePlace b) : sort issues' = sort issues :=
  mergeSort_eq_of_perm hperm (hplaces.imp fun h => mt compare_eq_eq.1 h)

theorem pairwise_sort (issues : List Issue) : (sort issues).Pairwise NotAfter :=
  (stablySorted_sort issues).ordered.imp isLE_compare_iff.1

/-- Sorting keeps the issues at one place in sequence. -/
theorem filter_samePlace_sort (issue : Issue) (issues : List Issue) :
    (sort issues).filter (fun other => issue.SamePlace other) =
      issues.filter (fun other => issue.SamePlace other) := by
  have hstable := (stablySorted_sort issues).stable issue
  simpa only [compare_eq_eq] using hstable

/-- Lists that are the same when they are sorted have the same issues. -/
theorem perm_of_sort_eq (h : sort issues = sort issues') : issues.Perm issues' :=
  (sort_perm issues).symm.trans (h ▸ sort_perm issues')

/-- Whether a list was sorted before more issues were put in cannot be seen when it is sorted. -/
theorem sort_append_of_sort_eq (h : sort issues = sort issues') (more : List Issue) :
    sort (issues ++ more) = sort (issues' ++ more) := by
  refine mergeSort_eq_of_filter fun issue => ?_
  rw [List.filter_append, List.filter_append, ← (stablySorted_sort issues).stable issue, h,
    (stablySorted_sort issues').stable issue]

end Issue

/-- Sorting a collection puts it in order and keeps issues at the same position in sequence. -/
theorem IssueCollection.stablySorted_sort (collection : IssueCollection) :
    StablySorted Issue.compare collection.toList collection.sort.toList :=
  Issue.stablySorted_sort collection.toList

end ReturnPaths
