import ReturnPaths.Proofs.Issue.Order

/-!
# Collections over time

A collection is put together by adding issues, one or several at a time, and may be sorted at any
time.  Sorting in between can be seen in the sequence of the issues, but not after the last sort:
issues at the same place are kept in the sequence in which they came in, whenever they are sorted.

* `IssueCollection.Operation` : what can be done to a collection.
* `IssueCollection.sort_performAll` : sorting at the end makes up for all sorting in between.
* `IssueCollection.performAll_exact` : what a collection contains after any operations.
-/

namespace ReturnPaths

theorem Issue.countSeverity_add (issues : List Issue) :
    countSeverity .error issues + countSeverity .warning issues = issues.length := by
  rw [List.length_eq_countP_add_countP fun issue : Issue => issue.severity = .error]
  refine congrArg _ (List.countP_congr fun issue _ => ?_)
  cases issue.severity <;> simp

namespace IssueCollection

/-- What can be done to a collection. -/
inductive Operation where
  /-- Put in an issue. -/
  | add (issue : Issue)
  /-- Put in several issues. -/
  | extend (issues : List Issue)
  /-- Put the issues in order. -/
  | sort
  deriving DecidableEq, Repr

/-- The issues that an operation puts in. -/
def Operation.issues : Operation → List Issue
  | add issue => [issue]
  | extend issues => issues
  | sort => []

/-- The collection after an operation. -/
def perform (collection : IssueCollection) : Operation → IssueCollection
  | .add issue => collection.add issue
  | .extend issues => collection.extend issues
  | .sort => collection.sort

/-- The collection after several operations, one after the other. -/
def performAll (collection : IssueCollection) (operations : List Operation) : IssueCollection :=
  operations.foldl perform collection

/-- The issues that several operations put in. -/
def putIn (operations : List Operation) : List Issue :=
  operations.flatMap Operation.issues

variable {collection collection' : IssueCollection}

theorem sort_sort (collection : IssueCollection) : collection.sort.sort = collection.sort :=
  congrArg mk (Issue.sort_sort collection.toList)

theorem extend_extend (collection : IssueCollection) (issues more : List Issue) :
    (collection.extend issues).extend more = collection.extend (issues ++ more) :=
  congrArg mk (List.append_assoc collection.toList issues more)

theorem sort_extend_of_sort_eq (h : collection.sort = collection'.sort) (more : List Issue) :
    (collection.extend more).sort = (collection'.extend more).sort :=
  congrArg mk (Issue.sort_append_of_sort_eq (congrArg toList h) more)

/-- An operation puts its issues at the end, up to sorting. -/
theorem sort_perform (collection : IssueCollection) (operation : Operation) :
    (collection.perform operation).sort = (collection.extend operation.issues).sort := by
  cases operation with
  | add issue => rfl
  | extend issues => rfl
  | sort => rw [perform, sort_sort, Operation.issues, extend, List.append_nil]

theorem sort_performAll (collection : IssueCollection) (operations : List Operation) :
    (collection.performAll operations).sort = (collection.extend (putIn operations)).sort := by
  induction operations generalizing collection with
  | nil => rw [performAll, List.foldl_nil, putIn, List.flatMap_nil, extend, List.append_nil]
  | cons operation operations ih =>
    calc (collection.performAll (operation :: operations)).sort
        = ((collection.perform operation).extend (putIn operations)).sort := ih _
      _ = ((collection.extend operation.issues).extend (putIn operations)).sort :=
          sort_extend_of_sort_eq (sort_perform collection operation) _
      _ = (collection.extend (putIn (operation :: operations))).sort := by
          rw [extend_extend, putIn, putIn, List.flatMap_cons]

/-- **A collection after any operations.**  It contains the issues it started with and those that
were put in, each as often as before, and they are counted as errors or as warnings.  When it is
sorted, they are in order, and those at the same place are in the sequence in which they were;
sorting again changes nothing, and neither has any sorting before: the same collection comes from
putting in all issues and sorting once. -/
theorem performAll_exact (collection : IssueCollection) (operations : List Operation) :
    let last := collection.performAll operations
    last.toList.Perm (collection.toList ++ putIn operations) ∧
      last.size = collection.size + (putIn operations).length ∧
      last.errorCount + last.warningCount = last.size ∧
      last.sort.toList.Pairwise Issue.NotAfter ∧
      (∀ issue : Issue, last.sort.toList.filter (fun other => issue.SamePlace other) =
        last.toList.filter (fun other => issue.SamePlace other)) ∧
      last.sort.sort = last.sort ∧
      last.sort = (collection.extend (putIn operations)).sort ∧
      ∀ more : List Issue, (last.sort.extend more).sort = (last.extend more).sort := by
  intro last
  have hsort : last.sort = (collection.extend (putIn operations)).sort :=
    sort_performAll collection operations
  have hperm : last.toList.Perm (collection.toList ++ putIn operations) :=
    Issue.perm_of_sort_eq (congrArg toList hsort)
  refine ⟨hperm, ?_, Issue.countSeverity_add last.toList, Issue.pairwise_sort last.toList,
    fun issue => Issue.filter_samePlace_sort issue last.toList, sort_sort last, hsort,
    sort_extend_of_sort_eq (sort_sort last)⟩
  rw [size, hperm.length_eq, List.length_append, size]

end IssueCollection

end ReturnPaths
