import ReturnPaths.Proofs.Issue.Order
import Mathlib.Algebra.GroupWithZero.Nat
import Mathlib.Data.List.Perm.Basic
import Mathlib.Data.String.Basic

/-!
# Issues by their files

Grouping puts every issue in one group, that of the text of its file.

* `Issue.pairwise_fileTexts`, `Issue.mem_fileTexts` : each text of a file is there once, in order.
* `Issue.stablySorted_sortPositions` : the issues of a group are in the order of their positions.
* `Issue.flatMap_groupByFile_perm` : the groups have the issues that there are, each as often.
* `Issue.sum_countSeverity` : so they have as many of a severity.
-/

namespace ReturnPaths

section Lists

variable {α β : Type}

theorem nodup_eraseDups [BEq α] [LawfulBEq α] : (list : List α) → list.eraseDups.Nodup
  | [] => List.nodup_nil
  | a :: list => by
    rw [List.eraseDups_cons, List.nodup_cons]
    exact ⟨by simp [List.mem_eraseDups], nodup_eraseDups _⟩
termination_by list => list.length
decreasing_by exact Nat.lt_succ_of_le (List.length_filter_le _ _)

/-- Taking the members of a list key by key takes them all, if each has one of the keys. -/
theorem flatMap_filter_perm [DecidableEq β] (key : α → β) {keys : List β} (hkeys : keys.Nodup)
    {list : List α} (hlist : ∀ a ∈ list, key a ∈ keys) :
    (keys.flatMap fun k => list.filter fun a => key a = k).Perm list := by
  induction keys generalizing list with
  | nil =>
    rw [List.eq_nil_iff_forall_not_mem.2 fun a ha => List.not_mem_nil (hlist a ha)]
    exact .nil
  | cons k keys ih =>
    rw [List.nodup_cons] at hkeys
    -- the members with the first key are taken first, and the others key by key
    have hothers : ∀ a ∈ list.filter (fun a => !decide (key a = k)), key a ∈ keys := by
      intro a ha
      rw [List.mem_filter] at ha
      exact (List.mem_cons.1 (hlist a ha.1)).resolve_left (by simpa using ha.2)
    have hfilter : ∀ k' ∈ keys, (list.filter fun a => key a = k') =
        (list.filter fun a => !decide (key a = k)).filter (fun a => key a = k') := by
      intro k' hk'
      have hne : k' ≠ k := fun h => hkeys.1 (h ▸ hk')
      rw [List.filter_filter]
      refine List.filter_congr fun a _ => ?_
      by_cases heq : key a = k' <;> simp [heq, hne]
    rw [List.flatMap_cons, List.flatMap_congr hfilter]
    exact ((ih hkeys.2 hothers).append_left _).trans
      (List.filter_append_perm (fun a => decide (key a = k)) list)

end Lists

namespace Issue

theorem comparePosition_eq : comparePosition =
    compareLex (compareOn Issue.line) (compareOn Issue.column) := rfl

instance : Std.TransCmp comparePosition := comparePosition_eq ▸ inferInstance

/-- The issues of a file are put in the order of their positions. -/
theorem stablySorted_sortPositions (issues : List Issue) :
    StablySorted comparePosition issues (sortPositions issues) :=
  stablySorted_mergeSort issues

variable {issues : List Issue}

theorem mem_fileTexts {text : String} :
    text ∈ fileTexts issues ↔ ∃ issue ∈ issues, issue.file.text = text := by
  rw [fileTexts, List.mem_mergeSort, List.mem_eraseDups, List.mem_map]

theorem nodup_fileTexts (issues : List Issue) : (fileTexts issues).Nodup :=
  (List.mergeSort_perm _ _).nodup_iff.2 (nodup_eraseDups _)

/-- The texts of the files are in order, and none is there twice. -/
theorem pairwise_fileTexts (issues : List Issue) : (fileTexts issues).Pairwise (· < ·) := by
  have hordered : (fileTexts issues).Pairwise fun a b => (!decide (b < a)) = true := by
    refine List.pairwise_mergeSort ?_ ?_ _
    · intro a b c hab hbc
      simp only [Bool.not_eq_true', decide_eq_false_iff_not, not_lt] at hab hbc ⊢
      exact hab.trans hbc
    · intro a b
      simp only [Bool.or_eq_true, Bool.not_eq_true', decide_eq_false_iff_not, not_lt]
      exact le_total a b
  refine (hordered.and (nodup_fileTexts issues)).imp fun h => ?_
  simp only [Bool.not_eq_true', decide_eq_false_iff_not, not_lt] at h
  exact lt_of_le_of_ne h.1 h.2

theorem sortPositions_perm (issues : List Issue) : (sortPositions issues).Perm issues :=
  List.mergeSort_perm _ _

theorem countSeverity_sortPositions (severity : Severity) (issues : List Issue) :
    countSeverity severity (sortPositions issues) = countSeverity severity issues :=
  (sortPositions_perm issues).countP_eq _

/-- Every issue is in the group of its file. -/
theorem flatMap_groupByFile_perm (issues : List Issue) :
    ((groupByFile issues).flatMap fun group => group.2).Perm issues := by
  have hkeys : ∀ issue ∈ issues, issue.file.text ∈ fileTexts issues :=
    fun issue hissue => mem_fileTexts.2 ⟨issue, hissue, rfl⟩
  rw [groupByFile, List.flatMap_map]
  exact (List.Perm.flatMap_left _ fun text _ => sortPositions_perm _).trans
    (flatMap_filter_perm (fun issue : Issue => issue.file.text) (nodup_fileTexts issues) hkeys)

/-- Every issue is counted with its file. -/
theorem sum_countSeverity (severity : Severity) (issues : List Issue) :
    ((groupByFile issues).map fun group => countSeverity severity group.2).sum =
      countSeverity severity issues :=
  calc ((groupByFile issues).map fun group => countSeverity severity group.2).sum
      = countSeverity severity ((groupByFile issues).flatMap fun group => group.2) :=
        List.countP_flatMap.symm
    _ = countSeverity severity issues := (flatMap_groupByFile_perm issues).countP_eq _

end Issue

end ReturnPaths
