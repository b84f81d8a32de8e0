import Mathlib.Data.List.Pairwise
import Mathlib.Data.List.Sort
import Mathlib.Order.Compare

/-!
# Stable sorts

A list is the stable sort of another one if it is in order and if, of the members that compare
equal to any given one, it has the same ones in the same sequence.  There is at most one such list
(`StablySorted.unique`), and merge sort gives it (`stablySorted_mergeSort`).

Where members that compare equal may still differ, neither the order nor the content alone
determines the list.  Where no two members compare equal, the content does
(`mergeSort_eq_of_perm`).
-/

namespace ReturnPaths

variable {α : Type} {cmp : α → α → Ordering}

/-- `sorted` is the stable sort of `list` in the order of `cmp`. -/
structure StablySorted (cmp : α → α → Ordering) (list sorted : List α) : Prop where
  /-- The members are in order. -/
  ordered : sorted.Pairwise fun a b => (cmp a b).isLE = true
  /-- Members that compare equal are the same as before, and in the same sequence. -/
  stable : ∀ a, sorted.filter (fun b => cmp a b = .eq) = list.filter (fun b => cmp a b = .eq)

variable [Std.TransCmp cmp]

theorem isLE_self (a : α) : (cmp a a).isLE = true := by
  have heq : cmp a a = .eq := Std.ReflCmp.compare_self
  rw [heq]; rfl

theorem isLE_total (a b : α) : ((cmp a b).isLE || (cmp b a).isLE) = true := by
  have hswap : cmp b a = (cmp a b).swap := Std.OrientedCmp.eq_swap
  rw [hswap]
  cases cmp a b <;> rfl

theorem pairwise_filter_eq (a : α) (list : List α) :
    (list.filter fun b => cmp a b = .eq).Pairwise fun b c => (cmp b c).isLE = true := by
  refine List.pairwise_of_forall_mem_list fun b hb c hc => ?_
  simp only [List.mem_filter, decide_eq_true_eq] at hb hc
  have hbc : cmp b c = .eq := Std.TransCmp.eq_trans (Std.OrientedCmp.eq_symm hb.2) hc.2
  rw [hbc]; rfl

/-- Merge sort keeps members in sequence that are in order already. -/
theorem filter_mergeSort {list : List α} {p : α → Bool}
    (h : (list.filter p).Pairwise fun a b => (cmp a b).isLE = true) :
    (list.mergeSort fun a b => (cmp a b).isLE).filter p = list.filter p := by
  have hsub : (list.filter p).Sublist (list.mergeSort fun a b => (cmp a b).isLE) :=
    List.sublist_mergeSort (fun _ _ _ => Std.TransCmp.isLE_trans) isLE_total h List.filter_sublist
  have hsub' := hsub.filter p
  simp only [List.filter_filter, Bool.and_self] at hsub'
  have hperm := (List.mergeSort_perm list fun a b => (cmp a b).isLE).filter p
  exact (hsub'.eq_of_length hperm.length_eq.symm).symm

theorem stablySorted_mergeSort (list : List α) :
    StablySorted cmp list (list.mergeSort fun a b => (cmp a b).isLE) where
  ordered := List.pairwise_mergeSort (fun _ _ _ => Std.TransCmp.isLE_trans) isLE_total list
  stable a := filter_mergeSort (pairwise_filter_eq a list)

namespace StablySorted

variable {list sorted sorted' : List α}

theorem mem_iff (h : StablySorted cmp list sorted) {a : α} : a ∈ sorted ↔ a ∈ list := by
  have hiff : a ∈ sorted.filter (fun b => cmp a b = .eq) ↔
      a ∈ list.filter (fun b => cmp a b = .eq) := by rw [h.stable a]
  simpa only [List.mem_filter, Std.ReflCmp.compare_self, decide_true, and_true] using hiff

/-- There is only one stable sort of a list. -/
theorem unique (h : StablySorted cmp list sorted) (h' : StablySorted cmp list sorted') :
    sorted = sorted' := by
  induction sorted generalizing list sorted' with
  | nil =>
    refine (List.eq_nil_iff_forall_not_mem.2 fun a ha => ?_).symm
    exact List.not_mem_nil (h.mem_iff.2 (h'.mem_iff.1 ha))
  | cons a rest ih =>
    obtain _ | ⟨b, rest'⟩ := sorted'
    · exact absurd (h'.mem_iff.2 (h.mem_iff.1 List.mem_cons_self)) List.not_mem_nil
    · have hab : (cmp a b).isLE = true := by
        rcases List.mem_cons.1 (h.mem_iff.2 (h'.mem_iff.1 List.mem_cons_self)) with hb | hb
        · rw [hb]; exact isLE_self a
        · exact List.rel_of_pairwise_cons h.ordered hb
      have hba : (cmp b a).isLE = true := by
        rcases List.mem_cons.1 (h'.mem_iff.2 (h.mem_iff.1 List.mem_cons_self)) with ha | ha
        · rw [ha]; exact isLE_self b
        · exact List.rel_of_pairwise_cons h'.ordered ha
      have heq : cmp a b = .eq := Std.OrientedCmp.isLE_antisymm hab hba
      have hclass := (h.stable a).trans (h'.stable a).symm
      simp only [List.filter_cons, Std.ReflCmp.compare_self, heq, decide_true, ↓reduceIte,
        List.cons.injEq] at hclass
      obtain ⟨rfl, -⟩ := hclass
      -- the heads are the same, so the rest is the stable sort of the rest in both lists
      refine congrArg (a :: ·) (ih ⟨h.ordered.of_cons, fun c => rfl⟩
        ⟨h'.ordered.of_cons, fun c => ?_⟩)
      have hclass := (h'.stable c).trans (h.stable c).symm
      by_cases hc : cmp c a = .eq <;> simpa [List.filter_cons, hc] using hclass

end StablySorted

/-- The sort of a list can be told from the members that compare equal to each one. -/
theorem mergeSort_eq_of_filter {list list' : List α}
    (h : ∀ a, list'.filter (fun b => cmp a b = .eq) = list.filter (fun b => cmp a b = .eq)) :
    (list'.mergeSort fun a b => (cmp a b).isLE) = list.mergeSort fun a b => (cmp a b).isLE := by
  have hsorted' : StablySorted cmp list' (list'.mergeSort fun a b => (cmp a b).isLE) :=
    stablySorted_mergeSort list'
  have hsorted : StablySorted cmp list (list'.mergeSort fun a b => (cmp a b).isLE) :=
    ⟨hsorted'.ordered, fun a => (hsorted'.stable a).trans (h a)⟩
  exact hsorted.unique (stablySorted_mergeSort list)

/-- Where no two members compare equal, at most one compares equal to any given one. -/
theorem filter_eq_of_perm {list list' : List α} (hperm : list'.Perm list)
    (hdistinct : list.Pairwise fun a b => cmp a b ≠ .eq) (a : α) :
    list'.filter (fun b => cmp a b = .eq) = list.filter (fun b => cmp a b = .eq) := by
  have hnone (b c : α) (hb : cmp a b = .eq) (hc : cmp a c = .eq) : cmp b c = .eq :=
    Std.TransCmp.eq_trans (Std.OrientedCmp.eq_symm hb) hc
  have hpairs {l : List α} (h : l.Pairwise fun a b => cmp a b ≠ .eq) :
      (l.filter fun b => cmp a b = .eq).Pairwise fun _ _ => False := by
    refine (h.filter _).imp_of_mem fun {b c} hb hc hne => hne (hnone b c ?_ ?_)
    · simpa using (List.mem_filter.1 hb).2
    · simpa using (List.mem_filter.1 hc).2
  have hsymm : Std.Symm fun a b => cmp a b ≠ .eq :=
    ⟨fun a b hne heq => hne (Std.OrientedCmp.eq_symm heq)⟩
  exact (hperm.filter _).eq_of_pairwise (fun _ _ _ _ hfalse => hfalse.elim)
    (hpairs (hperm.symm.pairwise hdistinct fun h => hsymm.symm _ _ h)) (hpairs hdistinct)

/-- Where no two members compare equal, their sequence is of no account. -/
theorem mergeSort_eq_of_perm {list list' : List α} (hperm : list'.Perm list)
    (hdistinct : list.Pairwise fun a b => cmp a b ≠ .eq) :
    (list'.mergeSort fun a b => (cmp a b).isLE) = list.mergeSort fun a b => (cmp a b).isLE :=
  mergeSort_eq_of_filter (filter_eq_of_perm hperm hdistinct)

end ReturnPaths
