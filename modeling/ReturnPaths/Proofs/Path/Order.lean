import ReturnPaths.Path.Basic
import ReturnPaths.Proofs.StableSort
import Mathlib.Data.String.Basic

/-!
# The order of paths

Paths are ordered by their components, and two texts are the same path if their components are the
same.  The order is that of lists over the order of components, which compares a rank and then a
name; so it is a total preorder, and paths that compare equal are the same path.

* `Path.Before` : the order, from the components of two paths.
* `Path.Increasing` : a list of paths in strictly increasing order.
* `Path.Increasing.forall₂_same` : such a list is determined, up to spelling, by the paths it
  contains.
-/

namespace ReturnPaths

namespace Component

theorem eq_of_rank_of_key {a b : Component} (hrank : a.rank = b.rank) (hkey : a.key = b.key) :
    a = b := by
  cases a <;> cases b <;> simp_all [rank, key]

/-- The order of components: first the rank, then the name. -/
theorem compare_eq :
    Component.compare = compareLex (compareOn Component.rank) (compareOn Component.key) := by
  funext a b
  simp only [Component.compare, compareLex, compareOn]
  rcases lt_trichotomy a.rank b.rank with hrank | hrank | hrank
  · rw [compare_lt_iff_lt.2 hrank]
    simp [hrank]
  · rw [compare_eq_iff_eq.2 hrank, Ordering.eq_then]
    rcases lt_trichotomy a.key b.key with hkey | hkey | hkey
    · rw [compare_lt_iff_lt.2 hkey]
      simp [hrank, hkey]
    · rw [compare_eq_iff_eq.2 hkey]
      simp [eq_of_rank_of_key hrank hkey]
    · have hne : a ≠ b := fun h => lt_irrefl _ (h ▸ hkey)
      rw [compare_gt_iff_gt.2 hkey]
      simp [hrank, hkey.not_gt, hne]
  · have hne : a ≠ b := fun h => lt_irrefl _ (h ▸ hrank)
    rw [compare_gt_iff_gt.2 hrank]
    simp [hrank.not_gt, hrank.ne', hne]

instance : Std.TransCmp Component.compare := compare_eq ▸ inferInstance

instance : Std.LawfulEqCmp Component.compare where
  eq_of_compare {a b} h := by
    rw [compare_eq, compareLex_eq_eq] at h
    exact eq_of_rank_of_key (compare_eq_iff_eq.1 h.1) (compare_eq_iff_eq.1 h.2)

/-- One component comes before another: the root before a leading `.`, both before `..`, all of them
before names, and names in the order of their characters. -/
inductive Before : Component → Component → Prop where
  /-- The components are of different kinds. -/
  | rank {a b : Component} (h : a.rank < b.rank) : Before a b
  /-- Both components are names. -/
  | name {s t : String} (h : s < t) : Before (.name s) (.name t)

theorem compare_eq_lt_iff {a b : Component} : a.compare b = .lt ↔ a.Before b := by
  rw [compare_eq, compareLex, Ordering.then_eq_lt, compareOn, compareOn, compare_lt_iff_lt,
    compare_eq_iff_eq, compare_lt_iff_lt]
  constructor
  · rintro (hrank | ⟨hrank, hkey⟩)
    · exact .rank hrank
    · -- only names have keys that differ
      cases a <;> cases b <;> simp [rank, key, -String.lt_iff_ltb] at hrank hkey
      exact .name hkey
  · rintro (hrank | hname)
    · exact .inl hrank
    · exact .inr ⟨rfl, hname⟩

end Component

namespace Path

theorem compareComponents_eq : compareComponents = List.compareLex Component.compare := by
  funext as bs
  induction as generalizing bs with
  | nil => cases bs <;> rfl
  | cons a as ih =>
    cases bs with
    | nil => rfl
    | cons b bs => rw [compareComponents, List.compareLex_cons_cons, ih]

instance : Std.TransCmp compareComponents := compareComponents_eq ▸ inferInstance

instance : Std.LawfulEqCmp compareComponents := compareComponents_eq ▸ inferInstance

instance : Std.TransCmp Path.compare where
  eq_swap {a b} := Std.OrientedCmp.eq_swap (a := a.components) (b := b.components)
  isLE_trans {_ b _} h h' := Std.TransCmp.isLE_trans (b := b.components) h h'

variable {a b c : Path}

theorem compare_eq_eq : a.compare b = .eq ↔ a.components = b.components := by
  rw [compare]
  exact Std.LawfulEqCmp.compare_eq_iff_eq

theorem same_iff : a.same b = true ↔ a.components = b.components := beq_iff_eq

/-- One path comes before another: where their components differ for the first time, its component
comes before, or it has no more components. -/
def Before (a b : Path) : Prop := List.Lex Component.Before a.components b.components

theorem compareComponents_eq_lt_iff {as bs : List Component} :
    compareComponents as bs = .lt ↔ List.Lex Component.Before as bs := by
  induction as generalizing bs with
  | nil =>
    cases bs with
    | nil => exact ⟨nofun, nofun⟩
    | cons b bs => exact ⟨fun _ => .nil, fun _ => rfl⟩
  | cons a as ih =>
    cases bs with
    | nil => exact ⟨nofun, nofun⟩
    | cons b bs =>
      rw [compareComponents, Ordering.then_eq_lt, Component.compare_eq_lt_iff,
        Std.LawfulEqCmp.compare_eq_iff_eq, ih, List.cons_lex_cons_iff]

theorem compare_eq_lt_iff : a.compare b = .lt ↔ a.Before b := compareComponents_eq_lt_iff

theorem same_self (a : Path) : a.same a = true := same_iff.2 rfl

theorem same_symm (h : a.same b = true) : b.same a = true := same_iff.2 (same_iff.1 h).symm

theorem same_trans (h : a.same b = true) (h' : b.same c = true) : a.same c = true :=
  same_iff.2 ((same_iff.1 h).trans (same_iff.1 h'))

/-! ### Increasing lists -/

/-- The paths are in strictly increasing order, so no two of them are the same. -/
def Increasing (paths : List Path) : Prop := paths.Pairwise fun a b => a.compare b = .lt

theorem Increasing.head_lt {paths : List Path} (h : Increasing (a :: paths)) :
    ∀ b ∈ paths, a.compare b = .lt := fun _ hb => List.rel_of_pairwise_cons h hb

theorem not_same_of_lt (h : a.compare b = .lt) : a.same b = false := by
  rw [Bool.eq_false_iff]
  intro hsame
  rw [compare_eq_eq.2 (same_iff.1 hsame)] at h
  cases h

theorem lt_of_lt_of_same (h : a.compare b = .lt) (h' : b.same c = true) : a.compare c = .lt := by
  rwa [compare, ← same_iff.1 h']

theorem lt_of_same_of_lt (h : a.same b = true) (h' : b.compare c = .lt) : a.compare c = .lt := by
  rwa [compare, same_iff.1 h]

theorem lt_of_le_of_not_same (h : a.le b = true) (h' : a.same b = false) : a.compare b = .lt := by
  rw [le] at h
  cases hab : a.compare b with
  | lt => rfl
  | eq => rw [same_iff.2 (compare_eq_eq.1 hab)] at h'; cases h'
  | gt => rw [hab] at h; cases h

/-- The smallest path of an increasing list is below all paths of a list that contains the same
paths, up to the smallest path of that list. -/
theorem Increasing.head_same {as bs : List Path} (has : Increasing (a :: as))
    (hbs : Increasing (b :: bs)) (ha : ∃ b' ∈ b :: bs, b'.same a = true)
    (hb : ∃ a' ∈ a :: as, a'.same b = true) : a.same b = true := by
  obtain ⟨b', hb', hba⟩ := ha
  obtain ⟨a', ha', hab⟩ := hb
  rcases List.mem_cons.1 hb' with rfl | hb'
  · exact same_symm hba
  · rcases List.mem_cons.1 ha' with rfl | ha'
    · exact hab
    · have hlt : b.compare a = .lt := lt_of_lt_of_same (hbs.head_lt _ hb') hba
      have hgt : a.compare b = .lt := lt_of_lt_of_same (has.head_lt _ ha') hab
      exact absurd hgt (Std.OrientedCmp.not_lt_of_lt hlt)

theorem Increasing.tail_subset {as bs : List Path} (has : Increasing (a :: as))
    (hab : a.same b = true)
    (h : ∀ x, (∃ a' ∈ a :: as, a'.same x = true) → ∃ b' ∈ b :: bs, b'.same x = true) (x : Path)
    (hx : ∃ a' ∈ as, a'.same x = true) : ∃ b' ∈ bs, b'.same x = true := by
  obtain ⟨a', ha', hax⟩ := hx
  obtain ⟨b', hb', hbx⟩ := h x ⟨a', List.mem_cons_of_mem _ ha', hax⟩
  rcases List.mem_cons.1 hb' with rfl | hb'
  · -- `x` would be the head of both lists, but it comes after the head of the first
    have hsame : a.same a' = true := same_trans hab (same_trans hbx (same_symm hax))
    rw [not_same_of_lt (has.head_lt _ ha')] at hsame
    cases hsame
  · exact ⟨b', hb', hbx⟩

/-- In increasing lists with the same paths, the same paths stand at the same places. -/
theorem Increasing.forall₂_same {as bs : List Path} (has : Increasing as) (hbs : Increasing bs)
    (h : ∀ x, (∃ a ∈ as, a.same x = true) ↔ ∃ b ∈ bs, b.same x = true) :
    List.Forall₂ (fun a b => a.same b = true) as bs := by
  induction as generalizing bs with
  | nil =>
    cases bs with
    | nil => exact .nil
    | cons b bs =>
      obtain ⟨_, hmem, -⟩ := (h b).2 ⟨b, List.mem_cons_self, same_self b⟩
      cases hmem
  | cons a as ih =>
    cases bs with
    | nil =>
      obtain ⟨_, hmem, -⟩ := (h a).1 ⟨a, List.mem_cons_self, same_self a⟩
      cases hmem
    | cons b bs =>
      have hab : a.same b = true := has.head_same hbs
        ((h a).1 ⟨a, List.mem_cons_self, same_self a⟩)
        ((h b).2 ⟨b, List.mem_cons_self, same_self b⟩)
      refine .cons hab (ih has.of_cons hbs.of_cons fun x => ⟨?_, ?_⟩)
      · exact has.tail_subset hab (fun x => (h x).1) x
      · exact hbs.tail_subset (same_symm hab) (fun x => (h x).2) x

end Path

end ReturnPaths
