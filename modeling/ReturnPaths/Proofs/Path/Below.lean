import ReturnPaths.Proofs.Path.Front
import ReturnPaths.Proofs.Path.Order

/-!
# Paths below a directory

Seen from a directory, a path is a sequence of names.  Joined to the path of the directory, such
paths keep their order, whatever the path of the directory is.

* `Path.Relative` : the path names entries on the way down.
* `Path.Relative.compare_join` : the order of two relative paths below a directory.
-/

namespace ReturnPaths

namespace Path

theorem compareComponents_append (front as bs : List Component) :
    compareComponents (front ++ as) (front ++ bs) = compareComponents as bs := by
  induction front with
  | nil => rfl
  | cons component front ih =>
    have hself : component.compare component = .eq := Std.ReflCmp.compare_self
    rw [List.cons_append, List.cons_append, compareComponents, hself, Ordering.eq_then, ih]

theorem Increasing.eq_of_mem_iff {as bs : List Path} (has : Increasing as) (hbs : Increasing bs)
    (h : ∀ path, path ∈ as ↔ path ∈ bs) : as = bs := by
  have hirrefl : Std.Irrefl fun a b : Path => a.compare b = .lt := by
    refine ⟨fun a hlt => ?_⟩
    have hself : a.compare a = .eq := Std.ReflCmp.compare_self
    rw [hself] at hlt
    cases hlt
  have hantisymm : Std.Antisymm fun a b : Path => a.compare b = .lt :=
    ⟨fun a b hab hba => absurd hba (Std.OrientedCmp.not_lt_of_lt hab)⟩
  exact List.Pairwise.eq_of_mem_iff has hbs h

/-- The path names the entries on the way down from a directory to something below it. -/
def Relative (path : Path) : Prop :=
  ∃ names, names ≠ [] ∧ (∀ name ∈ names, EntryName name) ∧ path = ofNames names

/-- Nothing leads the names: a path that starts with one starts with neither a slash nor a dot that
stands alone. -/
theorem leading_ofNames {names : List String} (hne : names ≠ [])
    (hnames : ∀ name ∈ names, EntryName name) :
    leading (split (ofNames names).text.toList).1 = [] := by
  have hpieces : pieces (ofNames names).text.toList = names.map String.toList :=
    pieces_ofNames hne fun name hname => (hnames name hname).no_slash
  obtain ⟨name, rest, rfl⟩ := List.exists_cons_of_ne_nil hne
  obtain ⟨hnil, hdot, -⟩ := (hnames name List.mem_cons_self).toList_ne
  generalize (ofNames (name :: rest)).text.toList = chars at hpieces
  unfold split
  split
  · simp [pieces, Ne.symm hnil] at hpieces
  · simp [pieces, Ne.symm hdot] at hpieces
  · simp [pieces, Ne.symm hdot] at hpieces
  · rfl

namespace Relative

variable {root a b : Path}

theorem components_join (ha : a.Relative) (hroot : root.text ≠ "") :
    (root.join a).components = root.components ++ a.components := by
  obtain ⟨names, hne, hnames, rfl⟩ := ha
  rw [Path.components_join (EntryName.isAbsolute_ofNames hnames) hroot,
    components_eq (ofNames names), leading_ofNames hne hnames, List.nil_append]

theorem compare_join (ha : a.Relative) (hb : b.Relative) (hroot : root.text ≠ "") :
    (root.join a).compare (root.join b) = a.compare b := by
  rw [Path.compare, ha.components_join hroot, hb.components_join hroot, compareComponents_append,
    Path.compare]

/-- A relative path has one spelling. -/
theorem eq_of_same (ha : a.Relative) (hb : b.Relative) (h : a.same b = true) : a = b := by
  obtain ⟨names, hne, hnames, rfl⟩ := ha
  obtain ⟨names', hne', hnames', rfl⟩ := hb
  rw [same_iff, components_eq, components_eq, leading_ofNames hne hnames,
    leading_ofNames hne' hnames', EntryName.steps_ofNames hne hnames,
    EntryName.steps_ofNames hne' hnames'] at h
  have hinjective : Function.Injective Component.name := fun _ _ heq => Component.name.inj heq
  rw [hinjective.list_map h]

theorem eq_of_same_join (ha : a.Relative) (hb : b.Relative) (hroot : root.text ≠ "")
    (h : (root.join a).same (root.join b) = true) : a = b := by
  rw [same_iff, ha.components_join hroot, hb.components_join hroot] at h
  exact ha.eq_of_same hb (same_iff.2 (List.append_cancel_left h))

end Relative

theorem Increasing.map_join {root : Path} {paths : List Path} (h : Increasing paths)
    (hpaths : ∀ path ∈ paths, path.Relative) (hroot : root.text ≠ "") :
    Increasing (paths.map root.join) := by
  refine List.pairwise_map.2 (h.imp_of_mem fun {a b} ha hb hlt => ?_)
  rw [(hpaths a ha).compare_join (hpaths b hb) hroot, hlt]

end Path

end ReturnPaths
