import ReturnPaths.Proofs.FileTree.Location
import Mathlib.Data.List.TakeWhile

/-!
# Where paths start

A path consists of a front, which ends in the root, a leading `.` or a `..`, and of the names on the
way down from there.  Going down by names never leads to the same position in two ways, so paths
with the same front that lead to the same position are the same path.

* `Path.front` : the front of a path; it is the same for all paths below a directory.
* `FileTree.same_of_position` : paths with the same front.
-/

namespace ReturnPaths

/-- The component is a name. -/
def Component.isName : Component → Bool
  | name _ => true
  | _ => false

namespace Path

/-- The components of a path up to the last one that is no name. -/
def front (path : Path) : List Component :=
  (path.components.reverse.dropWhile Component.isName).reverse

variable {path : Path}

theorem exists_map_name {components : List Component}
    (h : ∀ component ∈ components, component.isName = true) :
    ∃ names : List String, components = names.map Component.name := by
  induction components with
  | nil => exact ⟨[], rfl⟩
  | cons component components ih =>
    obtain ⟨hfirst, hrest⟩ := List.forall_mem_cons.1 h
    obtain ⟨names, rfl⟩ := ih hrest
    cases component with
    | name text => exact ⟨text :: names, rfl⟩
    | _ => cases hfirst

/-- What follows the front are names. -/
theorem exists_components_eq (path : Path) :
    ∃ names : List String, path.components = path.front ++ names.map Component.name := by
  have hnames : ∀ component ∈ (path.components.reverse.takeWhile Component.isName).reverse,
      component.isName = true := fun _ h => List.mem_takeWhile_imp (List.mem_reverse.1 h)
  obtain ⟨names, hnames⟩ := exists_map_name hnames
  refine ⟨names, ?_⟩
  rw [front, ← hnames, ← List.reverse_append, List.takeWhile_append_dropWhile,
    List.reverse_reverse]

theorem front_eq_of_components {names : List String} {other : Path}
    (h : other.components = path.components ++ names.map Component.name) :
    other.front = path.front := by
  have hnames : ∀ component ∈ (names.map Component.name).reverse, component.isName = true := by
    intro component hcomponent
    obtain ⟨name, -, rfl⟩ := List.mem_map.1 (List.mem_reverse.1 hcomponent)
    rfl
  rw [front, h, List.reverse_append, List.dropWhile_append_of_pos hnames, front]

/-! ### Joined paths -/

/-- What leads a text can be told from what stands before a slash. -/
theorem leading_split_slash {chars : List Char} (rest : List Char) (hchars : chars ≠ []) :
    leading (split (chars ++ '/' :: rest)).1 = leading (split chars).1 := by
  obtain ⟨c, cs, rfl⟩ := List.exists_cons_of_ne_nil hchars
  by_cases hslash : c = '/'
  · subst hslash
    rfl
  by_cases hdot : c = '.'
  · subst hdot
    rcases cs with _ | ⟨d, ds⟩
    · rfl
    · by_cases hslash : d = '/'
      · subst hslash
        rfl
      · simp [split, hslash]
  · simp [split, hslash, hdot]

theorem components_join {a b : Path} (hb : b.isAbsolute = false) (ha : a.text ≠ "") :
    (a.join b).components = a.components ++ b.steps := by
  have hne : a.text.toList ≠ [] := mt String.toList_eq_nil_iff.1 ha
  have hleading : leading (split (a.join b).text.toList).1 =
      leading (split a.text.toList).1 := by
    rcases join_text hb ha with ⟨front, hfront, hjoin⟩ | hjoin
    · rw [hjoin, hfront]
      by_cases hnil : front = []
      · subst hnil
        rfl
      · rw [leading_split_slash _ hnil, leading_split_slash _ hnil]
    · rw [hjoin, leading_split_slash _ hne]
  rw [components_eq, components_eq, hleading, steps_join hb ha, List.append_assoc]

theorem front_join {names : List String} (hpath : path.text ≠ "") (hne : names ≠ [])
    (hnames : ∀ name ∈ names, EntryName name) :
    (path.join (ofNames names)).front = path.front := by
  have hjoin : (path.join (ofNames names)).components =
      path.components ++ names.map Component.name := by
    rw [components_join (EntryName.isAbsolute_ofNames hnames) hpath,
      EntryName.steps_ofNames hne hnames]
  exact front_eq_of_components hjoin

end Path

/-- Paths with the same front that lead to the same position are the same path. -/
theorem FileTree.same_of_position (files : FileTree) {a b : Path} (hfront : a.front = b.front)
    (hposition : files.position a = files.position b) : a.same b = true := by
  obtain ⟨names, ha⟩ := a.exists_components_eq
  obtain ⟨names', hb⟩ := b.exists_components_eq
  rw [position, position, ha, hb, hfront, List.foldl_append, List.foldl_append,
    foldl_goFrom_names, foldl_goFrom_names] at hposition
  rw [Path.same, beq_iff_eq, ha, hb, hfront, List.append_cancel_left hposition]

end ReturnPaths
