import ReturnPaths.Path.Basic
import Mathlib.Data.List.Basic
import Mathlib.Data.Nat.Notation
import Mathlib.Data.String.Basic

/-!
# The pieces of paths

Splitting a text at its slashes undoes putting pieces together, so the pieces of a path that was
joined from two are those of the one followed by those of the other, up to blank ones.

* `Path.ofNames` : the relative path that names the entries on the way down.
* `Path.steps` : the components that the pieces of a path stand for; those of a joined path are put
  together from those of its parts (`Path.steps_join`).
* `Path.components_eq` : the components of a path are its steps after what leads it.
-/

namespace ReturnPaths

@[simp] theorem Component.ofPiece_nil : Component.ofPiece [] = none := rfl

@[simp] theorem Component.ofPiece_dot : Component.ofPiece ['.'] = none := rfl

namespace Path

/-! ### Splitting at slashes -/

theorem pieces_ne_nil (cs : List Char) : pieces cs ≠ [] := by
  induction cs with
  | nil => simp [pieces]
  | cons c cs ih =>
    rw [pieces]
    split_ifs
    · simp
    · split <;> simp

theorem pieces_cons_slash (cs : List Char) : pieces ('/' :: cs) = [] :: pieces cs := by
  simp [pieces]

theorem pieces_append_slash (as bs : List Char) :
    pieces (as ++ '/' :: bs) = pieces as ++ pieces bs := by
  induction as with
  | nil => exact pieces_cons_slash bs
  | cons c as ih =>
    rw [List.cons_append, pieces, pieces, ih]
    split_ifs
    · rfl
    · cases h : pieces as with
      | nil => exact absurd h (pieces_ne_nil as)
      | cons piece rest => rfl

theorem pieces_append_slashes (as : List Char) (n : ℕ) :
    pieces (as ++ List.replicate n '/') = pieces as ++ List.replicate n [] := by
  induction n generalizing as with
  | zero => simp
  | succ n ih =>
    have hrest : pieces (List.replicate n '/') = [] :: List.replicate n [] := ih []
    rw [List.replicate_succ, pieces_append_slash, hrest, List.replicate_succ]

theorem pieces_of_not_mem {cs : List Char} (h : '/' ∉ cs) : pieces cs = [cs] := by
  induction cs with
  | nil => rfl
  | cons c cs ih =>
    rw [List.mem_cons, not_or] at h
    rw [pieces, if_neg (Ne.symm h.1), ih h.2]

/-- A piece is made of characters of the text other than slashes. -/
theorem mem_of_mem_pieces {cs piece : List Char} (h : piece ∈ pieces cs) :
    ∀ c ∈ piece, c ∈ cs ∧ c ≠ '/' := by
  induction cs generalizing piece with
  | nil => simp_all [pieces]
  | cons first cs ih =>
    have hrest (piece : List Char) (hpiece : piece ∈ pieces cs) (c : Char) (hc : c ∈ piece) :
        c ∈ first :: cs ∧ c ≠ '/' := (ih hpiece c hc).imp_left (List.mem_cons_of_mem _)
    rw [pieces] at h
    split_ifs at h with hslash
    · rcases List.mem_cons.1 h with rfl | h
      · simp
      · exact hrest piece h
    · obtain ⟨next, rest, hpieces⟩ := List.exists_cons_of_ne_nil (pieces_ne_nil cs)
      rw [hpieces] at h hrest
      rcases List.mem_cons.1 h with rfl | h
      · exact List.forall_mem_cons.2
          ⟨⟨List.mem_cons_self, hslash⟩, hrest next List.mem_cons_self⟩
      · exact hrest piece (List.mem_cons_of_mem _ h)

theorem slash_not_mem_piece {cs piece : List Char} (h : piece ∈ pieces cs) : '/' ∉ piece :=
  fun hslash => (mem_of_mem_pieces h _ hslash).2 rfl

/-! ### Putting pieces together -/

theorem ofPieces_cons {piece : List Char} {rest : List (List Char)} (h : rest ≠ []) :
    ofPieces (piece :: rest) = piece ++ '/' :: ofPieces rest := by
  obtain ⟨next, rest, rfl⟩ := List.exists_cons_of_ne_nil h
  rfl

theorem ofPieces_append {as bs : List (List Char)} (has : as ≠ []) (hbs : bs ≠ []) :
    ofPieces (as ++ bs) = ofPieces as ++ '/' :: ofPieces bs := by
  induction as with
  | nil => exact absurd rfl has
  | cons piece as ih =>
    by_cases hnil : as = []
    · subst hnil
      exact ofPieces_cons hbs
    · rw [List.cons_append, ofPieces_cons (List.append_ne_nil_of_left_ne_nil hnil bs), ih hnil,
        ofPieces_cons hnil, List.append_assoc, List.cons_append]

/-- Putting pieces together undoes the splitting. -/
theorem ofPieces_pieces (cs : List Char) : ofPieces (pieces cs) = cs := by
  induction cs with
  | nil => rfl
  | cons c cs ih =>
    rw [pieces]
    split_ifs with hslash
    · rw [ofPieces_cons (pieces_ne_nil cs), ih, hslash]
      rfl
    · obtain ⟨piece, rest, hpieces⟩ := List.exists_cons_of_ne_nil (pieces_ne_nil cs)
      rw [hpieces] at ih ⊢
      by_cases hnil : rest = []
      · subst hnil
        exact congrArg (c :: ·) ih
      · rw [ofPieces_cons hnil] at ih
        rw [ofPieces_cons hnil, List.cons_append, ih]

/-- Splitting undoes putting pieces together. -/
theorem pieces_ofPieces {as : List (List Char)} (hne : as ≠ []) (h : ∀ piece ∈ as, '/' ∉ piece) :
    pieces (ofPieces as) = as := by
  induction as with
  | nil => exact absurd rfl hne
  | cons piece as ih =>
    obtain ⟨hpiece, has⟩ := List.forall_mem_cons.1 h
    by_cases hnil : as = []
    · subst hnil
      exact pieces_of_not_mem hpiece
    · rw [ofPieces_cons hnil, pieces_append_slash, pieces_of_not_mem hpiece, ih hnil has]
      rfl

/-! ### Relative paths -/

/-- The relative path that names the entries on the way down. -/
def ofNames (names : List String) : Path := ⟨"/".intercalate names⟩

theorem ofNames_singleton (name : String) : ofNames [name] = ⟨name⟩ := by
  rw [ofNames, String.intercalate_singleton]

theorem toList_ofNames (names : List String) :
    (ofNames names).text.toList = ofPieces (names.map String.toList) := by
  induction names with
  | nil => rfl
  | cons name names ih =>
    by_cases hnil : names = []
    · simp [hnil, ofNames, ofPieces]
    · rw [List.map_cons, ofPieces_cons (mt List.map_eq_nil_iff.1 hnil), ← ih, ofNames,
        String.intercalate_cons_of_ne_nil hnil]
      simp [ofNames]

theorem ofNames_cons {name : String} {names : List String} (h : names ≠ []) :
    (ofNames (name :: names)).text.toList = name.toList ++ '/' :: (ofNames names).text.toList := by
  rw [toList_ofNames, toList_ofNames, List.map_cons, ofPieces_cons (mt List.map_eq_nil_iff.1 h)]

theorem pieces_ofNames {names : List String} (hne : names ≠ [])
    (h : ∀ name ∈ names, '/' ∉ name.toList) :
    pieces (ofNames names).text.toList = names.map String.toList := by
  rw [toList_ofNames, pieces_ofPieces (mt List.map_eq_nil_iff.1 hne) (List.forall_mem_map.2 h)]

/-! ### Joined paths -/

theorem join_of_empty {a b : Path} (ha : a.text = "") : a.join b = b := by
  rw [join]
  simp [ha]

/-- The text of a joined path is that of the two paths, with a slash in between unless there is one
already or nothing stands in front of it. -/
theorem join_text {a b : Path} (hb : b.isAbsolute = false) (ha : a.text ≠ "") :
    (∃ front, a.text.toList = front ++ ['/'] ∧
        (a.join b).text.toList = front ++ '/' :: b.text.toList) ∨
      (a.join b).text.toList = a.text.toList ++ '/' :: b.text.toList := by
  rw [join, if_neg (by simp [hb])]
  by_cases hend : a.text.endsWith "/" = true
  · rw [if_pos (by simp [hend])]
    obtain ⟨front, hfront⟩ := String.Slice.endsWith_string_iff.1 hend
    rw [String.copy_toSlice] at hfront
    exact .inl ⟨front, hfront.symm, by simp [← hfront]⟩
  · rw [if_neg (by simp [hend, ha])]
    exact .inr (by simp)

theorem size_le_join {a b : Path} (hb : b.isAbsolute = false) :
    a.text.utf8ByteSize + b.text.utf8ByteSize ≤ (a.join b).text.utf8ByteSize := by
  rw [join, if_neg (by simp [hb])]
  split_ifs
  · rw [String.utf8ByteSize_append]
  · rw [String.utf8ByteSize_append, String.utf8ByteSize_append]
    omega

/-! ### Steps -/

/-- The components that the pieces of a path stand for. -/
def steps (path : Path) : List Component :=
  (pieces path.text.toList).filterMap Component.ofPiece

theorem components_eq (path : Path) :
    path.components = leading (split path.text.toList).1 ++ path.steps := by
  change leading (split path.text.toList).1 ++
    (split path.text.toList).2.filterMap Component.ofPiece = _
  rw [steps]
  generalize path.text.toList = chars
  congr 1
  unfold split
  split
  · simp [pieces, List.filterMap_cons]
  · simp [pieces, List.filterMap_cons]
  · simp [pieces, List.filterMap_cons]
  · rfl

theorem steps_join {a b : Path} (hb : b.isAbsolute = false) (ha : a.text ≠ "") :
    (a.join b).steps = a.steps ++ b.steps := by
  rcases join_text hb ha with ⟨front, hfront, hjoin⟩ | hjoin
  · rw [steps, steps, steps, hjoin, hfront, pieces_append_slash, pieces_append_slash]
    simp [pieces, List.filterMap_cons]
  · rw [steps, steps, steps, hjoin, pieces_append_slash, List.filterMap_append]

/-- The text can be the name of an entry of a directory. -/
structure EntryName (name : String) : Prop where
  /-- There is no empty name. -/
  ne_empty : name ≠ ""
  /-- A dot stands for the directory itself. -/
  ne_dot : name ≠ "."
  /-- Two dots stand for the directory above. -/
  ne_dots : name ≠ ".."
  /-- A slash ends a name. -/
  no_slash : '/' ∉ name.toList

instance (name : String) : Decidable (EntryName name) :=
  decidable_of_iff (name ≠ "" ∧ name ≠ "." ∧ name ≠ ".." ∧ '/' ∉ name.toList)
    ⟨fun ⟨hempty, hdot, hdots, hslash⟩ => ⟨hempty, hdot, hdots, hslash⟩,
      fun h => ⟨h.ne_empty, h.ne_dot, h.ne_dots, h.no_slash⟩⟩

namespace EntryName

variable {name : String} {names : List String}

theorem toList_ne (h : EntryName name) :
    name.toList ≠ [] ∧ name.toList ≠ ['.'] ∧ name.toList ≠ ['.', '.'] := by
  refine ⟨fun he => h.ne_empty ?_, fun he => h.ne_dot ?_, fun he => h.ne_dots ?_⟩ <;>
    exact String.toList_inj.1 he

theorem ofPiece_toList (h : EntryName name) :
    Component.ofPiece name.toList = some (.name name) := by
  obtain ⟨hnil, hdot, hdots⟩ := h.toList_ne
  unfold Component.ofPiece
  split <;> simp_all

theorem steps_ofNames (hne : names ≠ []) (h : ∀ name ∈ names, EntryName name) :
    (ofNames names).steps = names.map Component.name := by
  rw [steps, pieces_ofNames hne fun name hn => (h name hn).no_slash, List.filterMap_map,
    ← List.filterMap_eq_map]
  exact List.filterMap_congr fun name hn => (h name hn).ofPiece_toList

theorem isAbsolute_ofNames (h : ∀ name ∈ names, EntryName name) :
    (ofNames names).isAbsolute = false := by
  cases names with
  | nil => rfl
  | cons name names =>
    obtain ⟨hnil, -, -⟩ := (h name List.mem_cons_self).toList_ne
    have hslash := (h name List.mem_cons_self).no_slash
    obtain ⟨c, cs, hcs⟩ := List.exists_cons_of_ne_nil hnil
    have hc : c ≠ '/' := fun hc => hslash (by simp [hcs, hc])
    have hhead : (ofNames (name :: names)).text.toList.head? = some c := by
      by_cases hrest : names = []
      · simp [hrest, ofNames, hcs]
      · simp [ofNames_cons hrest, hcs]
    simp [isAbsolute, hhead, hc]

end EntryName

end Path

end ReturnPaths
