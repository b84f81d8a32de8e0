import ReturnPaths.Proofs.Path.Pieces

/-!
# Going up

The paths above a path are obtained by going up step by step: the nearest one is the path without
its last component, and the others are those above the nearest one.  There is nothing above a root
and nothing above the empty path, so going up ends.

* `Path.parent?` : the path without its last component.
* `Path.above` : what a number of steps up leads to.
* `Path.parents_cases` : one step up.
* `Path.above_succ_eq_none_iff` : where going up ends.
* `Path.getElem?_ancestors` : a path and the paths above it are what going up leads to.
* `Path.components_above` : their components.
-/

namespace ReturnPaths

theorem Component.ofPiece_ne_root (piece : List Char) : Component.ofPiece piece ≠ some .root := by
  unfold Component.ofPiece
  split <;> simp

namespace Path

/-! ### Blank pieces -/

variable {piece : List Char} {rest : List (List Char)}

theorem dropBlank_cons_none (h : Component.ofPiece piece = none) :
    dropBlank (piece :: rest) = dropBlank rest := by
  rw [dropBlank, List.dropWhile_cons_of_pos (by simp [h]), dropBlank]

theorem dropBlank_cons_some {component : Component} (h : Component.ofPiece piece = some component) :
    dropBlank (piece :: rest) = piece :: rest := by
  rw [dropBlank, List.dropWhile_cons_of_neg (by simp [h])]

/-- What ignores a blank piece ignores all blank pieces in front. -/
theorem apply_dropBlank {β : Type} {f : List (List Char) → β}
    (hf : ∀ piece rest, Component.ofPiece piece = none → f (piece :: rest) = f rest)
    (rest : List (List Char)) : f (dropBlank rest) = f rest := by
  induction rest with
  | nil => rfl
  | cons piece rest ih =>
    cases hpiece : Component.ofPiece piece with
    | none => rw [dropBlank_cons_none hpiece, ih, hf piece rest hpiece]
    | some component => rw [dropBlank_cons_some hpiece]

theorem dropBlank_dropBlank (rest : List (List Char)) :
    dropBlank (dropBlank rest) = dropBlank rest :=
  apply_dropBlank (fun _ _ => dropBlank_cons_none) rest

theorem filterMap_dropBlank (rest : List (List Char)) :
    (dropBlank rest).filterMap Component.ofPiece = rest.filterMap Component.ofPiece :=
  apply_dropBlank (fun _ _ => List.filterMap_cons_none) rest

theorem parentsOf_dropBlank (lead : List Char) (rest : List (List Char)) :
    parentsOf lead (dropBlank rest) = parentsOf lead rest :=
  apply_dropBlank (fun piece rest hpiece => by rw [parentsOf, if_pos (by simp [hpiece])]) rest

theorem ofPiece_of_dropBlank {above : List (List Char)} (h : dropBlank rest = piece :: above) :
    ∃ component, Component.ofPiece piece = some component := by
  have hhead := List.head?_dropWhile_not (fun piece => (Component.ofPiece piece).isNone) rest
  rw [← dropBlank, h] at hhead
  exact Option.isSome_iff_exists.1 (by simpa using hhead)

/-! ### The front of a text -/

/-- Pieces put together and split again are the same but for blank ones. -/
theorem dropBlank_pieces_ofPieces {front : List (List Char)} (h : ∀ piece ∈ front, '/' ∉ piece) :
    dropBlank (pieces (ofPieces front)).reverse = dropBlank front.reverse := by
  by_cases hnil : front = []
  · subst hnil
    rfl
  · rw [pieces_ofPieces hnil h]

/-- Neither a slash nor a lone `.` leads the text. -/
structure Unled (chars : List Char) : Prop where
  /-- No slash leads it. -/
  slash : ∀ rest, chars ≠ '/' :: rest
  /-- It is no `.`. -/
  dot : chars ≠ ['.']
  /-- No `.` with a slash leads it. -/
  dots : ∀ rest, chars ≠ '.' :: '/' :: rest

theorem Unled.split_eq {chars : List Char} (h : Unled chars) :
    split chars = ([], pieces chars) := by
  unfold split
  split
  · exact absurd rfl (h.slash _)
  · exact absurd rfl h.dot
  · exact absurd rfl (h.dots _)
  · rfl

theorem split_cases (chars : List Char) :
    (∃ rest, chars = '/' :: rest) ∨ chars = ['.'] ∨ (∃ rest, chars = '.' :: '/' :: rest) ∨
      Unled chars := by
  by_cases hslash : ∃ rest, chars = '/' :: rest
  · exact .inl hslash
  by_cases hdot : chars = ['.']
  · exact .inr (.inl hdot)
  by_cases hdots : ∃ rest, chars = '.' :: '/' :: rest
  · exact .inr (.inr (.inl hdots))
  · exact .inr (.inr (.inr ⟨not_exists.1 hslash, hdot, not_exists.1 hdots⟩))

/-- What stands in front of a slash is led by nothing if the whole is not. -/
theorem Unled.front {chars rest : List Char} (h : Unled (chars ++ '/' :: rest)) : Unled chars where
  slash back := by
    rintro rfl
    exact h.slash _ rfl
  dot := by
    rintro rfl
    exact h.dots _ rfl
  dots back := by
    rintro rfl
    exact h.dots _ rfl

theorem Unled.ofPieces {front : List (List Char)} {chars : List Char} (h : Unled chars)
    (hfront : front <+: pieces chars) : Unled (ofPieces front) := by
  obtain ⟨back, hback⟩ := hfront
  rw [← ofPieces_pieces chars, ← hback] at h
  by_cases hnil : back = []
  · rwa [hnil, List.append_nil] at h
  by_cases hfront : front = []
  · rw [hfront]
    exact ⟨nofun, nofun, nofun⟩
  · rw [ofPieces_append hfront hnil] at h
    exact h.front

/-- The front of a text is led by the same as the text, and has its pieces but for blank ones. -/
theorem split_front {chars : List Char} {front : List (List Char)}
    (hfront : front <+: (split chars).2) :
    ∃ rest, split ((split chars).1 ++ ofPieces front) = ((split chars).1, rest) ∧
      dropBlank rest.reverse = dropBlank front.reverse := by
  -- what leads the text is put back in front, where it is seen again
  rcases split_cases chars with ⟨rest, rfl⟩ | rfl | ⟨rest, rfl⟩ | hunled
  · exact ⟨_, rfl, dropBlank_pieces_ofPieces fun piece hpiece =>
      slash_not_mem_piece (hfront.subset hpiece)⟩
  · obtain rfl : front = [] := List.prefix_nil.1 hfront
    exact ⟨_, rfl, rfl⟩
  · rcases List.prefix_cons_iff.1 hfront with rfl | ⟨front, rfl, hback⟩
    · exact ⟨_, rfl, rfl⟩
    by_cases hnil : front = []
    · -- only a `.` is left, which stands alone now
      subst hnil
      exact ⟨[], rfl, rfl⟩
    · refine ⟨[] :: front, ?_, rfl⟩
      have hpieces : pieces (ofPieces front) = front :=
        pieces_ofPieces hnil fun piece hpiece => slash_not_mem_piece (hback.subset hpiece)
      rw [ofPieces_cons hnil]
      exact congrArg (fun pieces => (['.'], [] :: pieces)) hpieces
  · rw [hunled.split_eq] at hfront ⊢
    exact ⟨_, (hunled.ofPieces hfront).split_eq, dropBlank_pieces_ofPieces fun piece hpiece =>
      slash_not_mem_piece (hfront.subset hpiece)⟩

/-! ### One step up -/

theorem parents_eq_parentsOf (path : Path) :
    path.parents = parentsOf (split path.text.toList).1 (split path.text.toList).2.reverse := rfl

theorem components_eq_dropBlank (path : Path) :
    path.components = leading (split path.text.toList).1 ++
      (dropBlank (split path.text.toList).2.reverse).reverse.filterMap Component.ofPiece := by
  rw [List.filterMap_reverse, filterMap_dropBlank, ← List.filterMap_reverse, List.reverse_reverse]
  rfl

/-- One step up: there is nothing above the path, and it has no component but a root, or what is
above it is the path without its last component and what is above that one. -/
theorem parents_cases (path : Path) :
    path.parents = [] ∧ (path.components = [] ∨ path.components = [.root]) ∨
      ∃ parent component, path.parents = parent :: parent.parents ∧ component ≠ .root ∧
        path.components = parent.components ++ [component] := by
  rw [parents_eq_parentsOf, ← parentsOf_dropBlank, components_eq_dropBlank]
  -- the last piece that is not blank is the one to remove; without it, a leading `.` is
  cases hdrop : dropBlank (split path.text.toList).2.reverse with
  | nil =>
    by_cases hlead : (split path.text.toList).1 = ['.']
    · rw [hlead]
      exact .inr ⟨⟨""⟩, .current, rfl, nofun, rfl⟩
    · refine .inl ⟨if_neg hlead, ?_⟩
      unfold leading
      split <;> simp_all
  | cons piece above =>
    obtain ⟨component, hpiece⟩ := ofPiece_of_dropBlank hdrop
    have hfront : (dropBlank above).reverse <+: (split path.text.toList).2 := by
      rw [← List.reverse_suffix, List.reverse_reverse]
      exact (List.dropWhile_suffix _).trans
        ((List.suffix_cons piece above).trans (hdrop ▸ List.dropWhile_suffix _))
    obtain ⟨rest, hsplit, hrest⟩ := split_front hfront
    generalize (split path.text.toList).1 = lead at hsplit
    obtain ⟨parent, hparent⟩ : ∃ parent : Path, parent =
      ⟨String.ofList (lead ++ ofPieces (dropBlank above).reverse)⟩ := ⟨_, rfl⟩
    have hlead : split parent.text.toList = (lead, rest) := by
      rw [hparent, String.toList_ofList, hsplit]
    have hrest : dropBlank rest.reverse = dropBlank above := by
      rw [hrest, List.reverse_reverse, dropBlank_dropBlank]
    have hnot_root : component ≠ .root := fun hroot =>
      Component.ofPiece_ne_root piece (hroot ▸ hpiece)
    refine .inr ⟨parent, component, ?_, hnot_root, ?_⟩
    · rw [parentsOf, if_neg (by simp [hpiece]), ← hparent, parents_eq_parentsOf parent, hlead,
        ← parentsOf_dropBlank lead rest.reverse, hrest, parentsOf_dropBlank]
    · rw [components_eq_dropBlank parent, hlead, hrest, List.filterMap_reverse,
        List.filterMap_reverse, filterMap_dropBlank, List.filterMap_cons_some hpiece,
        List.reverse_cons, List.append_assoc]

/-- The path without its last component; a root is not removed. -/
def parent? (path : Path) : Option Path :=
  path.parents.head?

theorem parent?_eq_none_iff {path : Path} :
    path.parent? = none ↔ path.components = [] ∨ path.components = [.root] := by
  rcases path.parents_cases with ⟨hparents, hcomponents⟩ |
    ⟨parent, component, hparents, hroot, hcomponents⟩
  · exact iff_of_true (by rw [parent?, hparents, List.head?_nil]) hcomponents
  · refine iff_of_false (by rw [parent?, hparents, List.head?_cons]; nofun) ?_
    rw [hcomponents]
    rintro (hnil | hsingle)
    · exact List.append_ne_nil_of_right_ne_nil _ (List.cons_ne_nil _ _) hnil
    · have hlast := congrArg List.getLast? hsingle
      rw [List.getLast?_concat, List.getLast?_singleton] at hlast
      exact hroot (Option.some.inj hlast)

theorem parents_of_parent? {path parent : Path} (h : path.parent? = some parent) :
    path.parents = parent.ancestors ∧
      ∃ component, path.components = parent.components ++ [component] := by
  rcases path.parents_cases with ⟨hparents, -⟩ | ⟨parent', component, hparents, -, hcomponents⟩
  · rw [parent?, hparents] at h
    cases h
  · rw [parent?, hparents] at h
    cases h
    exact ⟨hparents, component, hcomponents⟩

/-! ### All steps up -/

/-- What a number of steps up leads to, if it is possible to go up that often. -/
def above : ℕ → Path → Option Path
  | 0, path => some path
  | n + 1, path => path.parent?.bind (above n)

/-- The last step up is one from where the steps before it lead. -/
theorem above_succ (n : ℕ) (path : Path) : above (n + 1) path = (above n path).bind parent? := by
  induction n generalizing path with
  | zero =>
    change path.parent?.bind (above 0) = path.parent?
    cases path.parent? <;> rfl
  | succ n ih =>
    rw [above, above]
    cases path.parent? with
    | none => rfl
    | some parent => exact ih parent

/-- Going up ends at a root and at the empty path, and nowhere else. -/
theorem above_succ_eq_none_iff {path directory : Path} {n : ℕ} (h : above n path = some directory) :
    above (n + 1) path = none ↔ directory.components = [] ∨ directory.components = [.root] := by
  rw [above_succ, h, Option.bind_some, parent?_eq_none_iff]

/-- The path and the paths above it are what going up step by step leads to. -/
theorem getElem?_ancestors (path : Path) (n : ℕ) : path.ancestors[n]? = above n path := by
  induction n generalizing path with
  | zero => rfl
  | succ n ih =>
    rw [ancestors, List.getElem?_cons_succ, above]
    cases hparent : path.parent? with
    | none =>
      rw [List.head?_eq_none_iff.1 hparent]
      rfl
    | some parent => rw [(parents_of_parent? hparent).1, Option.bind_some, ih]

example : (List.range 5).map (above · ⟨"./a//b/"⟩) =
    [some ⟨"./a//b/"⟩, some ⟨"./a"⟩, some ⟨"."⟩, some ⟨""⟩, none] := by decide

theorem mem_ancestors {path directory : Path} :
    directory ∈ path.ancestors ↔ ∃ n, above n path = some directory := by
  simp only [List.mem_iff_getElem?, getElem?_ancestors]

/-- Every step up removes a component. -/
theorem exists_removed {path directory : Path} {n : ℕ} (h : above n path = some directory) :
    ∃ removed, removed.length = n ∧ path.components = directory.components ++ removed := by
  induction n generalizing path with
  | zero =>
    obtain rfl : path = directory := Option.some.inj h
    exact ⟨[], rfl, (List.append_nil _).symm⟩
  | succ n ih =>
    obtain ⟨parent, hparent, habove⟩ := Option.bind_eq_some_iff.1 h
    obtain ⟨-, component, hcomponents⟩ := parents_of_parent? hparent
    obtain ⟨removed, hlength, hremoved⟩ := ih habove
    refine ⟨removed ++ [component], by rw [List.length_append, hlength, List.length_singleton], ?_⟩
    rw [hcomponents, hremoved, List.append_assoc]

/-- What is above a path has the components of the path but for the last ones. -/
theorem components_above {path directory : Path} {n : ℕ} (h : above n path = some directory) :
    directory.components = path.components.take (path.components.length - n) ∧
      n ≤ path.components.length := by
  obtain ⟨removed, rfl, hcomponents⟩ := exists_removed h
  simp [hcomponents]

end Path

end ReturnPaths
