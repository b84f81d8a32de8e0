import ReturnPaths.Proofs.FileTree.Location

/-!
# Trees that agree

Trees are compared entry by entry: at a position there is nothing, a directory, or a file with some
content.  Where two trees have the same directories, a path leads to the same positions in both,
as far as there is something in both; only why it leads nowhere may be told differently.

* `FileTree.AgreeBut` : two trees agree but for some positions, at which there are no directories.
* `FileTree.AgreeBut.locate` : what a path leads to in both trees.
* `FileTree.SameAt`, `FileTree.SameThrough` : a path leads to the same in both trees, in its end and
  all the way.
-/

namespace ReturnPaths

namespace Node

/-- The content of a file; a directory has none. -/
def content? : Node → Option ByteArray
  | file content => some content
  | directory _ => none

theorem content?_eq_none {node : Node} :
    node.content? = none ↔ ∃ entries, node = .directory entries := by
  cases node <;> simp [content?]

theorem content?_eq_some {node : Node} {content : ByteArray} :
    node.content? = some content ↔ node = .file content := by
  cases node <;> simp [content?]

end Node

namespace FileTree

/-- What is at a position: nothing, a directory, or a file with some content. -/
def entryAt? (tree : FileTree) (position : List String) : Option (Option ByteArray) :=
  (tree.root.get? position).map Node.content?

theorem entryAt?_eq_directory {tree : FileTree} {position : List String} :
    tree.entryAt? position = some none ↔
      ∃ entries, tree.root.get? position = some (.directory entries) := by
  rw [entryAt?, Option.map_eq_some_iff]
  simp only [Node.content?_eq_none]
  constructor
  · rintro ⟨_, hget, entries, rfl⟩
    exact ⟨entries, hget⟩
  · rintro ⟨entries, hget⟩
    exact ⟨_, hget, entries, rfl⟩

theorem entryAt?_eq_file {tree : FileTree} {position : List String} {content : ByteArray} :
    tree.entryAt? position = some (some content) ↔
      tree.root.get? position = some (.file content) := by
  rw [entryAt?, Option.map_eq_some_iff]
  simp only [Node.content?_eq_some]
  constructor
  · rintro ⟨_, hget, rfl⟩
    exact hget
  · exact fun hget => ⟨_, hget, rfl⟩

/-- Two trees have the same entries but for some special positions, and no directories at these. -/
structure AgreeBut (special : List String → Prop) (tree tree' : FileTree) : Prop where
  /-- Relative paths start from the same position. -/
  workingDirectory : tree'.workingDirectory = tree.workingDirectory
  /-- The entries are the same. -/
  entry : ∀ position, ¬ special position → tree'.entryAt? position = tree.entryAt? position
  /-- At a special position there is a file, if there is anything. -/
  not_directory : ∀ position, special position →
    tree.entryAt? position ≠ some none ∧ tree'.entryAt? position ≠ some none

variable {special : List String → Prop} {tree tree' : FileTree} {path : Path}
  {position : List String}

namespace AgreeBut

theorem symm (h : AgreeBut special tree tree') : AgreeBut special tree' tree where
  workingDirectory := h.workingDirectory.symm
  entry position hposition := (h.entry position hposition).symm
  not_directory position hposition := (h.not_directory position hposition).symm

/-- A tree agrees with itself. -/
theorem refl (tree : FileTree) : AgreeBut (fun _ => False) tree tree where
  workingDirectory := rfl
  entry _ _ := rfl
  not_directory _ hposition := hposition.elim

theorem start_eq (h : AgreeBut special tree tree') (path : Path) :
    tree'.start path = tree.start path := by
  rw [start, start, h.workingDirectory]

/-- The directories of both trees are the same. -/
theorem directory_iff (h : AgreeBut special tree tree') :
    (∃ entries, tree'.root.get? position = some (.directory entries)) ↔
      ∃ entries, tree.root.get? position = some (.directory entries) := by
  rw [← entryAt?_eq_directory, ← entryAt?_eq_directory]
  by_cases hposition : special position
  · obtain ⟨hnot, hnot'⟩ := h.not_directory position hposition
    exact iff_of_false hnot' hnot
  · rw [h.entry position hposition]

theorem directory?_eq_none (h : AgreeBut special tree tree') :
    tree'.root.directory? position = none ↔ tree.root.directory? position = none := by
  rw [← not_iff_not, ← ne_eq, ← ne_eq, Option.ne_none_iff_exists', Option.ne_none_iff_exists']
  simp only [Node.directory?_eq_some]
  exact h.directory_iff

theorem lengthError_eq (h : AgreeBut special tree tree') :
    lengthError tree'.root = lengthError tree.root := by
  funext position
  have hnone : tree'.root.directory? position = none ↔ tree.root.directory? position = none :=
    h.directory?_eq_none
  rw [lengthError, lengthError]
  cases hthere : tree.root.directory? position with
  | none => rw [hnone.2 hthere]
  | some entries =>
    cases hthere' : tree'.root.directory? position with
    | none => rw [hnone.1 hthere'] at hthere; cases hthere
    | some entries' => rfl

theorem currentDirectory (h : AgreeBut special tree tree') :
    tree'.currentDirectory = tree.currentDirectory :=
  currentDirectory_eq h.workingDirectory h.directory_iff

/-- Trees still agree after the same was changed in both. -/
theorem changed {changed : List String → Prop} {later later' : FileTree}
    (h : AgreeBut special tree tree') (hlater : AgreeBut changed tree later)
    (hlater' : AgreeBut changed tree' later')
    (hsame : ∀ position, changed position → later'.entryAt? position = later.entryAt? position) :
    AgreeBut special later later' where
  workingDirectory := by
    rw [hlater'.workingDirectory, h.workingDirectory, hlater.workingDirectory]
  entry position hposition := by
    by_cases hchanged : changed position
    · exact hsame position hchanged
    · rw [hlater'.entry position hchanged, h.entry position hposition,
        hlater.entry position hchanged]
  not_directory position hposition := by
    by_cases hchanged : changed position
    · exact ⟨(hlater.not_directory position hchanged).2,
        (hlater'.not_directory position hchanged).2⟩
    · rw [hlater.entry position hchanged, hlater'.entry position hchanged]
      exact h.not_directory position hposition

end AgreeBut

/-! ### Where a path leads -/

/-- Going down through directories that are also in another tree leads to the same position there,
unless there is an entry at it that the other tree does not have. -/
theorem follow_of_directories {root root' node node' found : Node} {pieces : List (List Char)}
    {last : List String}
    (hdirs : ∀ position entries, root.get? position = some (.directory entries) →
      ∃ entries', root'.get? position = some (.directory entries'))
    (hnode : root.Leaves position node) (hnode' : root'.Leaves position node')
    (hhere : node'.content? = node.content?)
    (hlast : root.get? last = some found → (root'.get? last).isSome = true)
    (h : follow root pieces position node = .ok (last, found)) :
    ∃ found', follow root' pieces position node' = .ok (last, found') ∧
      (found'.content? = found.content? ∨
        root.get? last = some found ∧ root'.get? last = some found') := by
  fun_induction follow root pieces position node generalizing node' with
  | case1 position node =>
    cases h
    exact ⟨node', by rw [follow], .inl hhere⟩
  | case2 => cases h
  | case3 piece rest position entries hblank ih =>
    obtain ⟨entries', rfl⟩ := Node.content?_eq_none.1 hhere
    rw [follow, if_pos hblank]
    exact ih hnode hnode' rfl h
  | case4 rest position entries hblank ih =>
    obtain ⟨entries', rfl⟩ := Node.content?_eq_none.1 hhere
    rw [follow, if_neg hblank, if_pos rfl]
    exact ih (root.leaves_directoryAt _) (root'.leaves_directoryAt _) rfl h
  | case5 => cases h
  | case6 piece rest position entries hblank hdots name hlong child hlookup =>
    rename_i ih
    obtain ⟨entries', rfl⟩ := Node.content?_eq_none.1 hhere
    have hchild : root.get? (position ++ [name]) = some child := by
      rw [hnode.get?_concat, hlookup]
    rw [follow, if_neg hblank, if_neg hdots, if_neg hlong, ← hnode'.get?_concat]
    cases rest with
    | nil =>
      rw [follow] at h
      cases h
      obtain ⟨child', hchild'⟩ := Option.isSome_iff_exists.1 (hlast hchild)
      refine ⟨child', ?_, .inr ⟨hchild, hchild'⟩⟩
      rw [hchild']
      rfl
    | cons next rest =>
      -- more pieces can be followed only from a directory, which is also in the other tree
      cases child with
      | file content => rw [follow] at h; cases h
      | directory below =>
        obtain ⟨below', hchild'⟩ := hdirs _ _ hchild
        rw [hchild']
        exact ih (.inl hchild) (.inl hchild') rfl h
  | case7 => cases h

theorem descend_of_follow {pieces : List (List Char)} {found : Node}
    (hnull : '\x00' ∉ path.text.toList) (hempty : path.text ≠ "")
    (hlength : path.text.utf8ByteSize < pathLimit)
    (h : follow tree.root pieces (tree.start path) (tree.root.directoryAt (tree.start path)) =
      .ok (position, found)) :
    tree.descend path pieces = .ok (position, found) := by
  rw [descend, if_neg hnull, if_neg (by simpa using hempty), if_neg (Nat.not_le.2 hlength)]
  exact h

theorem denotes_iff :
    tree.denotes path = true ↔ ∃ position node, tree.locate path = .ok (position, node) := by
  rw [denotes, node?]
  cases tree.locate path with
  | error error => simp
  | ok found => exact iff_of_true rfl ⟨found.1, found.2, rfl⟩

/-- **Where a path leads in both trees**: to the same position, unless it leads to an entry in the
one and the other one has nothing there. -/
theorem AgreeBut.locate {node : Node} (h : AgreeBut special tree tree')
    (hlocate : tree.locate path = .ok (position, node))
    (hthere : tree.root.get? position = some node → (tree'.root.get? position).isSome = true) :
    ∃ node', tree'.locate path = .ok (position, node') ∧ (node'.content? = node.content? ∨
      tree.root.get? position = some node ∧ tree'.root.get? position = some node') := by
  obtain ⟨hnull, hempty, hlength, hfollow⟩ := descend_eq_ok hlocate
  have hdirs (position : List String) (entries : List (String × Node))
      (hdir : tree.root.get? position = some (.directory entries)) :
      ∃ entries', tree'.root.get? position = some (.directory entries') :=
    h.directory_iff.2 ⟨entries, hdir⟩
  obtain ⟨node', hfollow', hsame⟩ := follow_of_directories hdirs
    (tree.root.leaves_directoryAt _) (tree'.root.leaves_directoryAt _) rfl hthere hfollow
  rw [← h.start_eq path] at hfollow'
  exact ⟨node', descend_of_follow hnull hempty hlength hfollow', hsame⟩

theorem AgreeBut.isSome_get? (h : AgreeBut special tree tree') (hposition : ¬ special position) :
    (tree'.root.get? position).isSome = (tree.root.get? position).isSome := by
  have hentry := congrArg Option.isSome (h.entry position hposition)
  rwa [entryAt?, entryAt?, Option.isSome_map, Option.isSome_map] at hentry

/-- What a path denotes in the one tree is denoted in the other one, if there is an entry. -/
theorem AgreeBut.denotes {node : Node} (h : AgreeBut special tree tree')
    (hlocate : tree.locate path = .ok (position, node))
    (hthere : tree.root.get? position = some node → (tree'.root.get? position).isSome = true) :
    tree'.denotes path = true := by
  obtain ⟨node', hlocate', -⟩ := h.locate hlocate hthere
  exact denotes_iff.2 ⟨position, node', hlocate'⟩

/-- A path finds an entry of the tree at a position. -/
def Finds (tree : FileTree) (path : Path) (position : List String) : Prop :=
  ∃ node, tree.locate path = .ok (position, node) ∧ tree.root.get? position = some node

theorem AgreeBut.finds (h : AgreeBut special tree tree') (hfinds : tree.Finds path position)
    (hthere : (tree'.root.get? position).isSome = true) : tree'.Finds path position := by
  obtain ⟨node, hlocate, hget⟩ := hfinds
  obtain ⟨node', hlocate', hsame⟩ := h.locate hlocate fun _ => hthere
  refine ⟨node', hlocate', hsame.elim (fun hcontent => ?_) fun hentries => hentries.2⟩
  rcases (locate_eq_ok hlocate').2 with hget' | ⟨hnone, rfl⟩
  · exact hget'
  · -- a directory of the one tree has not been removed in the other one
    obtain ⟨entries, rfl⟩ := Node.content?_eq_none.1 hcontent.symm
    obtain ⟨entries', hdir'⟩ := h.directory_iff.2 ⟨entries, hget⟩
    rw [Node.directory?_eq_some.2 hdir'] at hnone
    cases hnone

theorem AgreeBut.finds_iff (h : AgreeBut special tree tree') (hposition : ¬ special position) :
    tree'.Finds path position ↔ tree.Finds path position := by
  constructor
  · rintro ⟨node, hlocate, hget⟩
    exact h.symm.finds ⟨node, hlocate, hget⟩ (by rw [← h.isSome_get? hposition, hget]; rfl)
  · rintro ⟨node, hlocate, hget⟩
    exact h.finds ⟨node, hlocate, hget⟩ (by rw [h.isSome_get? hposition, hget]; rfl)

/-! ### Paths that lead to the same -/

/-- A path leads to a directory in both trees, or to files with the same content. -/
def Alike (tree tree' : FileTree) (path : Path) : Prop :=
  ∃ position node node', tree.locate path = .ok (position, node) ∧
    tree'.locate path = .ok (position, node') ∧ node'.content? = node.content?

theorem Alike.denotes (h : tree.Alike tree' path) :
    tree.denotes path = true ∧ tree'.denotes path = true := by
  obtain ⟨position, node, node', hlocate, hlocate', -⟩ := h
  exact ⟨denotes_iff.2 ⟨_, _, hlocate⟩, denotes_iff.2 ⟨_, _, hlocate'⟩⟩

theorem Alike.readText (h : tree.Alike tree' path) : tree'.readText path = tree.readText path := by
  obtain ⟨position, node, node', hlocate, hlocate', hcontent⟩ := h
  rw [FileTree.readText, FileTree.readText, hlocate, hlocate']
  cases node with
  | file content =>
    obtain rfl := Node.content?_eq_some.1 hcontent
    rfl
  | directory entries =>
    obtain ⟨entries', rfl⟩ := Node.content?_eq_none.1 hcontent
    rfl

/-- A path is alike in both trees if it leads to no special entry. -/
theorem AgreeBut.alike {node : Node} (h : AgreeBut special tree tree')
    (hlocate : tree.locate path = .ok (position, node))
    (hentry : tree.root.get? position = some node → ¬ special position) :
    tree.Alike tree' path := by
  have hsame (hget : tree.root.get? position = some node) :
      (tree'.root.get? position).map Node.content? = some node.content? := by
    rw [← entryAt?, h.entry position (hentry hget), entryAt?, hget, Option.map_some]
  obtain ⟨node', hlocate', hcontent⟩ := h.locate hlocate fun hget => by
    rw [← Option.isSome_map (f := Node.content?), hsame hget]
    rfl
  refine ⟨position, node, node', hlocate, hlocate', hcontent.elim id fun ⟨hget, hget'⟩ => ?_⟩
  have hnode := hsame hget
  rw [hget'] at hnode
  exact Option.some.inj hnode

/-- What going down ends at, if it gets there. -/
def reaches (outcome : Except FileError (List String × Node)) : Option (Option ByteArray) :=
  outcome.toOption.map fun (_, node) => node.content?

/-- What some pieces of a path lead to: nothing, a directory, or a file with some content. -/
def reached? (tree : FileTree) (path : Path) (pieces : List (List Char)) :
    Option (Option ByteArray) :=
  reaches (tree.descend path pieces)

/-- A path leads to the same in both trees. -/
def SameAt (tree tree' : FileTree) (path : Path) : Prop :=
  tree'.reached? path (Path.pieces path.text.toList) =
    tree.reached? path (Path.pieces path.text.toList)

/-- A path leads to the same in both trees, and so does every front of it. -/
def SameThrough (tree tree' : FileTree) (path : Path) : Prop :=
  ∀ front, front <+: Path.pieces path.text.toList →
    tree'.reached? path front = tree.reached? path front

theorem SameThrough.sameAt (h : tree.SameThrough tree' path) : tree.SameAt tree' path :=
  h _ List.prefix_rfl

theorem reached?_pieces (tree : FileTree) (path : Path) :
    tree.reached? path (Path.pieces path.text.toList) = (tree.node? path).map Node.content? := by
  rw [reached?, node?, ← locate]
  cases tree.locate path <;> rfl

theorem SameAt.symm (h : tree.SameAt tree' path) : tree'.SameAt tree path := Eq.symm h

/-- A path that leads to the same finds no entry in which the trees differ. -/
theorem SameAt.entry_eq (hpath : tree.SameAt tree' path) (h : AgreeBut special tree tree')
    (hfinds : tree.Finds path position) : tree'.entryAt? position = tree.entryAt? position := by
  obtain ⟨node, hlocate, hget⟩ := hfinds
  have hsame : (tree'.node? path).map Node.content? = some node.content? := by
    rw [← reached?_pieces, hpath, reached?_pieces, node?, hlocate]
    rfl
  obtain ⟨node', hnode', hcontent⟩ := Option.map_eq_some_iff.1 hsame
  obtain ⟨rfl, -⟩ := locate_eq_ok hlocate
  have hposition : tree'.position path = tree.position path := by
    rw [FileTree.position, FileTree.position, h.workingDirectory]
  have hleaves := leaves_position hnode'
  rw [hposition] at hleaves
  cases node with
  | file content =>
    obtain rfl := Node.content?_eq_some.1 hcontent
    rw [entryAt?, entryAt?, hget, hleaves.get?_file]
  | directory entries =>
    -- the trees have the same directories
    rw [entryAt?_eq_directory.2 (h.directory_iff.2 ⟨entries, hget⟩),
      entryAt?_eq_directory.2 ⟨entries, hget⟩]

/-- A path finds no special entry. -/
def Avoids (special : List String → Prop) (tree : FileTree) (path : Path) : Prop :=
  ∀ position, tree.Finds path position → ¬ special position

theorem AgreeBut.alike_of_avoids {node : Node} (h : AgreeBut special tree tree')
    (hpath : tree.Avoids special path) (hlocate : tree.locate path = .ok (position, node)) :
    tree.Alike tree' path :=
  h.alike hlocate fun hget => hpath position ⟨node, hlocate, hget⟩

/-- A path that finds no special entry leads to the same in both trees. -/
theorem AgreeBut.sameAt (h : AgreeBut special tree tree') (hpath : tree.Avoids special path)
    (hpath' : tree'.Avoids special path) : tree.SameAt tree' path := by
  rw [SameAt, reached?_pieces, reached?_pieces]
  cases hnode : tree.node? path with
  | some node =>
    obtain ⟨position, node₁, node', hlocate, hlocate', hcontent⟩ :=
      h.alike_of_avoids hpath (node?_eq_some.1 hnode)
    rw [node?_eq_some.1 hnode] at hlocate
    cases hlocate
    rw [node?, hlocate', Option.map_some, Option.map_some, hcontent]
  | none =>
    cases hnode' : tree'.node? path with
    | none => rfl
    | some node' =>
      have hdenotes := (h.symm.alike_of_avoids hpath' (node?_eq_some.1 hnode')).denotes.2
      rw [FileTree.denotes, hnode] at hdenotes
      cases hdenotes

/-- What a path that leads to the same leads to. -/
theorem SameAt.node?_eq (h : tree.SameAt tree' path) :
    (tree.node? path = none ∧ tree'.node? path = none) ∨
      (∃ content, tree.node? path = some (.file content) ∧
        tree'.node? path = some (.file content)) ∨
      ∃ entries entries', tree.node? path = some (.directory entries) ∧
        tree'.node? path = some (.directory entries') := by
  rw [SameAt, reached?_pieces, reached?_pieces] at h
  cases hnode : tree.node? path with
  | none =>
    rw [hnode, Option.map_none, Option.map_eq_none_iff] at h
    exact .inl ⟨rfl, h⟩
  | some node =>
    rw [hnode] at h
    obtain ⟨node', hnode', hcontent⟩ := Option.map_eq_some_iff.1 h
    cases node with
    | file content =>
      rw [Node.content?_eq_some.1 hcontent] at hnode'
      exact .inr (.inl ⟨content, rfl, hnode'⟩)
    | directory entries =>
      obtain ⟨entries', rfl⟩ := Node.content?_eq_none.1 hcontent
      exact .inr (.inr ⟨entries, entries', rfl, hnode'⟩)

theorem SameAt.denotes (h : tree.SameAt tree' path) :
    tree'.denotes path = tree.denotes path := by
  rw [FileTree.denotes, FileTree.denotes]
  rcases h.node?_eq with ⟨hnode, hnode'⟩ | ⟨_, hnode, hnode'⟩ | ⟨_, _, hnode, hnode'⟩ <;>
    simp [hnode, hnode']

end FileTree

end ReturnPaths
