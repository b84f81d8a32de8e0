import ReturnPaths.Proofs.FileTree.WellFormed

/-!
# Where paths lead

Looking a path up goes down the tree piece by piece and may fail at each of them.  Where it leads if
it does not fail can be told from the components of the path alone: `FileTree.position`.  So two
texts of the same path that both denote files denote the same file.

* `Node.Leaves` : what is found at a position, be it there or what is left of a directory.
* `FileTree.locate_eq_ok` : the result of looking up a path, if there is one.
* `FileTree.node?_join` : below a directory, the path that names the entries on the way down denotes
  what is there, unless it is too long.
-/

namespace ReturnPaths

/-- The position that a component leads to from another one. -/
def Component.goFrom (position : List String) : Component → List String
  | root => []
  | current => position
  | parent => position.dropLast
  | name text => position ++ [text]

/-- The position that a path leads to. -/
def FileTree.position (tree : FileTree) (path : Path) : List String :=
  path.components.foldl Component.goFrom tree.workingDirectory

namespace Node

/-- A node is at a position, or it is what is left of a directory that was there. -/
def Leaves (root : Node) (position : List String) (node : Node) : Prop :=
  root.get? position = some node ∨ root.directory? position = none ∧ node = .directory []

variable {root child : Node} {position names : List String} {entries : List (String × Node)}
  {content : ByteArray}

theorem leaves_directoryAt (root : Node) (position : List String) :
    root.Leaves position (root.directoryAt position) := by
  rw [directoryAt]
  cases h : root.directory? position with
  | some entries => exact .inl (directory?_eq_some.1 h)
  | none => exact .inr ⟨h, rfl⟩

/-- No file is what is left of a directory. -/
theorem Leaves.get?_file (h : root.Leaves position (.file content)) :
    root.get? position = some (.file content) :=
  h.resolve_right fun hleft => nomatch hleft.2

/-- Below a directory there is what is there in the tree, and below what is left of one nothing. -/
theorem Leaves.get?_append (h : root.Leaves position (.directory entries)) (hne : names ≠ []) :
    root.get? (position ++ names) = (directory entries).get? names := by
  obtain ⟨name, rest, rfl⟩ := List.exists_cons_of_ne_nil hne
  rcases h with h | ⟨hnone, hleft⟩
  · rw [Node.get?_append, h, Option.bind_some]
  · cases hleft
    rw [Node.get?_append]
    cases hget : root.get? position with
    | none => rfl
    | some node =>
      cases node with
      | file content => rfl
      | directory entries =>
        rw [directory?_eq_some.2 hget] at hnone
        cases hnone

theorem Leaves.get?_concat (h : root.Leaves position (.directory entries)) (name : String) :
    root.get? (position ++ [name]) = entries.lookup name := by
  rw [h.get?_append (List.cons_ne_nil _ _), get?_cons, Node.entries]
  cases entries.lookup name <;> rfl

theorem Leaves.wellFormed {node : Node} (h : root.Leaves position node) (hroot : root.WellFormed) :
    node.WellFormed := by
  rcases h with h | ⟨-, rfl⟩
  · exact hroot.get? h
  · exact wellFormed_directory (by simp) (by simp)

end Node

namespace FileTree

theorem foldl_goFrom_names (position names : List String) :
    (names.map Component.name).foldl Component.goFrom position = position ++ names := by
  induction names generalizing position with
  | nil => simp
  | cons name names ih => simp [ih, Component.goFrom]

theorem position_eq (tree : FileTree) (path : Path) :
    tree.position path = path.steps.foldl Component.goFrom (tree.start path) := by
  rw [position, Path.components_eq, List.foldl_append]
  congr 1
  rw [start, Path.isAbsolute]
  generalize path.text.toList = chars
  unfold Path.split
  split
  · rfl
  · rfl
  · rfl
  · rename_i hslash _ _
    cases chars with
    | nil => rfl
    | cons c rest =>
      have hc : c ≠ '/' := fun hc => hslash rest (by rw [hc])
      simp [Path.leading, hc]

theorem position_congr (tree : FileTree) {a b : Path} (h : a.same b = true) :
    tree.position a = tree.position b := by
  rw [Path.same, beq_iff_eq] at h
  rw [position, position, h]

/-! ### The working directory -/

theorem currentDirectory_eq_ok {tree : FileTree} {directory : Path} :
    tree.currentDirectory = .ok directory ↔
      (∃ entries, tree.root.get? tree.workingDirectory = some (.directory entries)) ∧
        directory = tree.workingPath := by
  simp only [currentDirectory, ← Node.directory?_eq_some]
  cases tree.root.directory? tree.workingDirectory <;> simp [eq_comm]

/-- The path of the working directory can be told from its position and from whether it is there. -/
theorem currentDirectory_eq {tree tree' : FileTree}
    (hworking : tree'.workingDirectory = tree.workingDirectory)
    (h : (∃ entries, tree'.root.get? tree.workingDirectory = some (.directory entries)) ↔
      ∃ entries, tree.root.get? tree.workingDirectory = some (.directory entries)) :
    tree'.currentDirectory = tree.currentDirectory := by
  simp only [← Node.directory?_eq_some] at h
  rw [currentDirectory, currentDirectory, workingPath, workingPath, hworking]
  cases htree' : tree'.root.directory? tree.workingDirectory <;>
    cases htree : tree.root.directory? tree.workingDirectory <;> simp_all

/-! ### Going down -/

theorem follow_eq_ok {root node node' : Node} {pieces : List (List Char)}
    {position position' : List String} (hnode : root.Leaves position node)
    (h : follow root pieces position node = .ok (position', node')) :
    position' = (pieces.filterMap Component.ofPiece).foldl Component.goFrom position ∧
      root.Leaves position' node' := by
  -- on the way down the node is the one at the position, so `..` leads back to the right one
  fun_induction follow root pieces position node with
  | case1 position node =>
    cases h
    exact ⟨rfl, hnode⟩
  | case2 => cases h
  | case3 piece rest position entries hblank ih =>
    have hpiece : Component.ofPiece piece = none := by
      rcases hblank with rfl | rfl <;> rfl
    rw [List.filterMap_cons_none hpiece]
    exact ih hnode h
  | case4 rest position entries hblank ih => exact ih (root.leaves_directoryAt _) h
  | case5 => cases h
  | case6 piece rest position entries hblank hdots name _ child hlookup ih =>
    have hpiece : Component.ofPiece piece = some (.name name) := by
      rw [not_or] at hblank
      unfold Component.ofPiece
      split
      · exact absurd rfl hblank.1
      · exact absurd rfl hblank.2
      · exact absurd rfl hdots
      · rfl
    rw [List.filterMap_cons_some hpiece]
    exact ih (.inl (by rw [hnode.get?_concat, hlookup])) h
  | case7 => cases h

theorem follow_append (root : Node) (front back : List (List Char)) (position : List String)
    (node : Node) :
    follow root (front ++ back) position node =
      (follow root front position node).bind fun (position, node) =>
        follow root back position node := by
  fun_induction follow root front position node with
  | case1 position node => rfl
  | case2 => rfl
  | case3 piece rest position entries hblank ih => rw [List.cons_append, follow, if_pos hblank, ih]
  | case4 rest position entries hblank ih =>
    rw [List.cons_append, follow, if_neg hblank, if_pos rfl, ih]
  | case5 piece rest position entries hblank hdots name hlong =>
    rw [List.cons_append, follow, if_neg hblank, if_neg hdots, if_pos hlong]
    rfl
  | case6 piece rest position entries hblank hdots name hlong child hlookup ih =>
    rw [List.cons_append, follow, if_neg hblank, if_neg hdots, if_neg hlong, hlookup]
    exact ih
  | case7 piece rest position entries hblank hdots name hlong hlookup =>
    rw [List.cons_append, follow, if_neg hblank, if_neg hdots, if_neg hlong, hlookup]
    rfl

/-- Only a name leads to a file. -/
theorem ne_of_follow_file {root node : Node} {front : List (List Char)} {last : List Char}
    {position position' : List String} {content : ByteArray}
    (h : follow root (front ++ [last]) position node = .ok (position', .file content)) :
    last ≠ [] ∧ last ≠ ['.'] ∧ last ≠ ['.', '.'] := by
  rw [follow_append] at h
  cases hfront : follow root front position node with
  | error error => rw [hfront] at h; cases h
  | ok found =>
    obtain ⟨position, node⟩ := found
    rw [hfront] at h
    refine ⟨?_, ?_, ?_⟩ <;> rintro rfl <;> cases node <;> cases h

/-- A name leads to what is there. -/
theorem get?_of_follow {root node node' : Node} {front : List (List Char)} {last : List Char}
    {position position' : List String} (hlast : last ≠ [] ∧ last ≠ ['.'] ∧ last ≠ ['.', '.'])
    (hnode : root.Leaves position node)
    (h : follow root (front ++ [last]) position node = .ok (position', node')) :
    root.get? position' = some node' := by
  obtain ⟨hnil, hdot, hdots⟩ := hlast
  rw [follow_append] at h
  cases hfront : follow root front position node with
  | error error => rw [hfront] at h; cases h
  | ok found =>
    obtain ⟨above, directory⟩ := found
    rw [hfront] at h
    cases directory with
    | file content => cases h
    | directory entries =>
      simp only [Except.bind, follow, if_neg (not_or.2 ⟨hnil, hdot⟩), if_neg hdots] at h
      split_ifs at h with hlong
      split at h
      · rename_i child hlookup
        cases h
        rw [(follow_eq_ok hnode hfront).2.get?_concat, hlookup]
      · cases h

theorem follow_cons_name {root : Node} {name : String} (hname : FileName name)
    (rest : List (List Char)) (position : List String) (entries : List (String × Node)) :
    follow root (name.toList :: rest) position (.directory entries) =
      (entries.lookup name).elim (.error .notFound) (follow root rest (position ++ [name])) := by
  obtain ⟨hnil, hdot, hdots⟩ := hname.toList_ne
  rw [follow, if_neg (not_or.2 ⟨hnil, hdot⟩), if_neg hdots, String.ofList_toList]
  simp only [Nat.not_lt.2 hname.short, ↓reduceIte]
  cases entries.lookup name <;> rfl

theorem follow_names {root node child : Node} {names : List String} (position : List String)
    (hnames : ∀ name ∈ names, FileName name) (hchild : node.get? names = some child) :
    follow root (names.map String.toList) position node = .ok (position ++ names, child) := by
  induction names generalizing node position with
  | nil =>
    rw [Node.get?_nil] at hchild
    cases hchild
    simp [follow]
  | cons name names ih =>
    obtain ⟨hname, hnames⟩ := List.forall_mem_cons.1 hnames
    rw [Node.get?_cons] at hchild
    obtain ⟨next, hlookup, hnext⟩ := Option.bind_eq_some_iff.1 hchild
    cases node with
    | file content => cases hlookup
    | directory entries =>
      rw [Node.entries] at hlookup
      rw [List.map_cons, follow_cons_name hname, hlookup, Option.elim_some,
        ih (position ++ [name]) hnames hnext, List.append_assoc, List.singleton_append]

/-! ### Looking up -/

variable {tree : FileTree} {path : Path} {node : Node} {position : List String}

theorem descend_eq_ok {pieces : List (List Char)}
    (h : tree.descend path pieces = .ok (position, node)) :
    '\x00' ∉ path.text.toList ∧ path.text ≠ "" ∧ path.text.utf8ByteSize < pathLimit ∧
      follow tree.root pieces (tree.start path) (tree.root.directoryAt (tree.start path)) =
        .ok (position, node) := by
  rw [descend] at h
  split_ifs at h with hnull hempty hlong
  exact ⟨hnull, by simpa using hempty, Nat.not_le.1 hlong, h⟩

theorem descend_leaves {pieces : List (List Char)}
    (h : tree.descend path pieces = .ok (position, node)) : tree.root.Leaves position node := by
  obtain ⟨-, -, -, hfollow⟩ := descend_eq_ok h
  exact (follow_eq_ok (Node.leaves_directoryAt _ _) hfollow).2

/-- **What looking up a path gives**, if it gives anything: the position that the path leads to and
what there is at it or left of it. -/
theorem locate_eq_ok (h : tree.locate path = .ok (position, node)) :
    position = tree.position path ∧ tree.root.Leaves position node := by
  obtain ⟨-, -, -, hfollow⟩ := descend_eq_ok h
  rw [position_eq]
  exact follow_eq_ok (Node.leaves_directoryAt _ _) hfollow

theorem node?_eq_some :
    tree.node? path = some node ↔ tree.locate path = .ok (tree.position path, node) := by
  rw [node?]
  constructor
  · intro h
    split at h
    · rename_i position node' hlocate
      cases h
      rw [hlocate, (locate_eq_ok hlocate).1]
    · cases h
  · intro h
    rw [h]

theorem leaves_position (h : tree.node? path = some node) :
    tree.root.Leaves (tree.position path) node :=
  (locate_eq_ok (node?_eq_some.1 h)).2

theorem get?_position {content : ByteArray} (h : tree.node? path = some (.file content)) :
    tree.root.get? (tree.position path) = some (.file content) :=
  (leaves_position h).get?_file

/-- A path that denotes a file in one tree ends in a name, so in every tree it denotes what is
there. -/
theorem get?_position_of_file {tree' : FileTree} {content : ByteArray}
    (hfile : tree.node? path = some (.file content)) (hnode : tree'.node? path = some node) :
    tree'.root.get? (tree'.position path) = some node := by
  obtain ⟨-, -, -, hfollow⟩ := descend_eq_ok (node?_eq_some.1 hfile)
  obtain ⟨-, -, -, hfollow'⟩ := descend_eq_ok (node?_eq_some.1 hnode)
  rcases List.eq_nil_or_concat' (Path.pieces path.text.toList) with hnil | ⟨front, last, hpieces⟩
  · exact absurd hnil (Path.pieces_ne_nil _)
  · rw [hpieces] at hfollow hfollow'
    exact get?_of_follow (ne_of_follow_file hfollow) (Node.leaves_directoryAt _ _) hfollow'

/-- What a path denotes in a well-formed tree is well-formed. -/
theorem WellFormed.node? (h : tree.WellFormed) (hnode : tree.node? path = some node) :
    node.WellFormed :=
  (leaves_position hnode).wellFormed h

/-- Two spellings of a path that both denote files denote the same file. -/
theorem node?_congr {a b : Path} {content content' : ByteArray} (hsame : a.same b = true)
    (ha : tree.node? a = some (.file content)) (hb : tree.node? b = some (.file content')) :
    content = content' := by
  have hnode := get?_position ha
  rw [position_congr tree hsame, get?_position hb] at hnode
  cases hnode
  rfl

theorem text_ne_empty (h : tree.node? path = some node) : path.text ≠ "" := by
  obtain ⟨-, hempty, -⟩ := descend_eq_ok (node?_eq_some.1 h)
  exact hempty

theorem isFile_iff :
    tree.isFile path = true ↔ ∃ content, tree.node? path = some (.file content) := by
  rw [isFile]
  split
  · rename_i content hnode
    exact ⟨fun _ => ⟨content, hnode⟩, fun _ => rfl⟩
  · rename_i hnode
    refine ⟨nofun, ?_⟩
    rintro ⟨content, h⟩
    exact absurd h (hnode content)

theorem isDirectory_iff :
    tree.isDirectory path = true ↔ ∃ entries, tree.node? path = some (.directory entries) := by
  rw [isDirectory]
  split
  · rename_i entries hnode
    exact ⟨fun _ => ⟨entries, hnode⟩, fun _ => rfl⟩
  · rename_i hnode
    refine ⟨nofun, ?_⟩
    rintro ⟨entries, h⟩
    exact absurd h (hnode entries)

theorem text_length (h : tree.node? path = some node) : path.text.utf8ByteSize < pathLimit := by
  obtain ⟨-, -, hlength, -⟩ := descend_eq_ok (node?_eq_some.1 h)
  exact hlength

theorem readText_eq_ok {text : String} : tree.readText path = .ok text ↔
    ∃ content, tree.node? path = some (.file content) ∧ String.fromUTF8? content = some text := by
  rw [readText, node?]
  cases tree.locate path with
  | error error =>
    constructor
    · intro h
      cases h
    · rintro ⟨content, h, -⟩
      cases h
  | ok found =>
    obtain ⟨position, node⟩ := found
    cases node with
    | directory entries =>
      constructor
      · intro h
        cases h
      · rintro ⟨content, h, -⟩
        cases h
    | file content =>
      simp only [bind, Except.bind, Option.some.injEq, Node.file.injEq, exists_eq_left']
      cases String.fromUTF8? content with
      | none => exact ⟨nofun, nofun⟩
      | some text' => simp

/-! ### Below a directory -/

theorem isAbsolute_join {a b : Path} (hb : b.isAbsolute = false) (ha : a.text ≠ "") :
    (a.join b).isAbsolute = a.isAbsolute := by
  obtain ⟨c, cs, hcs⟩ := List.exists_cons_of_ne_nil (mt String.toList_eq_nil_iff.1 ha)
  rcases Path.join_text hb ha with ⟨front, hfront, hjoin⟩ | hjoin
  · rw [Path.isAbsolute, Path.isAbsolute, hjoin, hfront]
    cases front <;> rfl
  · rw [Path.isAbsolute, Path.isAbsolute, hjoin, hcs]
    rfl

theorem position_join {names : List String} (hpath : path.text ≠ "") (hne : names ≠ [])
    (hnames : ∀ name ∈ names, Path.EntryName name) :
    tree.position (path.join (Path.ofNames names)) = tree.position path ++ names := by
  have habs := Path.EntryName.isAbsolute_ofNames hnames
  rw [position_eq, position_eq, Path.steps_join habs hpath, List.foldl_append,
    Path.EntryName.steps_ofNames hne hnames, foldl_goFrom_names, start, start,
    isAbsolute_join habs hpath]

/-- A slash in front of other pieces is followed for nothing. -/
theorem follow_blank_bind {root : Node} {pieces : List (List Char)} (hne : pieces ≠ [])
    (found : List String × Node) :
    ((follow root [[]] found.1 found.2).bind fun (position, node) =>
      follow root pieces position node) = follow root pieces found.1 found.2 := by
  obtain ⟨piece, rest, rfl⟩ := List.exists_cons_of_ne_nil hne
  obtain ⟨position, node⟩ := found
  cases node with
  | file content => rfl
  | directory entries =>
    rw [follow, if_pos (.inl rfl)]
    rfl

theorem no_null_ofNames {names : List String} (hnames : ∀ name ∈ names, FileName name) :
    '\x00' ∉ (Path.ofNames names).text.toList := by
  induction names with
  | nil => simp [Path.ofNames]
  | cons name names ih =>
    obtain ⟨hname, hnames⟩ := List.forall_mem_cons.1 hnames
    by_cases hnil : names = []
    · simpa [hnil, Path.ofNames] using hname.no_null
    · simpa [Path.ofNames_cons hnil] using ⟨hname.no_null, ih hnames⟩

theorem no_null_join {a b : Path} (hb : b.isAbsolute = false) (ha : a.text ≠ "")
    (hnb : '\x00' ∉ b.text.toList) :
    '\x00' ∈ (a.join b).text.toList ↔ '\x00' ∈ a.text.toList := by
  rcases Path.join_text hb ha with ⟨front, hfront, hjoin⟩ | hjoin
  · simp [hfront, hjoin, hnb]
  · simp [hjoin, hnb]

/-- The path that names the entries on the way down from a directory is looked up from there, unless
it is too long. -/
theorem locate_join {names : List String} (hne : names ≠ [])
    (hnames : ∀ name ∈ names, FileName name) (hpath : path.text ≠ "")
    (hshort : (path.join (Path.ofNames names)).text.utf8ByteSize < pathLimit) :
    tree.locate (path.join (Path.ofNames names)) =
      (tree.locate path).bind fun (position, node) =>
        follow tree.root (names.map String.toList) position node := by
  have habs := Path.EntryName.isAbsolute_ofNames fun name hn => (hnames name hn).toEntryName
  have hpieces : Path.pieces (Path.ofNames names).text.toList = names.map String.toList :=
    Path.pieces_ofNames hne fun name hn => (hnames name hn).no_slash
  have hdown (first : Node) :
      follow tree.root (Path.pieces (path.join (Path.ofNames names)).text.toList)
        (tree.start path) first =
      (follow tree.root (Path.pieces path.text.toList) (tree.start path) first).bind
        fun (position, node) => follow tree.root (names.map String.toList) position node := by
    rcases Path.join_text habs hpath with ⟨front, hfront, htext⟩ | htext
    · -- the slash in the end of the path leaves a blank piece
      rw [htext, hfront, Path.pieces_append_slash, Path.pieces_append_slash, hpieces,
        follow_append, follow_append]
      cases follow tree.root (Path.pieces front) (tree.start path) first with
      | error error => rfl
      | ok found => exact (follow_blank_bind (mt List.map_eq_nil_iff.1 hne) found).symm
    · rw [htext, Path.pieces_append_slash, hpieces, follow_append]
  have hnull := no_null_join habs hpath (no_null_ofNames hnames)
  have hnonempty : (path.join (Path.ofNames names)).text ≠ "" := by
    rw [Ne, ← String.toList_eq_nil_iff]
    rcases Path.join_text habs hpath with ⟨front, -, htext⟩ | htext <;> simp [htext]
  have hstart : tree.start (path.join (Path.ofNames names)) = tree.start path := by
    rw [start, start, isAbsolute_join habs hpath]
  have hshort' : path.text.utf8ByteSize < pathLimit :=
    (Nat.le_add_right _ _).trans_lt ((Path.size_le_join habs).trans_lt hshort)
  rw [locate, locate, descend, descend, hstart]
  by_cases hzero : '\x00' ∈ path.text.toList
  · rw [if_pos (hnull.2 hzero), if_pos hzero]
    rfl
  · rw [if_neg (mt hnull.1 hzero), if_neg hzero, if_neg (mt String.isEmpty_iff.1 hnonempty),
      if_neg (mt String.isEmpty_iff.1 hpath), if_neg (Nat.not_le.2 hshort),
      if_neg (Nat.not_le.2 hshort')]
    exact hdown _

/-- The path that names the entries on the way down from a directory denotes what is there, unless
it is too long. -/
theorem node?_join {entries : List (String × Node)} {names : List String} {child : Node}
    (hdir : tree.node? path = some (.directory entries)) (hne : names ≠ [])
    (hnames : ∀ name ∈ names, FileName name)
    (hchild : (Node.directory entries).get? names = some child) :
    tree.node? (path.join (Path.ofNames names)) =
      if (path.join (Path.ofNames names)).text.utf8ByteSize < pathLimit then some child
      else none := by
  by_cases hshort : (path.join (Path.ofNames names)).text.utf8ByteSize < pathLimit
  · rw [if_pos hshort, node?, locate_join hne hnames (text_ne_empty hdir) hshort,
      node?_eq_some.1 hdir]
    simp only [Except.bind, follow_names _ hnames hchild]
  · rw [if_neg hshort, Option.eq_none_iff_forall_ne_some]
    exact fun node hnode => hshort (text_length hnode)

/-! ### Slashes in the end -/

theorem follow_blanks (root : Node) (position : List String) (entries : List (String × Node))
    (n : ℕ) : follow root (List.replicate n []) position (.directory entries) =
      .ok (position, .directory entries) := by
  induction n with
  | zero => rfl
  | succ n ih => rw [List.replicate_succ, follow, if_pos (.inl rfl), ih]

theorem utf8ByteSize_slashes (n : ℕ) :
    (String.ofList (List.replicate n '/')).utf8ByteSize = n := by
  rw [String.utf8ByteSize_ofList]
  induction n with
  | zero => rfl
  | succ n ih => rw [List.replicate_succ, String.utf8Len_cons, ih]; rfl

/-- A directory is also denoted with more slashes in the end, as long as there are not too many. -/
theorem node?_slashes {entries : List (String × Node)} {n : ℕ}
    (hdir : tree.node? path = some (.directory entries))
    (hlength : path.text.utf8ByteSize + n < pathLimit) :
    tree.node? ⟨path.text ++ String.ofList (List.replicate n '/')⟩ =
      some (.directory entries) := by
  obtain ⟨hnull, hempty, -, hfollow⟩ := descend_eq_ok (node?_eq_some.1 hdir)
  have hnull' : '\x00' ∉ (path.text ++ String.ofList (List.replicate n '/')).toList := by
    simpa using hnull
  have hempty' : (path.text ++ String.ofList (List.replicate n '/')).isEmpty = false := by
    simp [hempty]
  have hstart : tree.start ⟨path.text ++ String.ofList (List.replicate n '/')⟩ =
      tree.start path := by
    obtain ⟨c, cs, hcs⟩ := List.exists_cons_of_ne_nil (mt String.toList_eq_nil_iff.1 hempty)
    simp [start, Path.isAbsolute, hcs]
  have hshort : ¬ (path.text ++ String.ofList (List.replicate n '/')).utf8ByteSize ≥ pathLimit := by
    rw [String.utf8ByteSize_append, utf8ByteSize_slashes]
    omega
  rw [node?, locate, descend, if_neg hnull', hempty', if_neg Bool.false_ne_true, if_neg hshort,
    hstart, String.toList_append, String.toList_ofList, Path.pieces_append_slashes]
  simp only [follow_append, hfollow, Except.bind, follow_blanks]

end FileTree

end ReturnPaths
