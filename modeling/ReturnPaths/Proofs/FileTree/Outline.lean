import ReturnPaths.Analysis.Units
import ReturnPaths.Proofs.FileTree.Location

/-!
# Outlines of trees

The outline of a tree has the same directories and files, but the files are empty.  Where a path
leads and which units there are can be told from the outline alone: trees with the same outline
differ at most in what is read from their files.
-/

namespace ReturnPaths

namespace Node

mutual

/-- The node with all files emptied. -/
def outline : Node → Node
  | file _ => file ByteArray.empty
  | directory entries => directory (outlineIn entries)

/-- The entries with all files emptied. -/
def outlineIn : List (String × Node) → List (String × Node)
  | [] => []
  | (name, node) :: rest => (name, outline node) :: outlineIn rest

end

@[simp] theorem outline_file (content : ByteArray) :
    (file content).outline = file ByteArray.empty := by rw [outline]

@[simp] theorem outline_directory (entries : List (String × Node)) :
    (directory entries).outline = directory (outlineIn entries) := by rw [outline]

theorem entries_outline (node : Node) : node.outline.entries = outlineIn node.entries := by
  cases node with
  | file content => rw [outline_file, entries, entries, outlineIn]
  | directory entries => rw [outline_directory, Node.entries, Node.entries]

theorem lookup_outlineIn (entries : List (String × Node)) (name : String) :
    (outlineIn entries).lookup name = (entries.lookup name).map outline := by
  induction entries with
  | nil => rfl
  | cons entry rest ih =>
    obtain ⟨other, node⟩ := entry
    rw [outlineIn, List.lookup_cons, List.lookup_cons, ih]
    cases name == other <;> rfl

theorem get?_outline (names : List String) (node : Node) :
    node.outline.get? names = (node.get? names).map outline := by
  induction names generalizing node with
  | nil => rw [get?_nil, get?_nil, Option.map_some]
  | cons name names ih =>
    rw [get?_cons, get?_cons, entries_outline, lookup_outlineIn]
    cases node.entries.lookup name with
    | none => rfl
    | some child => exact ih child

theorem directory?_outline (position : List String) (root : Node) :
    root.outline.directory? position = (root.directory? position).map outlineIn := by
  rw [directory?, directory?, get?_outline]
  cases root.get? position with
  | none => rfl
  | some node => cases node <;> simp

theorem directoryAt_outline (position : List String) (root : Node) :
    root.outline.directoryAt position = (root.directoryAt position).outline := by
  rw [directoryAt, directoryAt, directory?_outline, outline_directory]
  cases root.directory? position <;> rfl

mutual

theorem files_outline : (node : Node) → node.outline.files = node.files
  | file content => by rw [outline_file, files, files]
  | directory entries => by rw [outline_directory, files, files, filesIn_outlineIn entries]

theorem filesIn_outlineIn : (entries : List (String × Node)) →
    filesIn (outlineIn entries) = filesIn entries
  | [] => by rw [outlineIn]
  | (name, node) :: rest => by
    rw [outlineIn, filesIn, filesIn, files_outline node, filesIn_outlineIn rest]

end

end Node

namespace FileTree

/-- The tree with all files emptied. -/
def outline (tree : FileTree) : FileTree := { tree with root := tree.root.outline }

theorem lengthError_outline (root : Node) (position : List String) :
    lengthError root.outline position = lengthError root position := by
  rw [lengthError, lengthError, Node.directory?_outline]
  cases root.directory? position <;> rfl

theorem follow_outline (root : Node) (pieces : List (List Char)) (position : List String)
    (node : Node) :
    follow root.outline pieces position node.outline =
      (follow root pieces position node).map fun (position, node) => (position, node.outline) := by
  fun_induction follow root pieces position node with
  | case1 position node => rfl
  | case2 => rw [Node.outline_file, follow]; rfl
  | case3 piece rest position entries hblank ih =>
    rw [Node.outline_directory] at ih
    rw [Node.outline_directory, follow, if_pos hblank, ih]
  | case4 rest position entries hblank ih =>
    rw [Node.outline_directory, follow, if_neg hblank, if_pos rfl, Node.directoryAt_outline, ih]
  | case5 piece rest position entries hblank hdots name hlong =>
    rw [Node.outline_directory, follow, if_neg hblank, if_neg hdots, if_pos hlong,
      lengthError_outline]
    rfl
  | case6 piece rest position entries hblank hdots name hlong child hlookup ih =>
    rw [Node.outline_directory, follow, if_neg hblank, if_neg hdots, if_neg hlong,
      Node.lookup_outlineIn, hlookup]
    exact ih
  | case7 piece rest position entries hblank hdots name hlong hlookup =>
    rw [Node.outline_directory, follow, if_neg hblank, if_neg hdots, if_neg hlong,
      Node.lookup_outlineIn, hlookup]
    rfl

theorem locate_outline (tree : FileTree) (path : Path) :
    tree.outline.locate path =
      (tree.locate path).map fun (position, node) => (position, node.outline) := by
  have hstart : tree.outline.start path = tree.start path := rfl
  have hroot : tree.outline.root = tree.root.outline := rfl
  rw [locate, locate, descend, descend, hstart, hroot, Node.directoryAt_outline]
  split_ifs
  · rfl
  · rfl
  · rfl
  · exact follow_outline tree.root _ _ _

theorem node?_outline (tree : FileTree) (path : Path) :
    tree.outline.node? path = (tree.node? path).map Node.outline := by
  rw [node?, node?, locate_outline]
  cases tree.locate path <;> rfl

theorem isFile_outline (tree : FileTree) (path : Path) :
    tree.outline.isFile path = tree.isFile path := by
  rw [isFile, isFile, node?_outline]
  cases tree.node? path with
  | none => rfl
  | some node => cases node <;> simp

theorem isDirectory_outline (tree : FileTree) (path : Path) :
    tree.outline.isDirectory path = tree.isDirectory path := by
  rw [isDirectory, isDirectory, node?_outline]
  cases tree.node? path with
  | none => rfl
  | some node => cases node <;> simp

theorem denotes_outline (tree : FileTree) (path : Path) :
    tree.outline.denotes path = tree.denotes path := by
  rw [denotes, denotes, node?_outline, Option.isSome_map]

theorem workingDirectory_congr {tree tree' : FileTree} (houtline : tree'.outline = tree.outline) :
    tree'.workingDirectory = tree.workingDirectory := by
  have hworking := congrArg FileTree.workingDirectory houtline
  exact hworking

theorem currentDirectory_outline (tree : FileTree) :
    tree.outline.currentDirectory = tree.currentDirectory := by
  have hdirectory : tree.outline.root.directory? tree.workingDirectory =
      (tree.root.directory? tree.workingDirectory).map Node.outlineIn :=
    Node.directory?_outline _ _
  refine currentDirectory_eq rfl ?_
  simp only [← Node.directory?_eq_some, hdirectory]
  cases tree.root.directory? tree.workingDirectory <;> simp

theorem currentDirectory_congr {tree tree' : FileTree} (houtline : tree'.outline = tree.outline) :
    tree'.currentDirectory = tree.currentDirectory := by
  rw [← currentDirectory_outline, houtline, currentDirectory_outline]

/-- What paths denote anything can be told from the outline. -/
theorem denotes_congr {tree tree' : FileTree} (houtline : tree'.outline = tree.outline)
    (path : Path) : tree'.denotes path = tree.denotes path := by
  rw [← denotes_outline, houtline, denotes_outline]

/-- What is read from a file can be told from the outline and from what is at its position. -/
theorem readText_congr {tree tree' : FileTree} {path : Path}
    (houtline : tree'.outline = tree.outline)
    (hcontent : ∀ content, tree'.root.get? (tree.position path) = some (.file content) ↔
      tree.root.get? (tree.position path) = some (.file content)) :
    tree'.readText path = tree.readText path := by
  have hlocate : (tree'.locate path).map (fun (position, node) => (position, node.outline)) =
      (tree.locate path).map fun (position, node) => (position, node.outline) := by
    rw [← locate_outline, ← locate_outline, houtline]
  rw [readText, readText]
  cases hold : tree.locate path with
  | error error =>
    cases hnew : tree'.locate path with
    | error error' =>
      rw [hold, hnew] at hlocate
      cases hlocate
      rfl
    | ok found => rw [hold, hnew] at hlocate; cases hlocate
  | ok found =>
    cases hnew : tree'.locate path with
    | error error' => rw [hold, hnew] at hlocate; cases hlocate
    | ok found' =>
      obtain ⟨position, node⟩ := found
      obtain ⟨position', node'⟩ := found'
      rw [hold, hnew] at hlocate
      obtain ⟨hposition, houtline⟩ : position' = position ∧ node'.outline = node.outline := by
        simpa [Except.map] using hlocate
      obtain ⟨rfl, hleaves⟩ := locate_eq_ok hold
      have hleaves' := (locate_eq_ok hnew).2
      rw [hposition] at hleaves'
      cases node with
      | directory entries =>
        cases node' with
        | directory entries' => rfl
        | file content => simp at houtline
      | file content =>
        cases node' with
        | directory entries => simp at houtline
        | file content' =>
          have hget' := hleaves'.get?_file
          rw [(hcontent content).2 hleaves.get?_file] at hget'
          cases hget'
          rfl

end FileTree

/-- Which units there are can be told from the outline of the tree. -/
theorem collectUnits_outline (config : Config) (files : FileTree) (paths : List Path) :
    collectUnits config files.outline paths = collectUnits config files paths := by
  have hat : unitsAt config files.outline = unitsAt config files := by
    funext path
    have hfile : files.outline.isFile = files.isFile := funext fun path => files.isFile_outline path
    rw [unitsAt, unitsAt, files.node?_outline, hfile]
    cases files.node? path with
    | none => rfl
    | some node =>
      cases node with
      | file content => simp
      | directory entries =>
        have hbelow : unitsBelow config (Node.directory entries).outline =
            unitsBelow config (.directory entries) := by
          rw [unitsBelow, Node.files_outline, unitsBelow]
        rw [Node.outline_directory] at hbelow
        simp [hbelow]
  rw [collectUnits, collectUnits, hat]

end ReturnPaths
