import ReturnPaths.FileTree.Basic
import ReturnPaths.Proofs.Path.Pieces
import Mathlib.Data.List.Nodup

/-!
# Well-formed file trees

The entries of a directory have distinct names, and every name is one that the system accepts.  In
such a tree a position leads to at most one file, and the files listed below a directory are those
that a position leads to (`Node.mem_files`), each once (`Node.nodup_files`).
-/

namespace ReturnPaths

/-- A name that the system accepts for a file or a directory. -/
structure FileName (name : String) : Prop extends Path.EntryName name where
  /-- A null character ends a text that is handed to the system. -/
  no_null : '\x00' ∉ name.toList
  /-- Names have a greatest length. -/
  short : name.utf8ByteSize ≤ FileTree.nameLimit

instance (name : String) : Decidable (FileName name) :=
  decidable_of_iff (Path.EntryName name ∧ '\x00' ∉ name.toList ∧
      name.utf8ByteSize ≤ FileTree.nameLimit)
    ⟨fun ⟨hentry, hnull, hshort⟩ => ⟨hentry, hnull, hshort⟩,
      fun h => ⟨h.toEntryName, h.no_null, h.short⟩⟩

namespace Node

/-- In every directory at or below the node the names are acceptable and distinct. -/
def WellFormed (node : Node) : Prop :=
  ∀ position entries, node.get? position = some (.directory entries) →
    (∀ entry ∈ entries, FileName entry.1) ∧ (entries.map Prod.fst).Nodup

theorem get?_nil (node : Node) : node.get? [] = some node := by rw [get?]

theorem get?_cons (node : Node) (name : String) (names : List String) :
    node.get? (name :: names) = (node.entries.lookup name).bind (get? names) := by rw [get?]

theorem get?_append (node : Node) (names names' : List String) :
    node.get? (names ++ names') = (node.get? names).bind (get? names') := by
  induction names generalizing node with
  | nil => rfl
  | cons name names ih =>
    rw [List.cons_append, get?_cons, get?_cons]
    cases node.entries.lookup name with
    | none => rfl
    | some child => exact ih child

theorem get?_concat {node : Node} {names : List String} {entries : List (String × Node)}
    (h : node.get? names = some (.directory entries)) (name : String) :
    node.get? (names ++ [name]) = entries.lookup name := by
  rw [get?_append, h, Option.bind_some, get?_cons, Node.entries]
  cases entries.lookup name <;> rfl

/-- A file has nothing below it. -/
theorem eq_nil_of_get?_file {content : ByteArray} {names : List String} {node : Node}
    (h : (Node.file content).get? names = some node) : names = [] := by
  cases names with
  | nil => rfl
  | cons name names => rw [get?_cons] at h; cases h

/-- A directory is not a file, so a file is below it. -/
theorem ne_nil_of_get?_directory {entries : List (String × Node)} {names : List String}
    {content : ByteArray} (h : (directory entries).get? names = some (file content)) :
    names ≠ [] := by
  rintro rfl
  cases h

theorem directory?_eq_some {root : Node} {position : List String}
    {entries : List (String × Node)} :
    root.directory? position = some entries ↔ root.get? position = some (.directory entries) := by
  rw [directory?]
  split
  · rename_i entries' hget
    rw [hget, Option.some.injEq, Option.some.injEq, Node.directory.injEq]
  · rename_i hnot
    exact iff_of_false nofun (hnot entries)

variable {node child : Node} {names : List String}

theorem WellFormed.get? (h : node.WellFormed) (hchild : node.get? names = some child) :
    child.WellFormed := by
  intro position entries hentries
  refine h (names ++ position) entries ?_
  rw [get?_append, hchild, Option.bind_some, hentries]

theorem mem_of_lookup {entries : List (String × Node)} {name : String}
    (h : entries.lookup name = some child) : (name, child) ∈ entries := by
  obtain ⟨before, after, rfl, -⟩ := List.lookup_eq_some_iff.1 h
  simp

theorem lookup_of_mem {entries : List (String × Node)} {name : String}
    (hdistinct : (entries.map Prod.fst).Nodup) (h : (name, child) ∈ entries) :
    entries.lookup name = some child := by
  obtain ⟨before, after, rfl⟩ := List.append_of_mem h
  refine List.lookup_eq_some_iff.2 ⟨before, after, rfl, fun entry hentry => ?_⟩
  rw [List.map_append, List.nodup_append] at hdistinct
  have hne := hdistinct.2.2 entry.1 (List.mem_map_of_mem hentry) name (by simp)
  simpa using hne.symm

theorem WellFormed.of_mem {entries : List (String × Node)} (h : (directory entries).WellFormed)
    {entry : String × Node} (hentry : entry ∈ entries) : entry.2.WellFormed := by
  have hget : (directory entries).get? [entry.1] = some entry.2 := by
    rw [get?_cons, Node.entries, lookup_of_mem (h [] entries (get?_nil _)).2 hentry]
    rfl
  exact h.get? hget

theorem WellFormed.fileName (h : node.WellFormed) (hchild : node.get? names = some child) :
    ∀ name ∈ names, FileName name := by
  induction names generalizing node with
  | nil => simp
  | cons name names ih =>
    rw [get?_cons] at hchild
    obtain ⟨next, hlookup, hnext⟩ := Option.bind_eq_some_iff.1 hchild
    have hget : node.get? [name] = some next := by rw [get?_cons, hlookup]; rfl
    cases node with
    | file content => cases hlookup
    | directory entries =>
      have hname := (h [] entries (get?_nil _)).1 (name, next) (mem_of_lookup hlookup)
      exact List.forall_mem_cons.2 ⟨hname, ih (h.get? hget) hnext⟩

theorem WellFormed.entryName (h : node.WellFormed) (hchild : node.get? names = some child) :
    ∀ name ∈ names, Path.EntryName name :=
  fun name hname => (h.fileName hchild name hname).toEntryName

theorem wellFormed_file (content : ByteArray) : (Node.file content).WellFormed := by
  intro position entries h
  rw [eq_nil_of_get?_file h, get?_nil] at h
  cases h

theorem wellFormed_directory {entries : List (String × Node)}
    (hentries : ∀ entry ∈ entries, FileName entry.1 ∧ entry.2.WellFormed)
    (hdistinct : (entries.map Prod.fst).Nodup) : (directory entries).WellFormed := by
  intro position entries' h
  cases position with
  | nil =>
    rw [get?_nil] at h
    cases h
    exact ⟨fun entry hentry => (hentries entry hentry).1, hdistinct⟩
  | cons name position =>
    rw [get?_cons] at h
    obtain ⟨child, hlookup, hchild⟩ := Option.bind_eq_some_iff.1 h
    exact (hentries _ (mem_of_lookup hlookup)).2 position entries' hchild

mutual

/-- The files listed at and below a node are those that a position leads to. -/
theorem mem_files : (node : Node) → node.WellFormed → ∀ names : List String,
    names ∈ node.files ↔ ∃ content, node.get? names = some (.file content)
  | file content, _, names => by
    rw [files, List.mem_singleton]
    constructor
    · rintro rfl
      exact ⟨content, get?_nil _⟩
    · rintro ⟨other, h⟩
      exact eq_nil_of_get?_file h
  | directory entries, h, names => by
    obtain ⟨-, hdistinct⟩ := h [] entries (get?_nil _)
    rw [files, mem_filesIn entries fun entry hentry => h.of_mem hentry]
    constructor
    · rintro ⟨name, child, rest, hmem, rfl, content, hcontent⟩
      exact ⟨content, by
        rw [get?_cons, Node.entries, lookup_of_mem hdistinct hmem, Option.bind_some, hcontent]⟩
    · rintro ⟨content, hcontent⟩
      cases names with
      | nil => rw [get?_nil] at hcontent; cases hcontent
      | cons name rest =>
        rw [get?_cons] at hcontent
        obtain ⟨child, hlookup, hrest⟩ := Option.bind_eq_some_iff.1 hcontent
        exact ⟨name, child, rest, mem_of_lookup hlookup, rfl, content, hrest⟩

theorem mem_filesIn : (entries : List (String × Node)) → (∀ entry ∈ entries, entry.2.WellFormed) →
    ∀ names : List String, names ∈ filesIn entries ↔ ∃ name child rest, (name, child) ∈ entries ∧
      names = name :: rest ∧ ∃ content, child.get? rest = some (.file content)
  | [], _, names => by simp [filesIn]
  | (name, child) :: entries, h, names => by
    obtain ⟨hchild, hentries⟩ := List.forall_mem_cons.1 h
    rw [filesIn, List.mem_append, mem_filesIn entries hentries]
    simp only [List.mem_map, mem_files child hchild]
    constructor
    · rintro (⟨rest, hcontent, rfl⟩ | ⟨name', child', rest, hmem, hnames, hcontent⟩)
      · exact ⟨name, child, rest, List.mem_cons_self, rfl, hcontent⟩
      · exact ⟨name', child', rest, List.mem_cons_of_mem _ hmem, hnames, hcontent⟩
    · rintro ⟨name', child', rest, hmem, rfl, hcontent⟩
      rcases List.mem_cons.1 hmem with heq | hmem
      · obtain ⟨rfl, rfl⟩ := Prod.mk.inj heq
        exact .inl ⟨rest, hcontent, rfl⟩
      · exact .inr ⟨name', child', rest, hmem, rfl, hcontent⟩

end

mutual

/-- Each file at or below a node is listed once. -/
theorem nodup_files : (node : Node) → node.WellFormed → node.files.Nodup
  | file content, _ => by
    rw [files]
    exact List.nodup_singleton []
  | directory entries, h => by
    rw [files]
    exact nodup_filesIn entries (h [] entries (get?_nil _)).2 fun entry hentry => h.of_mem hentry

theorem nodup_filesIn : (entries : List (String × Node)) → (entries.map Prod.fst).Nodup →
    (∀ entry ∈ entries, entry.2.WellFormed) → (filesIn entries).Nodup
  | [], _, _ => by
    rw [filesIn]
    exact List.nodup_nil
  | (name, child) :: entries, hdistinct, h => by
    obtain ⟨hchild, hentries⟩ := List.forall_mem_cons.1 h
    obtain ⟨hname, hdistinct⟩ := List.nodup_cons.1 hdistinct
    rw [filesIn, List.nodup_append]
    refine ⟨(nodup_files child hchild).map List.cons_injective,
      nodup_filesIn entries hdistinct hentries, fun names hnames other hother => ?_⟩
    obtain ⟨rest, -, rfl⟩ := List.mem_map.1 hnames
    obtain ⟨name', child', rest', hmem, rfl, -⟩ := (mem_filesIn entries hentries other).1 hother
    intro heq
    obtain ⟨rfl, -⟩ := List.cons.inj heq
    exact hname (List.mem_map.2 ⟨_, hmem, rfl⟩)

end

end Node

/-- The names in the whole tree are acceptable, and those in one directory are distinct. -/
def FileTree.WellFormed (tree : FileTree) : Prop := tree.root.WellFormed

end ReturnPaths
