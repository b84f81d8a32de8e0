import ReturnPaths.Proofs.FileTree.Outline

/-!
# Overwriting files

Putting a file where a file is already, or where its directory is, changes nothing but what is at
this position.

* `Node.put?_file` : what becomes of a tree when the content of a file is replaced.
* `Node.put?_concat` : where a node is that is put into a directory.
-/

namespace ReturnPaths

namespace Node

/-! ### Setting an entry -/

theorem lookup_setEntry_self (name : String) (node : Node) (entries : List (String × Node)) :
    (setEntry name node entries).lookup name = some node := by
  induction entries with
  | nil => simp [setEntry]
  | cons entry rest ih =>
    obtain ⟨other, old⟩ := entry
    rw [setEntry]
    split_ifs with hname
    · simp
    · have hne : (name == other) = false := by simpa using Ne.symm hname
      rw [List.lookup_cons, hne]
      exact ih

theorem lookup_setEntry_of_ne {name name' : String} (hne : name' ≠ name) (node : Node)
    (entries : List (String × Node)) :
    (setEntry name node entries).lookup name' = entries.lookup name' := by
  induction entries with
  | nil => simp [setEntry, List.lookup_cons, beq_eq_false_iff_ne.2 hne]
  | cons entry rest ih =>
    obtain ⟨other, old⟩ := entry
    rw [setEntry]
    split_ifs with hname
    · subst hname
      simp [List.lookup_cons, beq_eq_false_iff_ne.2 hne]
    · rw [List.lookup_cons, List.lookup_cons, ih]

theorem outlineIn_setEntry {name : String} {node old : Node} {entries : List (String × Node)}
    (hold : entries.lookup name = some old) (hnode : node.outline = old.outline) :
    outlineIn (setEntry name node entries) = outlineIn entries := by
  induction entries with
  | nil => cases hold
  | cons entry rest ih =>
    obtain ⟨other, first⟩ := entry
    rw [setEntry]
    split_ifs with hname
    · subst hname
      rw [List.lookup_cons_self] at hold
      cases hold
      rw [outlineIn, outlineIn, hnode]
    · have hne : (name == other) = false := by simpa using Ne.symm hname
      rw [List.lookup_cons, hne] at hold
      rw [outlineIn, outlineIn, ih hold]

/-! ### Replacing the content of a file -/

/-- The second tree differs from the first one in nothing but the content of the file at a
position. -/
structure Overwritten (position : List String) (new : ByteArray) (node node' : Node) : Prop where
  /-- The file has the new content. -/
  content : node'.get? position = some (.file new)
  /-- There are the same directories and files. -/
  outline : node'.outline = node.outline
  /-- The other files have the content they had. -/
  others : ∀ other ≠ position, ∀ content,
    node'.get? other = some (.file content) ↔ node.get? other = some (.file content)

/-- Replacing the content of a file. -/
theorem put?_file {node : Node} {position : List String} {old : ByteArray}
    (hold : node.get? position = some (.file old)) (new : ByteArray) :
    ∃ node', put? (.file new) position node = some node' ∧ Overwritten position new node node' := by
  induction position generalizing node with
  | nil =>
    rw [get?_nil] at hold
    cases hold
    refine ⟨.file new, by rw [put?], ⟨by rw [get?_nil], by simp, ?_⟩⟩
    intro other hother content
    constructor <;> intro h <;> exact absurd (eq_nil_of_get?_file h) hother
  | cons name position ih =>
    rw [get?_cons] at hold
    obtain ⟨child, hlookup, hchild⟩ := Option.bind_eq_some_iff.1 hold
    cases node with
    | file content => cases hlookup
    | directory entries =>
      rw [Node.entries] at hlookup
      obtain ⟨child', hput, hcontent, houtline, hothers⟩ := ih hchild
      refine ⟨.directory (setEntry name child' entries), ?_, ⟨?_, ?_, ?_⟩⟩
      · rw [put?, hlookup, Option.getD_some, hput, Option.map_some]
      · rw [get?_cons, Node.entries, lookup_setEntry_self]
        exact hcontent
      · rw [outline_directory, outline_directory, outlineIn_setEntry hlookup houtline]
      · intro other hother content
        cases other with
        | nil => rw [get?_nil, get?_nil]; constructor <;> intro h <;> cases h
        | cons name' rest =>
          rw [get?_cons, get?_cons, Node.entries, Node.entries]
          by_cases hname : name' = name
          · subst hname
            rw [lookup_setEntry_self, hlookup, Option.bind_some, Option.bind_some]
            exact hothers rest (fun hrest => hother (by rw [hrest])) content
          · rw [lookup_setEntry_of_ne hname]

/-- Putting a node into a directory that is there. -/
theorem put?_concat {node : Node} {position : List String} {entries : List (String × Node)}
    (hdir : node.get? position = some (.directory entries)) (new : Node) (name : String) :
    ∃ node', put? new (position ++ [name]) node = some node' ∧
      node'.get? (position ++ [name]) = some new := by
  induction position generalizing node with
  | nil =>
    rw [get?_nil] at hdir
    cases hdir
    refine ⟨.directory (setEntry name new entries), ?_, ?_⟩
    · rw [List.nil_append, put?, put?, Option.map_some]
    · rw [List.nil_append, get?_cons, Node.entries, lookup_setEntry_self]
      exact get?_nil new
  | cons first position ih =>
    rw [get?_cons] at hdir
    obtain ⟨child, hlookup, hchild⟩ := Option.bind_eq_some_iff.1 hdir
    cases node with
    | file content => cases hlookup
    | directory entries' =>
      rw [Node.entries] at hlookup
      obtain ⟨child', hput, hget⟩ := ih hchild
      refine ⟨.directory (setEntry first child' entries'), ?_, ?_⟩
      · rw [List.cons_append, put?, hlookup, Option.getD_some, hput, Option.map_some]
      · rw [List.cons_append, get?_cons, Node.entries, lookup_setEntry_self]
        exact hget

end Node

end ReturnPaths
