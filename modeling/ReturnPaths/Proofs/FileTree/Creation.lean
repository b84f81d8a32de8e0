import ReturnPaths.Proofs.FileTree.Agreement
import ReturnPaths.Proofs.FileTree.Overwriting

/-!
# Creating and writing files

A file is created in a directory that is there, where there is no directory already, and nothing
else changes.  Where it is created can be told from what its path leads through.

* `FileTree.AgreeBut.createPosition_eq` : where a file is created in trees that agree.
* `FileTree.agreeBut_create` : a tree agrees with the tree in which a file has been created, but for
  this file.
* `FileTree.Alike.overwritten` : what is the same in two trees stays the same when the same is
  written in both.
-/

namespace ReturnPaths

namespace Node

/-! ### Putting a file into a directory -/

/-- What is where after a file was put at a position whose directory is there. -/
theorem content?_put? {node node' : Node} {position : List String} {content : ByteArray}
    (hnot : ∀ entries, node.get? position ≠ some (.directory entries))
    (hparent : (node.get? position.dropLast).isSome = true)
    (hput : put? (.file content) position node = some node') (other : List String) :
    (node'.get? other).map content? =
      if other = position then some (some content) else (node.get? other).map content? := by
  induction position generalizing node node' other with
  | nil =>
    cases node with
    | directory entries => exact absurd (get?_nil _) (hnot entries)
    | file old =>
      rw [put?] at hput
      cases hput
      cases other with
      | nil => rfl
      | cons name names => rfl
  | cons name names ih =>
    cases node with
    | file old => rw [put?] at hput; cases hput
    | directory entries =>
      rw [put?] at hput
      obtain ⟨child', hchild', rfl⟩ := Option.map_eq_some_iff.1 hput
      cases other with
      | nil => simp [get?_nil, content?]
      | cons name' names' =>
        rw [get?_cons, get?_cons, Node.entries, Node.entries]
        by_cases hname : name' = name
        · subst hname
          rw [lookup_setEntry_self, Option.bind_some]
          simp only [List.cons.injEq, true_and]
          cases hlookup : entries.lookup name' with
          | some child =>
            rw [hlookup, Option.getD_some] at hchild'
            refine ih (fun below hbelow => hnot below ?_) ?_ hchild' names'
            · rw [get?_cons, Node.entries, hlookup, Option.bind_some, hbelow]
            · cases names with
              | nil => rfl
              | cons next rest =>
                rwa [List.dropLast_cons_cons, get?_cons, Node.entries, hlookup,
                  Option.bind_some] at hparent
          | none =>
            -- the directory is there, so this is the last name of the position
            cases names with
            | nil =>
              rw [put?] at hchild'
              cases hchild'
              cases names' with
              | nil => rfl
              | cons next rest => rfl
            | cons next rest =>
              rw [List.dropLast_cons_cons, get?_cons, Node.entries, hlookup] at hparent
              cases hparent
        · rw [lookup_setEntry_of_ne hname, if_neg (by simp [hname])]

theorem mem_setEntry {name : String} {node : Node} {entries : List (String × Node)}
    {entry : String × Node} (h : entry ∈ setEntry name node entries) :
    entry = (name, node) ∨ entry ∈ entries := by
  induction entries with
  | nil => exact .inl (List.mem_singleton.1 h)
  | cons first rest ih =>
    obtain ⟨other, old⟩ := first
    rw [setEntry] at h
    split_ifs at h
    · rcases List.mem_cons.1 h with h | h
      · exact .inl h
      · exact .inr (List.mem_cons_of_mem _ h)
    · rcases List.mem_cons.1 h with rfl | h
      · exact .inr List.mem_cons_self
      · exact (ih h).imp_right (List.mem_cons_of_mem _)

theorem nodup_setEntry (name : String) (node : Node) {entries : List (String × Node)}
    (h : (entries.map Prod.fst).Nodup) : ((setEntry name node entries).map Prod.fst).Nodup := by
  induction entries with
  | nil => simp [setEntry]
  | cons first rest ih =>
    obtain ⟨other, old⟩ := first
    rw [List.map_cons, List.nodup_cons] at h
    rw [setEntry]
    split_ifs with hname
    · subst hname
      exact List.nodup_cons.2 h
    · refine List.nodup_cons.2 ⟨fun hmem => ?_, ih h.2⟩
      obtain ⟨entry, hentry, hother⟩ := List.mem_map.1 hmem
      rcases mem_setEntry hentry with rfl | hentry
      · exact hname hother.symm
      · exact h.1 (List.mem_map.2 ⟨entry, hentry, hother⟩)

theorem WellFormed.put? {new node node' : Node} {position : List String} (h : node.WellFormed)
    (hnew : new.WellFormed) (hnames : ∀ name ∈ position, FileName name)
    (hput : Node.put? new position node = some node') : node'.WellFormed := by
  induction position generalizing node node' with
  | nil =>
    rw [Node.put?] at hput
    cases hput
    exact hnew
  | cons name names ih =>
    cases node with
    | file old => rw [Node.put?] at hput; cases hput
    | directory entries =>
      rw [Node.put?] at hput
      obtain ⟨child', hchild', rfl⟩ := Option.map_eq_some_iff.1 hput
      obtain ⟨hname, hnames⟩ := List.forall_mem_cons.1 hnames
      obtain ⟨hentries, hdistinct⟩ := h [] entries (get?_nil _)
      have hchild : ((entries.lookup name).getD (directory [])).WellFormed := by
        cases hlookup : entries.lookup name with
        | some child => exact h.of_mem (mem_of_lookup hlookup)
        | none => exact wellFormed_directory (by simp) (by simp)
      refine wellFormed_directory (fun entry hentry => ?_) (nodup_setEntry name child' hdistinct)
      rcases mem_setEntry hentry with rfl | hentry
      · exact ⟨hname, ih hchild hnames hchild'⟩
      · exact ⟨hentries entry hentry, h.of_mem hentry⟩

end Node

namespace FileTree

variable {special : List String → Prop} {tree tree' : FileTree} {path : Path}
  {position : List String}

/-! ### Where a file is created -/

/-- The outcome of going down, without what is below the node that it ends at. -/
def seen (outcome : Except FileError (List String × Node)) :
    Except FileError (List String × Option ByteArray) :=
  outcome.map fun (position, node) => (position, node.content?)

theorem seen_eq {outcome outcome' : Except FileError (List String × Node)}
    (h : seen outcome' = seen outcome) :
    (∃ error, outcome = .error error ∧ outcome' = .error error) ∨
      ∃ position node node', outcome = .ok (position, node) ∧ outcome' = .ok (position, node') ∧
        node'.content? = node.content? := by
  cases outcome with
  | error error =>
    cases outcome' with
    | error error' => cases h; exact .inl ⟨_, rfl, rfl⟩
    | ok found' => cases h
  | ok found =>
    cases outcome' with
    | error error' => cases h
    | ok found' =>
      obtain ⟨hposition, hcontent⟩ := Prod.mk.inj (Except.ok.inj h)
      exact .inr ⟨found.1, found.2, found'.2, rfl, by rw [← hposition], hcontent⟩

theorem follow_one_eq_error {root node : Node} {piece : List Char} {error : FileError}
    (h : follow root [piece] position node = .error error) :
    error = if node.content?.isSome then .notDirectory
      else if (String.ofList piece).utf8ByteSize > nameLimit then lengthError root position
      else .notFound := by
  cases node with
  | file content =>
    rw [follow] at h
    cases h
    rfl
  | directory entries =>
    rw [follow] at h
    dsimp only at h
    split_ifs at h with hblank hpiece hlong
    · rw [follow] at h
      cases h
    · rw [follow] at h
      cases h
    · cases h
      simp [Node.content?, hlong]
    · split at h
      · rw [follow] at h
        cases h
      · cases h
        simp [Node.content?, hlong]

theorem seen_follow_one {root root' node node' : Node} {piece : List Char}
    (hnode : root.Leaves position node) (hnode' : root'.Leaves position node')
    (hhere : node'.content? = node.content?)
    (herror : lengthError root' position = lengthError root position)
    (h : reaches (follow root' [piece] position node') =
      reaches (follow root [piece] position node)) :
    seen (follow root' [piece] position node') = seen (follow root [piece] position node) := by
  cases hfollow : follow root [piece] position node with
  | error error =>
    cases hfollow' : follow root' [piece] position node' with
    | error error' =>
      rw [follow_one_eq_error hfollow, follow_one_eq_error hfollow', hhere, herror]
    | ok found => rw [hfollow, hfollow'] at h; cases h
  | ok found =>
    cases hfollow' : follow root' [piece] position node' with
    | error error' => rw [hfollow, hfollow'] at h; cases h
    | ok found' =>
      obtain ⟨last, child⟩ := found
      obtain ⟨last', child'⟩ := found'
      rw [hfollow, hfollow'] at h
      have hcontent : child'.content? = child.content? := Option.some.inj h
      have hlast : last' = last :=
        (follow_eq_ok hnode' hfollow').1.trans (follow_eq_ok hnode hfollow).1.symm
      simp only [seen, Except.map, hcontent, hlast]

/-- If all that is passed on the way is the same in both trees then the way ends at the same
position, or it fails for the same reason. -/
theorem seen_follow {root root' node node' : Node} {pieces : List (List Char)}
    (hnode : root.Leaves position node) (hnode' : root'.Leaves position node')
    (herror : lengthError root' = lengthError root)
    (h : ∀ front, front <+: pieces →
      reaches (follow root' front position node') = reaches (follow root front position node)) :
    seen (follow root' pieces position node') = seen (follow root pieces position node) := by
  induction pieces generalizing position node node' with
  | nil =>
    have hhere : node'.content? = node.content? := Option.some.inj (h [] List.prefix_rfl)
    simp only [follow, seen, Except.map, hhere]
  | cons piece rest ih =>
    have hhere : node'.content? = node.content? := Option.some.inj (h [] List.nil_prefix)
    have hone := seen_follow_one hnode hnode' hhere (congrFun herror position) (h [piece] (by simp))
    have hfront (front : List (List Char)) (hfront : front <+: rest) :=
      h ([piece] ++ front) (List.cons_prefix_cons.2 ⟨rfl, hfront⟩)
    have hsplit : piece :: rest = [piece] ++ rest := rfl
    rw [hsplit, follow_append, follow_append]
    simp only [follow_append] at hfront
    rcases seen_eq hone with ⟨error, hfollow, hfollow'⟩ |
      ⟨last, child, child', hfollow, hfollow', -⟩
    · rw [hfollow, hfollow']
      rfl
    · rw [hfollow, hfollow'] at hfront ⊢
      exact ih (follow_eq_ok hnode hfollow).2 (follow_eq_ok hnode' hfollow').2 hfront

theorem AgreeBut.seen_descend (hagree : AgreeBut special tree tree') {pieces : List (List Char)}
    (h : ∀ front, front <+: pieces → tree'.reached? path front = tree.reached? path front) :
    seen (tree'.descend path pieces) = seen (tree.descend path pieces) := by
  simp only [reached?, descend, hagree.start_eq] at h ⊢
  split_ifs at h ⊢
  · rfl
  · rfl
  · rfl
  · exact seen_follow (tree.root.leaves_directoryAt _) (tree'.root.leaves_directoryAt _)
      hagree.lengthError_eq h

theorem eq_append_of_dropWhile {α : Type} {list above : List α} {p : α → Bool} {last : α}
    (h : list.reverse.dropWhile p = last :: above) :
    list = above.reverse ++ [last] ++ (list.reverse.takeWhile p).reverse := by
  have hlist := congrArg List.reverse (List.takeWhile_append_dropWhile (p := p) (l := list.reverse))
  rw [h, List.reverse_append, List.reverse_cons, List.reverse_reverse] at hlist
  exact hlist.symm

theorem eq_concat_of_dropWhile {pieces above : List (List Char)} {last : List Char}
    (h : pieces.reverse.dropWhile (· = []) = last :: above)
    (hlength : pieces.length ≤ (last :: above).length) :
    pieces = above.reverse ++ [last] ∧ last ≠ [] := by
  have hpieces := eq_append_of_dropWhile h
  have hend : (pieces.reverse.takeWhile (· = [])).reverse = [] := by
    have hparts := congrArg List.length hpieces
    simp only [List.length_append, List.length_reverse, List.length_cons, List.length_nil]
      at hparts hlength
    exact List.eq_nil_of_length_eq_zero (by rw [List.length_reverse]; omega)
  rw [hend, List.append_nil] at hpieces
  have hlast := List.head?_dropWhile_not (fun piece => decide (piece = [])) pieces.reverse
  rw [h] at hlast
  exact ⟨hpieces, by simpa using hlast⟩

/-- **Where a file is created**: at the same position in both trees, or in neither for the same
reason, if all that its path leads through is the same. -/
theorem AgreeBut.createPosition_eq (h : AgreeBut special tree tree')
    (hpath : tree.SameThrough tree' path) :
    tree'.createPosition path = tree.createPosition path := by
  have hseen (front : List (List Char)) (hfront : front <+: Path.pieces path.text.toList) :
      seen (tree'.descend path front) = seen (tree.descend path front) :=
    h.seen_descend fun front' hfront' => hpath front' (hfront'.trans hfront)
  simp only [createPosition]
  cases hnamed : (Path.pieces path.text.toList).reverse.dropWhile (· = []) with
  | nil =>
    rcases seen_eq (hseen [] List.nil_prefix) with ⟨error, hdescend, hdescend'⟩ |
      ⟨position, node, node', hdescend, hdescend', -⟩
    · rw [hdescend, hdescend']
    · rw [hdescend, hdescend']
      rfl
  | cons last above =>
    have hfront : above.reverse <+: Path.pieces path.text.toList := by
      rw [eq_append_of_dropWhile hnamed, List.append_assoc]
      exact List.prefix_append _ _
    rcases seen_eq (hseen above.reverse hfront) with ⟨error, hdescend, hdescend'⟩ |
      ⟨position, node, node', hdescend, hdescend', hcontent⟩
    · simp only [hdescend, hdescend']
      rfl
    · simp only [hdescend, hdescend']
      cases node with
      | file content =>
        obtain rfl := Node.content?_eq_some.1 hcontent
        rfl
      | directory entries =>
        obtain ⟨entries', rfl⟩ := Node.content?_eq_none.1 hcontent
        -- only a directory stands in the way of a new file
        have hdirectory :
            (∃ below, entries'.lookup (String.ofList last) = some (.directory below)) ↔
              ∃ below, entries.lookup (String.ofList last) = some (.directory below) := by
          rw [← (descend_leaves hdescend).get?_concat, ← (descend_leaves hdescend').get?_concat]
          exact h.directory_iff
        simp only [bind, Except.bind, h.directory?_eq_none]
        split_ifs
        · rfl
        · rfl
        · rfl
        · split
          · rename_i below' hbelow'
            obtain ⟨below, hbelow⟩ := hdirectory.1 ⟨below', hbelow'⟩
            rw [hbelow]
          · rename_i hnot'
            split
            · rename_i below hbelow
              obtain ⟨below', hbelow'⟩ := hdirectory.2 ⟨below, hbelow⟩
              exact absurd hbelow' (hnot' below')
            · rfl

/-! ### The tree with a new file -/

/-- A piece of a path names an entry, unless it stands for none or is too long. -/
theorem fileName_ofList {piece : List Char} (hpiece : piece ∈ Path.pieces path.text.toList)
    (hnull : '\x00' ∉ path.text.toList) (hblank : piece ≠ []) (hdot : piece ≠ ['.'])
    (hdots : piece ≠ ['.', '.']) (hlength : (String.ofList piece).utf8ByteSize ≤ nameLimit) :
    FileName (String.ofList piece) := by
  have hchars := Path.mem_of_mem_pieces hpiece
  have hne {text : String} (h : piece ≠ text.toList) : String.ofList piece ≠ text := by
    rintro rfl
    exact h String.toList_ofList.symm
  refine ⟨⟨hne hblank, hne hdot, hne hdots, fun h => ?_⟩, fun h => ?_, hlength⟩
  · rw [String.toList_ofList] at h
    exact (hchars _ h).2 rfl
  · rw [String.toList_ofList] at h
    exact hnull (hchars _ h).1

/-- Where a file is created: in a directory that is there, under an acceptable name, and where the
path leads to already if there is something. -/
theorem createPosition_spec (h : tree.createPosition path = .ok position) :
    ∃ above entries name, position = above ++ [name] ∧
      tree.root.get? above = some (.directory entries) ∧ FileName name ∧
      (∀ below, entries.lookup name ≠ some (.directory below)) ∧
      ∀ node, entries.lookup name = some node → tree.locate path = .ok (position, node) := by
  simp only [createPosition] at h
  cases hnamed : (Path.pieces path.text.toList).reverse.dropWhile (· = []) with
  | nil =>
    rw [hnamed] at h
    cases hdescend : tree.descend path [] <;> rw [hdescend] at h <;> cases h
  | cons last above =>
    rw [hnamed] at h
    cases hdescend : tree.descend path above.reverse with
    | error error => simp only [hdescend] at h; cases h
    | ok found =>
      obtain ⟨directory, node⟩ := found
      obtain ⟨hnull, hempty, hlength, hfollow⟩ := descend_eq_ok hdescend
      simp only [hdescend] at h
      cases node with
      | file content => cases h
      | directory entries =>
        simp only [bind, Except.bind] at h
        split_ifs at h with hdots hthere hlong
        split at h
        · cases h
        · rename_i hnot
          cases h
          rw [not_or, not_or] at hdots
          obtain ⟨hdot, hdots, hblanks⟩ := hdots
          obtain ⟨hpieces, hblank⟩ := eq_concat_of_dropWhile hnamed (Nat.not_lt.1 hblanks)
          have hname : FileName (String.ofList last) :=
            fileName_ofList (by rw [hpieces]; simp) hnull hblank hdot hdots (Nat.not_lt.1 hlong)
          have hdir : tree.root.get? directory = some (.directory entries) :=
            (descend_leaves hdescend).resolve_right fun hleft => hthere hleft.1
          refine ⟨directory, entries, String.ofList last, rfl, hdir, hname, hnot, ?_⟩
          intro node hnode
          have hlast : follow tree.root ([String.ofList last].map String.toList) directory
              (.directory entries) = .ok (directory ++ [String.ofList last], node) :=
            follow_names directory (by simpa using hname)
              (by rw [Node.get?_cons, Node.entries, hnode]; rfl)
          rw [List.map_singleton, String.toList_ofList] at hlast
          refine descend_of_follow hnull hempty hlength ?_
          rw [hpieces, follow_append, hfollow]
          exact hlast

theorem finds_createPosition (h : tree.createPosition path = .ok position)
    (hsome : (tree.root.get? position).isSome = true) : tree.Finds path position := by
  obtain ⟨above, entries, name, rfl, hdir, -, -, hfinds⟩ := createPosition_spec h
  obtain ⟨node, hnode⟩ := Option.isSome_iff_exists.1 hsome
  have hlookup : entries.lookup name = some node := by rw [← Node.get?_concat hdir, hnode]
  exact ⟨node, hfinds node hlookup, hnode⟩

/-- If a path leads to the same in both trees then the entries are the same where a file is created
at it. -/
theorem SameAt.entry_createPosition (hpath : tree.SameAt tree' path)
    (hagree : AgreeBut special tree tree')
    (h : tree.createPosition path = .ok position)
    (h' : tree'.createPosition path = .ok position) :
    tree'.entryAt? position = tree.entryAt? position := by
  by_cases hsome : (tree.root.get? position).isSome = true
  · exact hpath.entry_eq hagree (finds_createPosition h hsome)
  by_cases hsome' : (tree'.root.get? position).isSome = true
  · exact (hpath.symm.entry_eq hagree.symm (finds_createPosition h' hsome')).symm
  · rw [Option.not_isSome_iff_eq_none] at hsome hsome'
    rw [entryAt?, entryAt?, hsome, hsome']

theorem create_eq_map (tree : FileTree) (path : Path) : tree.create path =
    (tree.createPosition path).map fun position =>
      (position, tree.put position (.file ByteArray.empty)) := by
  rw [create]
  cases tree.createPosition path <;> rfl

theorem create_eq (h : tree.create path = .ok (position, tree')) :
    tree.createPosition path = .ok position ∧
      tree' = tree.put position (.file ByteArray.empty) := by
  rw [create_eq_map] at h
  cases hposition : tree.createPosition path <;> rw [hposition] at h <;> cases h
  exact ⟨rfl, rfl⟩

theorem entryAt?_create (h : tree.create path = .ok (position, tree')) (other : List String) :
    tree'.entryAt? other =
      if other = position then some (some ByteArray.empty) else tree.entryAt? other := by
  obtain ⟨hposition, rfl⟩ := create_eq h
  obtain ⟨above, entries, name, rfl, hdir, -, hnot, -⟩ := createPosition_spec hposition
  obtain ⟨root, hput, -⟩ := Node.put?_concat hdir (.file ByteArray.empty) name
  rw [entryAt?, put, hput, Option.getD_some]
  refine Node.content?_put? (fun below hbelow => hnot below ?_) ?_ hput other
  · rw [← Node.get?_concat hdir, hbelow]
  · rw [List.dropLast_concat, hdir]
    rfl

theorem create_eq_ok (h : tree.create path = .ok (position, tree')) :
    tree'.root.get? position = some (.file ByteArray.empty) :=
  entryAt?_eq_file.1 (by rw [entryAt?_create h, if_pos rfl])

/-- **What creating a file changes**: there is an empty file at its position, and everything else is
as before. -/
theorem agreeBut_create (h : tree.create path = .ok (position, tree')) :
    AgreeBut (· = position) tree tree' where
  workingDirectory := by
    rw [(create_eq h).2]
    rfl
  entry other hother := by rw [entryAt?_create h, if_neg hother]
  not_directory other hother := by
    subst hother
    refine ⟨fun hentry => ?_, by rw [entryAt?_create h, if_pos rfl]; simp⟩
    obtain ⟨above, entries, name, rfl, hdir, -, hnot, -⟩ := createPosition_spec (create_eq h).1
    obtain ⟨below, hbelow⟩ := entryAt?_eq_directory.1 hentry
    rw [Node.get?_concat hdir] at hbelow
    exact hnot below hbelow

theorem wellFormed_create (hfiles : tree.WellFormed)
    (h : tree.create path = .ok (position, tree')) : tree'.WellFormed := by
  obtain ⟨hposition, rfl⟩ := create_eq h
  obtain ⟨above, entries, name, rfl, hdir, hname, -, -⟩ := createPosition_spec hposition
  obtain ⟨root, hput, -⟩ := Node.put?_concat hdir (.file ByteArray.empty) name
  rw [WellFormed, put, hput, Option.getD_some]
  have habove : ∀ other ∈ above, FileName other := Node.WellFormed.fileName hfiles hdir
  refine Node.WellFormed.put? hfiles (Node.wellFormed_file _) ?_ hput
  simpa [or_imp, forall_and] using ⟨habove, hname⟩

/-! ### Trees in which the same is written -/

/-- Looking a path up after the content of a file was replaced. -/
theorem locate_overwritten {root node : Node} {new : ByteArray} {other : List String}
    (hroot : Node.Overwritten position new tree.root root)
    (hlocate : tree.locate path = .ok (other, node)) :
    ∃ node', ({ tree with root } : FileTree).locate path = .ok (other, node') ∧
      node'.content? = node.content?.map fun old => if other = position then new else old := by
  have houtline : ({ tree with root } : FileTree).outline = tree.outline := by
    rw [outline, outline, hroot.outline]
  have hlater := locate_outline { tree with root } path
  rw [houtline, locate_outline, hlocate] at hlater
  cases hlocate' : ({ tree with root } : FileTree).locate path with
  | error error => rw [hlocate'] at hlater; cases hlater
  | ok found =>
    obtain ⟨other', node'⟩ := found
    rw [hlocate'] at hlater
    obtain ⟨rfl, hnode⟩ := Prod.mk.inj (Except.ok.inj hlater)
    refine ⟨node', rfl, ?_⟩
    cases node with
    | directory entries => cases node' <;> simp_all [Node.content?]
    | file old =>
      cases node' with
      | directory entries => simp_all
      | file content =>
        have hget := (locate_eq_ok hlocate).2.get?_file
        have hget' := (locate_eq_ok hlocate').2.get?_file
        rw [Node.content?, Node.content?, Option.map_some]
        split_ifs with hposition
        · subst hposition
          rw [hroot.content] at hget'
          cases hget'
          rfl
        · rw [(hroot.others _ hposition old).2 hget] at hget'
          cases hget'
          rfl

/-- A path stays the same in both trees when the same is written in both. -/
theorem Alike.overwritten {root root' : Node} {new : ByteArray} (h : tree.Alike tree' path)
    (hroot : Node.Overwritten position new tree.root root)
    (hroot' : Node.Overwritten position new tree'.root root') :
    ({ tree with root } : FileTree).Alike { tree' with root := root' } path := by
  obtain ⟨other, node, node', hlocate, hlocate', hcontent⟩ := h
  obtain ⟨later, hlater, hnew⟩ := locate_overwritten hroot hlocate
  obtain ⟨later', hlater', hnew'⟩ := locate_overwritten hroot' hlocate'
  exact ⟨other, later, later', hlater, hlater', by rw [hnew, hnew', hcontent]⟩

end FileTree

end ReturnPaths
