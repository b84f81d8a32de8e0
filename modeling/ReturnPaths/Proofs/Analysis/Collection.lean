import ReturnPaths.Analysis.Units
import ReturnPaths.Proofs.FileTree.Location
import ReturnPaths.Proofs.Path.Order

/-!
# Which units are collected

The units for some paths are found path by path, sorted, and freed of paths that are the same as the
one before.  Since equal paths stand together in a sorted list, the result is strictly increasing.

* `IsUnit` : the units for one path, from what the tree holds at and below it.
* `collectUnits_exact` : when units are collected, and which; the only units left out are those
  whose whole path is too long to be looked up.
-/

namespace ReturnPaths

/-! ### Sequences of actions that may fail -/

section Sequences

variable {α β ε : Type} {action : α → Except ε β}

theorem mapM_eq_ok {list : List α} {results : List β} :
    list.mapM action = .ok results ↔ List.Forall₂ (fun a b => action a = .ok b) list results := by
  induction list generalizing results with
  | nil =>
    rw [List.mapM_nil, List.forall₂_nil_left_iff]
    constructor
    · intro h
      cases h
      rfl
    · rintro rfl
      rfl
  | cons a list ih =>
    rw [List.mapM_cons, List.forall₂_cons_left_iff]
    constructor
    · intro h
      cases ha : action a with
      | error error => rw [ha] at h; cases h
      | ok b =>
        cases hlist : list.mapM action with
        | error error => rw [ha, hlist] at h; cases h
        | ok bs =>
          rw [ha, hlist] at h
          cases h
          exact ⟨b, bs, rfl, ih.1 hlist, rfl⟩
    · rintro ⟨b, bs, ha, hlist, rfl⟩
      rw [ha, ih.2 hlist]
      rfl

theorem exists_of_forall₂ {relation : α → β → Prop} {as : List α} {bs : List β} {a : α}
    (h : List.Forall₂ relation as bs) (ha : a ∈ as) : ∃ b ∈ bs, relation a b := by
  induction h with
  | nil => cases ha
  | cons hab _ ih =>
    rcases List.mem_cons.1 ha with rfl | ha
    · exact ⟨_, List.mem_cons_self, hab⟩
    · obtain ⟨b, hb, hrelation⟩ := ih ha
      exact ⟨b, List.mem_cons_of_mem _ hb, hrelation⟩

/-- A sequence of actions fails with the error of the first one that fails. -/
theorem mapM_eq_error {list : List α} {error : ε} :
    list.mapM action = .error error ↔ ∃ before a after, list = before ++ a :: after ∧
      (∀ b ∈ before, ∃ result, action b = .ok result) ∧ action a = .error error := by
  induction list with
  | nil =>
    rw [List.mapM_nil]
    constructor
    · intro h
      cases h
    · rintro ⟨before, a, after, hlist, -⟩
      simp at hlist
  | cons a list ih =>
    rw [List.mapM_cons]
    cases ha : action a with
    | error error' =>
      constructor
      · intro h
        cases h
        exact ⟨[], a, list, rfl, by simp, ha⟩
      · rintro ⟨before, b, after, hlist, hbefore, hb⟩
        cases before with
        | nil =>
          obtain ⟨rfl, -⟩ := List.cons.inj hlist
          rw [ha] at hb
          cases hb
          rfl
        | cons c before =>
          obtain ⟨rfl, -⟩ := List.cons.inj hlist
          obtain ⟨result, hresult⟩ := hbefore a List.mem_cons_self
          rw [ha] at hresult
          cases hresult
    | ok result =>
      have hrest : (list.mapM action >>= fun results => pure (result :: results)) =
          .error error ↔ list.mapM action = .error error := by
        cases list.mapM action with
        | error error' => rfl
        | ok results => exact ⟨nofun, nofun⟩
      refine hrest.trans (ih.trans ⟨?_, ?_⟩)
      · rintro ⟨before, b, after, rfl, hbefore, hb⟩
        exact ⟨a :: before, b, after, rfl, List.forall_mem_cons.2 ⟨⟨result, ha⟩, hbefore⟩, hb⟩
      · rintro ⟨before, b, after, hlist, hbefore, hb⟩
        cases before with
        | nil =>
          obtain ⟨rfl, -⟩ := List.cons.inj hlist
          rw [ha] at hb
          cases hb
        | cons c before =>
          obtain ⟨-, rfl⟩ := List.cons.inj hlist
          exact ⟨before, b, after, rfl, (List.forall_mem_cons.1 hbefore).2, hb⟩

end Sequences

/-! ### Leaving out repeated paths -/

section Repeated

variable {paths : List Path} {path : Path}

theorem dropRepeated_cons (path : Path) (paths : List Path) :
    (dropRepeated (path :: paths) = path :: dropRepeated paths ∧
        ∀ next ∈ (dropRepeated paths).head?, path.same next = false) ∨
      ∃ next rest, dropRepeated paths = next :: rest ∧ path.same next = true ∧
        dropRepeated (path :: paths) = path :: rest := by
  rw [dropRepeated]
  cases dropRepeated paths with
  | nil => simp
  | cons next rest =>
    by_cases hsame : path.same next = true
    · exact .inr ⟨next, rest, rfl, hsame, if_pos hsame⟩
    · exact .inl ⟨if_neg hsame, by simpa using hsame⟩

theorem dropRepeated_subset : dropRepeated paths ⊆ paths := by
  induction paths with
  | nil => exact List.Subset.refl _
  | cons path paths ih =>
    rcases dropRepeated_cons path paths with ⟨hdrop, -⟩ | ⟨next, rest, hrest, -, hdrop⟩
    · rw [hdrop]
      exact List.cons_subset_cons path ih
    · rw [hrest] at ih
      rw [hdrop]
      exact List.cons_subset_cons path (List.subset_of_cons_subset ih)

theorem exists_same_dropRepeated :
    (∃ unit ∈ dropRepeated paths, unit.same path = true) ↔
      ∃ unit ∈ paths, unit.same path = true := by
  refine ⟨fun ⟨unit, hunit, hsame⟩ => ⟨unit, dropRepeated_subset hunit, hsame⟩, ?_⟩
  rintro ⟨unit, hunit, hsame⟩
  induction paths with
  | nil => cases hunit
  | cons first paths ih =>
    have hkept : ∃ unit ∈ dropRepeated (first :: paths), unit.same first = true := by
      refine ⟨first, ?_, Path.same_self first⟩
      rcases dropRepeated_cons first paths with ⟨hdrop, -⟩ | ⟨_, _, -, -, hdrop⟩ <;> simp [hdrop]
    rcases List.mem_cons.1 hunit with rfl | hunit
    · obtain ⟨unit', hunit', hsame'⟩ := hkept
      exact ⟨unit', hunit', Path.same_trans hsame' hsame⟩
    · obtain ⟨unit', hunit', hsame'⟩ := ih hunit
      rcases dropRepeated_cons first paths with ⟨hdrop, -⟩ | ⟨next, rest, hrest, hnext, hdrop⟩
      · exact ⟨unit', hdrop ▸ List.mem_cons_of_mem _ hunit', hsame'⟩
      · -- the head of the rest is left out, and the new head is the same path
        rw [hrest] at hunit'
        rcases List.mem_cons.1 hunit' with rfl | hunit'
        · exact ⟨first, hdrop ▸ List.mem_cons_self, Path.same_trans hnext hsame'⟩
        · exact ⟨unit', hdrop ▸ List.mem_cons_of_mem _ hunit', hsame'⟩

/-- What is left of a sorted list is strictly increasing. -/
theorem increasing_dropRepeated (h : paths.Pairwise fun a b => a.le b = true) :
    Path.Increasing (dropRepeated paths) := by
  induction paths with
  | nil => exact List.Pairwise.nil
  | cons first paths ih =>
    obtain ⟨hfirst, hpaths⟩ := List.pairwise_cons.1 h
    have hrest := ih hpaths
    rcases dropRepeated_cons first paths with ⟨hdrop, hnext⟩ | ⟨next, rest, hkept, hsame, hdrop⟩
    · rw [hdrop]
      refine List.pairwise_cons.2 ⟨?_, hrest⟩
      have hsubset : dropRepeated paths ⊆ paths := dropRepeated_subset
      intro b hb
      cases hkept : dropRepeated paths with
      | nil => rw [hkept] at hb; cases hb
      | cons next rest =>
        rw [hkept] at hb hrest hsubset hnext
        have hne : first.same next = false := hnext next rfl
        -- the list is sorted, so the next path that is kept is either the same or greater
        have hlt : first.compare next = .lt := by
          refine Path.lt_of_le_of_not_same (hfirst next (hsubset List.mem_cons_self)) hne
        rcases List.mem_cons.1 hb with rfl | hb
        · exact hlt
        · exact Std.TransCmp.lt_trans hlt (hrest.head_lt b hb)
    · rw [hkept] at hrest
      rw [hdrop]
      refine List.pairwise_cons.2 ⟨fun b hb => ?_, hrest.of_cons⟩
      exact Path.lt_of_same_of_lt hsame (hrest.head_lt b hb)

end Repeated

/-! ### The units for one path -/

/-- The units for a path, however long their own paths are. -/
inductive IsUnit (config : Config) (files : FileTree) (path : Path) : Path → Prop where
  /-- A file is taken as it is, whatever its extension and the configuration. -/
  | file (hfile : files.isFile path = true) : IsUnit config files path path
  /-- A file at any depth below a directory is taken if it has the extension of units and the
  configuration, which sees the path from the directory on, does not leave it out. -/
  | below {entries : List (String × Node)} {names : List String} {content : ByteArray}
      (hdir : files.node? path = some (.directory entries))
      (hfile : (Node.directory entries).get? names = some (.file content))
      (hextension : (Path.ofNames names).extension? = some unitExtension)
      (hkept : config.isExcluded (Path.ofNames names) = false) :
      IsUnit config files path (path.join (Path.ofNames names))

section Units

variable {config : Config} {files : FileTree} {path unit : Path} {units : List Path}

theorem unitsAt_eq_error {error : AnalysisError} :
    unitsAt config files path = .error error ↔
      error = .pathNotFound path ∧
        ¬ (files.isFile path = true ∨ files.isDirectory path = true) := by
  rw [unitsAt, FileTree.isFile_iff, FileTree.isDirectory_iff]
  cases files.node? path with
  | none => simp [eq_comm]
  | some node => cases node <;> simp

theorem unitsAt_eq_ok :
    (∃ units, unitsAt config files path = .ok units) ↔
      files.isFile path = true ∨ files.isDirectory path = true := by
  rw [unitsAt, FileTree.isFile_iff, FileTree.isDirectory_iff]
  cases files.node? path with
  | none => simp
  | some node => cases node <;> simp

theorem mem_unitsBelow {entries : List (String × Node)}
    (hwf : (Node.directory entries).WellFormed) {relative : Path} :
    relative ∈ unitsBelow config (.directory entries) ↔
      ∃ names content, relative = Path.ofNames names ∧
        (Node.directory entries).get? names = some (.file content) ∧
        relative.extension? = some unitExtension ∧ config.isExcluded relative = false := by
  rw [unitsBelow, List.mem_filter, List.mem_map]
  simp only [Node.mem_files _ hwf, Bool.and_eq_true, decide_eq_true_eq, Bool.not_eq_true']
  constructor
  · rintro ⟨⟨names, ⟨content, hcontent⟩, rfl⟩, hkept⟩
    exact ⟨names, content, rfl, hcontent, hkept⟩
  · rintro ⟨names, content, rfl, hcontent, hkept⟩
    exact ⟨⟨names, ⟨content, hcontent⟩, rfl⟩, hkept⟩

/-- What is taken for a path is a file, unless its own path is too long to be looked up. -/
theorem IsUnit.isFile_iff (hfiles : files.WellFormed) (h : IsUnit config files path unit) :
    files.isFile unit = true ↔ unit.text.utf8ByteSize < FileTree.pathLimit := by
  cases h with
  | file hfile =>
    obtain ⟨content, hnode⟩ := FileTree.isFile_iff.1 hfile
    exact iff_of_true hfile (FileTree.text_length hnode)
  | @below entries names content hdir hfile _ _ =>
    have hwf : (Node.directory entries).WellFormed := hfiles.node? hdir
    have hne : names ≠ [] := Node.ne_nil_of_get?_directory hfile
    rw [FileTree.isFile_iff, FileTree.node?_join hdir hne (hwf.fileName hfile) hfile]
    split_ifs with hlength <;> simp [hlength]

/-- The units for one path are those whose paths can be looked up. -/
theorem mem_unitsAt (hfiles : files.WellFormed) (h : unitsAt config files path = .ok units) :
    unit ∈ units ↔ IsUnit config files path unit ∧ files.isFile unit = true := by
  rw [unitsAt] at h
  split at h
  · rename_i content hnode
    cases h
    have hfile : files.isFile path = true := FileTree.isFile_iff.2 ⟨content, hnode⟩
    rw [List.mem_singleton]
    constructor
    · rintro rfl
      exact ⟨.file hfile, hfile⟩
    · rintro ⟨hunit | hdir, -⟩
      · rfl
      · rw [hnode] at hdir
        cases hdir
  · rename_i directory hne hnode
    cases h
    obtain ⟨entries, rfl⟩ : ∃ entries, directory = .directory entries := by
      cases directory with
      | file content => exact absurd rfl (hne content)
      | directory entries => exact ⟨entries, rfl⟩
    have hwf : (Node.directory entries).WellFormed := hfiles.node? hnode
    simp only [List.mem_filter, List.mem_map, mem_unitsBelow hwf]
    constructor
    · rintro ⟨⟨_, ⟨names, content, rfl, hcontent, hextension, hkept⟩, rfl⟩, hfile⟩
      exact ⟨.below hnode hcontent hextension hkept, hfile⟩
    · rintro ⟨hunit | ⟨hdir, hcontent, hextension, hkept⟩, hfile⟩
      · obtain ⟨content, hfile⟩ := FileTree.isFile_iff.1 hfile
        rw [hnode] at hfile
        cases hfile
      · rw [hnode] at hdir
        cases hdir
        exact ⟨⟨_, ⟨_, _, rfl, hcontent, hextension, hkept⟩, rfl⟩, hfile⟩
  · cases h

/-! ### The units for all paths -/

variable {paths : List Path}

theorem collectUnits_eq (hpaths : paths ≠ []) :
    collectUnits config files paths = (paths.mapM (unitsAt config files)).map fun found =>
      dropRepeated (found.flatten.mergeSort Path.le) := by
  rw [collectUnits, if_neg (by simpa using hpaths)]
  cases paths.mapM (unitsAt config files) <;> rfl

theorem collectUnits_singleton (hunits : unitsAt config files path = .ok units) :
    collectUnits config files [path] = .ok (dropRepeated (units.mergeSort Path.le)) := by
  have hfound : [path].mapM (unitsAt config files) = .ok [units] :=
    mapM_eq_ok.2 (.cons hunits .nil)
  rw [collectUnits_eq (List.cons_ne_nil _ _), hfound, Except.map, List.flatten_singleton]

theorem collectUnits_one (hunit : unitsAt config files path = .ok [unit]) :
    collectUnits config files [path] = .ok [unit] := by
  rw [collectUnits_singleton hunit, List.mergeSort_singleton]
  rfl

theorem collectUnits_eq_ok (h : collectUnits config files paths = .ok units) :
    ∃ found, List.Forall₂ (fun path units => unitsAt config files path = .ok units) paths found ∧
      units = dropRepeated (found.flatten.mergeSort Path.le) := by
  have hpaths : paths ≠ [] := by
    rintro rfl
    cases h
  rw [collectUnits_eq hpaths] at h
  cases hfound : paths.mapM (unitsAt config files) with
  | error error => rw [hfound] at h; cases h
  | ok found =>
    rw [hfound] at h
    cases h
    exact ⟨found, mapM_eq_ok.1 hfound, rfl⟩

theorem collectUnits_eq_noPaths :
    collectUnits config files paths = .error .noPaths ↔ paths = [] := by
  constructor
  · intro h
    by_contra hpaths
    rw [collectUnits_eq hpaths] at h
    cases hfound : paths.mapM (unitsAt config files) with
    | error error =>
      rw [hfound] at h
      cases h
      obtain ⟨_, path, _, -, -, hpath⟩ := mapM_eq_error.1 hfound
      cases (unitsAt_eq_error.1 hpath).1
    | ok found => rw [hfound] at h; cases h
  · rintro rfl
    rfl

theorem collectUnits_eq_pathNotFound :
    collectUnits config files paths = .error (.pathNotFound path) ↔
      ∃ before after, paths = before ++ path :: after ∧
        (∀ other ∈ before, files.isFile other = true ∨ files.isDirectory other = true) ∧
        ¬ (files.isFile path = true ∨ files.isDirectory path = true) := by
  by_cases hpaths : paths = []
  · subst hpaths
    simp [collectUnits]
  · have hmap : collectUnits config files paths = .error (.pathNotFound path) ↔
        paths.mapM (unitsAt config files) = .error (.pathNotFound path) := by
      rw [collectUnits_eq hpaths]
      cases paths.mapM (unitsAt config files) with
      | error error => exact ⟨fun h => by cases h; rfl, fun h => by cases h; rfl⟩
      | ok found => exact ⟨nofun, nofun⟩
    rw [hmap, mapM_eq_error]
    simp only [unitsAt_eq_ok, unitsAt_eq_error]
    constructor
    · rintro ⟨before, other, after, hlist, hbefore, heq, hother⟩
      cases heq
      exact ⟨before, after, hlist, hbefore, hother⟩
    · rintro ⟨before, after, hlist, hbefore, hpath⟩
      exact ⟨before, path, after, hlist, hbefore, rfl, hpath⟩

theorem exists_collectUnits (hpaths : paths ≠ [])
    (h : ∀ path ∈ paths, files.isFile path = true ∨ files.isDirectory path = true) :
    ∃ units, collectUnits config files paths = .ok units := by
  rw [collectUnits_eq hpaths]
  cases hfound : paths.mapM (unitsAt config files) with
  | error error =>
    obtain ⟨before, path, after, hlist, -, hpath⟩ := mapM_eq_error.1 hfound
    exact absurd (h path (by simp [hlist])) (unitsAt_eq_error.1 hpath).2
  | ok found => exact ⟨_, rfl⟩

theorem denotes_of_collectUnits (h : collectUnits config files paths = .ok units) :
    ∀ path ∈ paths, files.isFile path = true ∨ files.isDirectory path = true := by
  intro path hpath
  obtain ⟨found, hfound, -⟩ := collectUnits_eq_ok h
  obtain ⟨units, -, hat⟩ := exists_of_forall₂ hfound hpath
  exact unitsAt_eq_ok.1 ⟨units, hat⟩

/-- What is collected are units for the given paths, and files. -/
theorem isUnit_of_mem_collectUnits (hfiles : files.WellFormed)
    (h : collectUnits config files paths = .ok units) (hunit : unit ∈ units) :
    ∃ path ∈ paths, IsUnit config files path unit ∧ files.isFile unit = true := by
  obtain ⟨found, hfound, rfl⟩ := collectUnits_eq_ok h
  have hmem := dropRepeated_subset hunit
  simp only [List.mem_mergeSort, List.mem_flatten] at hmem
  obtain ⟨units, hunits, hmem⟩ := hmem
  obtain ⟨path, hpath, hat⟩ := exists_of_forall₂ hfound.flip hunits
  exact ⟨path, hpath, (mem_unitsAt hfiles hat).1 hmem⟩

theorem isFile_of_mem_collectUnits (hfiles : files.WellFormed)
    (h : collectUnits config files paths = .ok units) :
    ∀ unit ∈ units, files.isFile unit = true := by
  intro unit hunit
  obtain ⟨_, -, -, hfile⟩ := isUnit_of_mem_collectUnits hfiles h hunit
  exact hfile

theorem increasing_collectUnits (h : collectUnits config files paths = .ok units) :
    Path.Increasing units := by
  obtain ⟨found, -, rfl⟩ := collectUnits_eq_ok h
  exact increasing_dropRepeated (stablySorted_mergeSort found.flatten).ordered

/-- The units are, up to spelling, those for the paths that can be looked up. -/
theorem exists_same_collectUnits (hfiles : files.WellFormed)
    (h : collectUnits config files paths = .ok units) (x : Path) :
    (∃ unit ∈ units, unit.same x = true) ↔ ∃ path ∈ paths, ∃ unit,
      IsUnit config files path unit ∧ unit.text.utf8ByteSize < FileTree.pathLimit ∧
        unit.same x = true := by
  obtain ⟨found, hfound, rfl⟩ := collectUnits_eq_ok h
  rw [exists_same_dropRepeated]
  simp only [List.mem_mergeSort, List.mem_flatten]
  constructor
  · rintro ⟨unit, ⟨units, hunits, hunit⟩, hsame⟩
    obtain ⟨path, hpath, hat⟩ := exists_of_forall₂ hfound.flip hunits
    obtain ⟨hunit, hfile⟩ := (mem_unitsAt hfiles hat).1 hunit
    exact ⟨path, hpath, unit, hunit, (hunit.isFile_iff hfiles).1 hfile, hsame⟩
  · rintro ⟨path, hpath, unit, hunit, hlength, hsame⟩
    obtain ⟨units, hunits, hat⟩ := exists_of_forall₂ hfound hpath
    have hfile : files.isFile unit = true := (hunit.isFile_iff hfiles).2 hlength
    exact ⟨unit, ⟨units, hunits, (mem_unitsAt hfiles hat).2 ⟨hunit, hfile⟩⟩, hsame⟩

/-- **Which units are collected.**  Without paths there is an error; a path that is neither a file
nor a directory is an error, and the first one is reported; else the units are strictly increasing,
so no two are the same path, and they are, up to spelling, the units for the paths that are not too
long to be looked up. -/
theorem collectUnits_exact (config : Config) (files : FileTree) (paths : List Path)
    (hfiles : files.WellFormed) :
    (collectUnits config files paths = .error .noPaths ↔ paths = []) ∧
      (∀ path, collectUnits config files paths = .error (.pathNotFound path) ↔
        ∃ before after, paths = before ++ path :: after ∧
          (∀ other ∈ before, files.isFile other = true ∨ files.isDirectory other = true) ∧
          ¬ (files.isFile path = true ∨ files.isDirectory path = true)) ∧
      (paths ≠ [] → (∀ path ∈ paths, files.isFile path = true ∨ files.isDirectory path = true) →
        ∃ units, collectUnits config files paths = .ok units ∧ Path.Increasing units ∧
          ∀ x : Path, (∃ unit ∈ units, unit.same x = true) ↔ ∃ path ∈ paths, ∃ unit,
            IsUnit config files path unit ∧ unit.text.utf8ByteSize < FileTree.pathLimit ∧
              unit.same x = true) := by
  refine ⟨collectUnits_eq_noPaths, fun path => collectUnits_eq_pathNotFound, ?_⟩
  intro hpaths hdenote
  obtain ⟨units, hunits⟩ := exists_collectUnits hpaths hdenote
  exact ⟨units, hunits, increasing_collectUnits hunits, exists_same_collectUnits hfiles hunits⟩

end Units

/-! ### A directory with one unit -/

/-- A tree with one unit, in a directory. -/
def FileTree.oneUnit : FileTree where
  root := .directory [("d", .directory [("a.json", .file ByteArray.empty)])]
  workingDirectory := []

theorem FileTree.wellFormed_oneUnit : FileTree.oneUnit.WellFormed := by
  have hd : FileName "d" := by decide
  have ha : FileName "a.json" := by decide
  have hinner : (Node.directory [("a.json", .file ByteArray.empty)]).WellFormed :=
    Node.wellFormed_directory (by simpa using ⟨ha, Node.wellFormed_file _⟩) (by simp)
  exact Node.wellFormed_directory (by simpa using ⟨hd, hinner⟩) (by simp)

theorem collectUnits_exact_oneUnit :
    FileTree.oneUnit.WellFormed ∧ ∃ units,
      collectUnits {} FileTree.oneUnit [⟨"d"⟩] = .ok units ∧ Path.Increasing units ∧
        ∀ x : Path, (∃ unit ∈ units, unit.same x = true) ↔ ∃ path ∈ [(⟨"d"⟩ : Path)], ∃ unit,
          IsUnit {} FileTree.oneUnit path unit ∧ unit.text.utf8ByteSize < FileTree.pathLimit ∧
            unit.same x = true :=
  ⟨FileTree.wellFormed_oneUnit,
    (collectUnits_exact {} FileTree.oneUnit [⟨"d"⟩] FileTree.wellFormed_oneUnit).2.2
      (by decide) (by decide)⟩

theorem eq_of_get?_oneUnit {names : List String} {content : ByteArray}
    (h : (Node.directory [("a.json", .file ByteArray.empty)]).get? names = some (.file content)) :
    names = ["a.json"] := by
  cases names with
  | nil => cases h
  | cons name rest =>
    rw [Node.get?_cons] at h
    obtain ⟨child, hlookup, hrest⟩ := Option.bind_eq_some_iff.1 h
    obtain ⟨rfl, rfl⟩ : name = "a.json" ∧ child = .file ByteArray.empty := by
      simpa [Node.entries] using Node.mem_of_lookup hlookup
    rw [Node.eq_nil_of_get?_file hrest]

/-- The directory of the one unit with so many slashes that a longer path is too long. -/
def Path.slashed : Path := ⟨"d" ++ String.ofList (List.replicate 4092 '/')⟩

theorem FileTree.node?_slashed : FileTree.oneUnit.node? Path.slashed =
    some (.directory [("a.json", .file ByteArray.empty)]) := by
  have hdir : FileTree.oneUnit.node? ⟨"d"⟩ =
      some (.directory [("a.json", .file ByteArray.empty)]) := rfl
  exact FileTree.node?_slashes hdir (by decide)

theorem Path.pathLimit_le_slashed :
    FileTree.pathLimit ≤ (slashed.join (ofNames ["a.json"])).text.utf8ByteSize := by
  have hslashed : slashed.text.utf8ByteSize = 4093 := by
    rw [slashed, String.utf8ByteSize_append, FileTree.utf8ByteSize_slashes]
    rfl
  have hname : (ofNames ["a.json"]).text.utf8ByteSize = 6 := rfl
  have hjoin := size_le_join (a := slashed) (b := ofNames ["a.json"]) rfl
  rw [hslashed, hname] at hjoin
  exact le_trans (by decide) hjoin

theorem eq_of_isUnit_slashed {unit : Path}
    (h : IsUnit {} FileTree.oneUnit Path.slashed unit) :
    unit = Path.slashed.join (Path.ofNames ["a.json"]) := by
  cases h with
  | file hfile =>
    obtain ⟨content, hnode⟩ := FileTree.isFile_iff.1 hfile
    rw [FileTree.node?_slashed] at hnode
    cases hnode
  | @below entries names content hdir hfile _ _ =>
    rw [FileTree.node?_slashed] at hdir
    cases hdir
    rw [eq_of_get?_oneUnit hfile]

/-- A unit is left out where the path to its directory can be looked up but its own is too long. -/
theorem collectUnits_slashed :
    FileTree.oneUnit.isDirectory Path.slashed = true ∧
      IsUnit {} FileTree.oneUnit Path.slashed (Path.slashed.join (Path.ofNames ["a.json"])) ∧
        collectUnits {} FileTree.oneUnit [Path.slashed] = .ok [] := by
  have hdir : FileTree.oneUnit.isDirectory Path.slashed = true :=
    FileTree.isDirectory_iff.2 ⟨_, FileTree.node?_slashed⟩
  have hfile : (Node.directory [("a.json", .file ByteArray.empty)]).get? ["a.json"] =
      some (.file ByteArray.empty) := rfl
  refine ⟨hdir, .below FileTree.node?_slashed hfile (by decide) (by decide), ?_⟩
  obtain ⟨units, hunits⟩ : ∃ units, unitsAt {} FileTree.oneUnit Path.slashed = .ok units :=
    unitsAt_eq_ok.2 (.inr hdir)
  have hnone : units = [] := by
    refine List.eq_nil_iff_forall_not_mem.2 fun unit hunit => ?_
    obtain ⟨hunit, hfile⟩ := (mem_unitsAt FileTree.wellFormed_oneUnit hunits).1 hunit
    have hlength := (hunit.isFile_iff FileTree.wellFormed_oneUnit).1 hfile
    rw [eq_of_isUnit_slashed hunit] at hlength
    exact absurd hlength (Nat.not_lt.2 Path.pathLimit_le_slashed)
  have hfound : [Path.slashed].mapM (unitsAt {} FileTree.oneUnit) = .ok [[]] :=
    mapM_eq_ok.2 (.cons (hnone ▸ hunits) .nil)
  rw [collectUnits_eq (List.cons_ne_nil _ _), hfound]
  simp [Except.map, dropRepeated]

end ReturnPaths
