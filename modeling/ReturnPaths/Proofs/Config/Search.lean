import ReturnPaths.Config.Loading
import ReturnPaths.Proofs.FileTree.Location
import ReturnPaths.Proofs.Path.Parents

/-!
# Searching for a configuration

A configuration is searched for in a directory and then in those above it, one after the other.  The
first directory with an entry of the right name ends the search, whatever this entry is.

* `FileTree.Contains` : there is an entry of some name in a directory.
* `FileTree.Offers` : a directory contains an entry for a configuration, and the path of the entry
  can be looked up; a path that is too long cannot.
* `FileTree.Nearest` : the directory that ends the search.
* `loadConfigFrom_exact` : what is loaded, for every tree and every path to start from.
-/

namespace ReturnPaths

namespace FileTree

/-! ### Entries of directories -/

variable {tree : FileTree} {directory : Path} {name : String}

/-- The node in which the names that follow a path are looked up; the empty path stands for the
working directory. -/
def listed? (tree : FileTree) (directory : Path) : Option Node :=
  if directory.text = "" then tree.root.get? tree.workingDirectory else tree.node? directory

/-- The path leads to a directory, and there is an entry of this name in it. -/
def Contains (tree : FileTree) (directory : Path) (name : String) : Prop :=
  ∃ entries child, tree.listed? directory = some (.directory entries) ∧
    entries.lookup name = some child

theorem node?_of_locate {found : Except FileError (List String × Node)}
    (h : tree.locate directory = found) : tree.node? directory = found.toOption.map Prod.snd := by
  rw [node?, h]
  cases found <;> rfl

theorem follow_name {root : Node} (hname : FileName name) (found : List String × Node) :
    (follow root [name.toList] found.1 found.2).toOption.map Prod.snd =
      found.2.entries.lookup name := by
  obtain ⟨position, node⟩ := found
  cases node with
  | file content => rfl
  | directory entries =>
    rw [follow_cons_name hname, Node.entries]
    cases entries.lookup name <;> rfl

/-- What a name denotes in the working directory. -/
theorem node?_name (hname : FileName name) : tree.node? ⟨name⟩ =
    (tree.root.get? tree.workingDirectory).bind fun node => node.entries.lookup name := by
  have hstart : tree.start ⟨name⟩ = tree.workingDirectory := by
    have habs : (⟨name⟩ : Path).isAbsolute = false := by
      rw [← Path.ofNames_singleton]
      exact Path.EntryName.isAbsolute_ofNames (List.forall_mem_singleton.2 hname.toEntryName)
    rw [start, habs, if_neg Bool.false_ne_true]
  have hshort : ¬ name.utf8ByteSize ≥ pathLimit :=
    Nat.not_le.2 (hname.short.trans_lt (by decide))
  have hlocate : tree.locate ⟨name⟩ = follow tree.root [name.toList] tree.workingDirectory
      (tree.root.directoryAt tree.workingDirectory) := by
    rw [locate, descend, if_neg hname.no_null, if_neg (mt String.isEmpty_iff.1 hname.ne_empty),
      if_neg hshort, hstart, Path.pieces_of_not_mem hname.no_slash]
  rw [node?_of_locate hlocate]
  refine (follow_name hname (tree.workingDirectory, _)).trans ?_
  show ((tree.root.directory? tree.workingDirectory).getD []).lookup name = _
  rw [Node.directory?]
  cases tree.root.get? tree.workingDirectory with
  | none => rfl
  | some node => cases node <;> rfl

/-- What the path of an entry denotes, unless it is too long. -/
theorem node?_join_name (hname : FileName name) : tree.node? (directory.join ⟨name⟩) =
    if (directory.join ⟨name⟩).text.utf8ByteSize < pathLimit then
      (tree.listed? directory).bind fun node => node.entries.lookup name
    else none := by
  by_cases hshort : (directory.join ⟨name⟩).text.utf8ByteSize < pathLimit
  · rw [if_pos hshort, listed?]
    by_cases hempty : directory.text = ""
    · rw [if_pos hempty, Path.join_of_empty hempty, node?_name hname]
    · have hnames : ∀ name' ∈ [name], FileName name' := List.forall_mem_singleton.2 hname
      rw [← Path.ofNames_singleton] at hshort ⊢
      rw [if_neg hempty, node?_of_locate (locate_join (List.cons_ne_nil _ _) hnames hempty hshort),
        node?]
      cases tree.locate directory with
      | error error => rfl
      | ok found => exact follow_name hname found
  · rw [if_neg hshort, Option.eq_none_iff_forall_ne_some]
    exact fun node hnode => hshort (text_length hnode)

/-- An entry is denoted by its path if the path is not too long. -/
theorem denotes_join_iff (hname : FileName name) :
    tree.denotes (directory.join ⟨name⟩) = true ↔ tree.Contains directory name ∧
      (directory.join ⟨name⟩).text.utf8ByteSize < pathLimit := by
  have hcontains : tree.Contains directory name ↔
      ((tree.listed? directory).bind fun node => node.entries.lookup name).isSome = true := by
    rw [Contains]
    cases tree.listed? directory with
    | none => simp
    | some node =>
      cases node with
      | file content => simp [Node.entries]
      | directory entries => simp [Node.entries, Option.isSome_iff_exists]
  rw [denotes, node?_join_name hname, hcontains]
  split_ifs with hshort <;> simp [hshort]

end FileTree

/-! ### Loading -/

theorem readConfig_eq_ok {files : FileTree} {path : Path} {config : Config} :
    readConfig files path = .ok config ↔ ∃ content text, files.node? path = some (.file content) ∧
      String.fromUTF8? content = some text ∧ Config.ofToml? text = some config := by
  have hread : readConfig files path = .ok config ↔
      ∃ text, files.readText path = .ok text ∧ Config.ofToml? text = some config := by
    rw [readConfig]
    cases files.readText path with
    | error error => exact ⟨nofun, nofun⟩
    | ok text =>
      simp only [Except.mapError, bind, Except.bind]
      cases hconfig : Config.ofToml? text <;> simp [hconfig]
  rw [hread]
  simp only [FileTree.readText_eq_ok]
  constructor
  · rintro ⟨text, ⟨content, hnode, htext⟩, hconfig⟩
    exact ⟨content, text, hnode, htext, hconfig⟩
  · rintro ⟨content, text, hnode, htext, hconfig⟩
    exact ⟨text, ⟨content, hnode, htext⟩, hconfig⟩

theorem run_loadConfig (path : Path) (session : Session) : (loadConfig path).run session =
    (readConfig (session.recorded (.configLoading path)).files path,
      session.recorded (.configLoading path)) := rfl

theorem run_loadConfigFrom (start : Path) (session : Session) :
    (loadConfigFrom start).run session =
      match findConfig? session.files start with
      | none => (.ok none, session)
      | some path =>
        ((readConfig (session.recorded (.configLoading path)).files path).map
          fun config => some (config, path), session.recorded (.configLoading path)) := by
  rw [loadConfigFrom]
  simp only [StateT.run_bind, StateT.run_get, pure_bind]
  cases findConfig? session.files start <;> rfl

section Here

variable {session : Session}

theorem run_loadConfigHere_ok {directory : Path}
    (h : session.files.currentDirectory = .ok directory) :
    loadConfigHere.run session = (loadConfigFrom directory).run session := by
  rw [loadConfigHere]
  simp only [StateT.run_bind, StateT.run_get, pure_bind, h]

theorem run_loadConfigHere_error {error : FileError}
    (h : session.files.currentDirectory = .error error) :
    loadConfigHere.run session = (.error (.unreadable ⟨"."⟩ error), session) := by
  rw [loadConfigHere]
  simp only [StateT.run_bind, StateT.run_get, pure_bind, h]
  rfl

end Here

/-! ### The nearest directory -/

theorem fileName_configFileName : FileName configFileName := by decide

/-- A directory offers a configuration if it contains an entry of the name, whatever that is, whose
path is not too long. -/
structure FileTree.Offers (files : FileTree) (directory : Path) : Prop where
  /-- There is an entry. -/
  contains : files.Contains directory configFileName
  /-- A longer path cannot be looked up. -/
  short : (directory.join ⟨configFileName⟩).text.utf8ByteSize < FileTree.pathLimit

/-- The directory is the first one on the way up that offers a configuration. -/
def FileTree.Nearest (files : FileTree) (start directory : Path) : Prop :=
  ∃ n, Path.above n start = some directory ∧ files.Offers directory ∧
    ∀ m < n, ∀ nearer, Path.above m start = some nearer → ¬ files.Offers nearer

variable {files : FileTree} {start directory : Path}

theorem denotes_config_iff :
    files.denotes (directory.join ⟨configFileName⟩) = true ↔ files.Offers directory := by
  rw [FileTree.denotes_join_iff fileName_configFileName]
  exact ⟨fun h => ⟨h.1, h.2⟩, fun h => ⟨h.contains, h.short⟩⟩

theorem findConfig?_eq_none_iff : findConfig? files start = none ↔
    ∀ n directory, Path.above n start = some directory → ¬ files.Offers directory := by
  simp only [findConfig?, List.find?_eq_none, List.forall_mem_map, Path.mem_ancestors,
    denotes_config_iff]
  exact ⟨fun h n directory habove => h directory ⟨n, habove⟩,
    fun h directory ⟨n, habove⟩ => h n directory habove⟩

theorem find?_ancestors : start.ancestors.find? (fun directory =>
    files.denotes (directory.join ⟨configFileName⟩)) = some directory ↔
      files.Nearest start directory := by
  -- places in the list of ancestors are numbers of steps up
  rw [List.find?_eq_some_iff_getElem]
  constructor
  · rintro ⟨hoffers, n, hn, hdirectory, hnearer⟩
    refine ⟨n, ?_, denotes_config_iff.1 hoffers, fun m hm nearer habove hoffers => ?_⟩
    · rw [← Path.getElem?_ancestors, List.getElem?_eq_getElem hn, hdirectory]
    · rw [← Path.getElem?_ancestors] at habove
      obtain ⟨hm', hget⟩ := List.getElem?_eq_some_iff.1 habove
      have hnot := hnearer m hm
      rw [hget, denotes_config_iff.2 hoffers] at hnot
      cases hnot
  · rintro ⟨n, habove, hoffers, hnearer⟩
    rw [← Path.getElem?_ancestors] at habove
    obtain ⟨hn, hdirectory⟩ := List.getElem?_eq_some_iff.1 habove
    refine ⟨denotes_config_iff.2 hoffers, n, hn, hdirectory, fun m hm => ?_⟩
    have hnot := hnearer m hm start.ancestors[m]
      (by rw [← Path.getElem?_ancestors, List.getElem?_eq_getElem])
    rw [← denotes_config_iff, Bool.not_eq_true] at hnot
    rw [hnot, Bool.not_false]

/-- What is found is what the nearest directory offers. -/
theorem findConfig?_eq_some_iff {path : Path} : findConfig? files start = some path ↔
    ∃ directory, files.Nearest start directory ∧ directory.join ⟨configFileName⟩ = path := by
  rw [findConfig?, List.find?_map, Option.map_eq_some_iff]
  exact exists_congr fun directory => and_congr_left fun _ => find?_ancestors

/-! ### Loading the nearest one -/

/-- The file that an error is about. -/
def ConfigError.path : ConfigError → Path
  | unreadable path _ => path
  | malformed path => path

/-- An error is about a file, and its wording names the file. -/
def ConfigError.Names (error : ConfigError) (path : Path) : Prop :=
  error.path = path ∧ ∃ front back, error.message = front ++ path.text ++ back

theorem ConfigError.names_path (error : ConfigError) : error.Names error.path := by
  refine ⟨rfl, ?_⟩
  cases error with
  | unreadable file reason =>
    exact ⟨"Failed to read ", ": " ++ reason.message, String.append_assoc⟩
  | malformed file => exact ⟨"Failed to parse ", ": TOML parse error", rfl⟩

theorem names_of_readConfig {path : Path} {error : ConfigError}
    (h : readConfig files path = .error error) : error.Names path := by
  suffices hpath : error.path = path from hpath ▸ error.names_path
  rw [readConfig] at h
  cases hread : files.readText path with
  | error reason =>
    rw [hread] at h
    cases h
    rfl
  | ok text =>
    rw [hread] at h
    simp only [Except.mapError, bind, Except.bind] at h
    split at h <;> cases h
    rfl

/-- **Loading the configuration from the nearest file.**  Going up from a path, each step removes
its last component, until there is none left but a root.  There is no configuration exactly if no
directory on the way up offers one.  Otherwise the result is that of loading the entry in the first
one that does, together with the path of the entry: the configuration in it, or, if it is anything
else than a file with a configuration, an error that names it, whatever lies further up. -/
theorem loadConfigFrom_exact (session : Session) (start : Path) :
    (∀ n directory, Path.above n start = some directory →
        n ≤ start.components.length ∧
        directory.components = start.components.take (start.components.length - n) ∧
        (Path.above (n + 1) start = none ↔
          directory.components = [] ∨ directory.components = [.root])) ∧
      (((loadConfigFrom start).run session).1 = .ok none ↔
        ∀ n directory, Path.above n start = some directory → ¬ session.files.Offers directory) ∧
      (((loadConfigFrom start).run session).1 ≠ .ok none →
        ∃ directory, session.files.Nearest start directory) ∧
      ∀ directory, session.files.Nearest start directory → ∃ result later,
        (loadConfig (directory.join ⟨configFileName⟩)).run session = (result, later) ∧
        (loadConfigFrom start).run session =
          (result.map fun config => some (config, directory.join ⟨configFileName⟩), later) ∧
        (∀ config, result = .ok config ↔ ∃ content text,
          later.files.node? (directory.join ⟨configFileName⟩) = some (.file content) ∧
            String.fromUTF8? content = some text ∧ Config.ofToml? text = some config) ∧
        ∀ error, result = .error error → error.Names (directory.join ⟨configFileName⟩) := by
  refine ⟨fun n directory habove => ?_, ?_, ?_, ?_⟩
  · obtain ⟨hcomponents, hsteps⟩ := Path.components_above habove
    exact ⟨hsteps, hcomponents, Path.above_succ_eq_none_iff habove⟩
  · rw [← findConfig?_eq_none_iff, run_loadConfigFrom]
    cases hfind : findConfig? session.files start with
    | none => exact iff_of_true rfl rfl
    | some path =>
      -- whatever is read from the file, there is a result
      refine iff_of_false (fun hnone => ?_) nofun
      cases hread : readConfig (session.recorded (.configLoading path)).files path <;>
        simp only [hread, Except.map] at hnone <;> cases hnone
  · intro hsome
    cases hfind : findConfig? session.files start with
    | none =>
      rw [run_loadConfigFrom, hfind] at hsome
      exact absurd rfl hsome
    | some path =>
      obtain ⟨directory, hnearest, -⟩ := findConfig?_eq_some_iff.1 hfind
      exact ⟨directory, hnearest⟩
  · intro directory hnearest
    refine ⟨_, _, run_loadConfig _ session, ?_, fun config => readConfig_eq_ok,
      fun error => names_of_readConfig⟩
    rw [run_loadConfigFrom, findConfig?_eq_some_iff.2 ⟨directory, hnearest, rfl⟩]

/-- A directory in place of a configuration, with a configuration above it. -/
theorem loadConfigFrom_exact_directory :
    let files : FileTree := {
      root := .directory [(configFileName, .file ByteArray.empty),
        ("a", .directory [(configFileName, .directory [])])]
      workingDirectory := [] }
    files.Nearest ⟨"a/b"⟩ ⟨"a"⟩ ∧ files.Offers ⟨""⟩ ∧
      readConfig files (Path.join ⟨""⟩ ⟨configFileName⟩) = .ok {} ∧
      ((loadConfigFrom ⟨"a/b"⟩).run { files }).1 =
        .error (.unreadable ⟨"a/.noret.toml"⟩ .isDirectory) := by
  intro files
  have hjoin : Path.join ⟨"a"⟩ ⟨configFileName⟩ = ⟨"a/.noret.toml"⟩ := by decide +kernel
  have hoffers : files.Offers ⟨"a"⟩ := denotes_config_iff.1 (by decide +kernel)
  have hnearest : files.Nearest ⟨"a/b"⟩ ⟨"a"⟩ := by
    refine ⟨1, by decide +kernel, hoffers, fun m hm nearer hnearer => ?_⟩
    obtain rfl : m = 0 := Nat.lt_one_iff.1 hm
    cases hnearer
    exact mt denotes_config_iff.2 (by decide +kernel)
  obtain ⟨-, -, -, hload⟩ := loadConfigFrom_exact { files } ⟨"a/b"⟩
  obtain ⟨result, later, hrun, hfrom, -, -⟩ := hload ⟨"a"⟩ hnearest
  have hresult : result = .error (.unreadable ⟨"a/.noret.toml"⟩ .isDirectory) := by
    rw [hjoin] at hrun
    exact (congrArg Prod.fst hrun).symm
  exact ⟨hnearest, denotes_config_iff.1 (by decide +kernel), rfl, by rw [hfrom, hresult]; rfl⟩

/-! ### Paths that are too long -/

/-- The name of a directory with slashes after it. -/
def Path.slashesAfter (n : ℕ) : Path := ⟨"d" ++ String.ofList (List.replicate n '/')⟩

/-- A tree with one configuration, in that directory. -/
def FileTree.oneConfig : FileTree where
  root := .directory [("d", .directory [(configFileName, .file ByteArray.empty)])]
  workingDirectory := []

theorem Path.size_slashesAfter (n : ℕ) : (slashesAfter n).text.utf8ByteSize = 1 + n := by
  rw [slashesAfter, String.utf8ByteSize_append, FileTree.utf8ByteSize_slashes]
  rfl

theorem Path.parents_slashesAfter (n : ℕ) : (slashesAfter n).parents = [⟨""⟩] := by
  have hchars : (slashesAfter n).text.toList = ['d'] ++ List.replicate n '/' := by
    simp [slashesAfter]
  have hunled : Unled (['d'] ++ List.replicate n '/') := ⟨nofun, nofun, nofun⟩
  have hpieces : pieces ['d'] = [['d']] := rfl
  have hdrop : dropBlank (List.replicate n [] ++ [['d']]) = [['d']] :=
    List.dropWhile_append_of_pos (by simp)
  rw [parents_eq_parentsOf, hchars, hunled.split_eq, pieces_append_slashes, hpieces,
    List.reverse_append, List.reverse_replicate, ← parentsOf_dropBlank, List.reverse_singleton,
    hdrop]
  rfl

theorem FileTree.contains_slashesAfter {n : ℕ} (hshort : 1 + n < pathLimit) :
    oneConfig.Contains (Path.slashesAfter n) configFileName := by
  have hd : oneConfig.node? ⟨"d"⟩ = some (.directory [(configFileName, .file ByteArray.empty)]) :=
    rfl
  have hnode : oneConfig.node? (Path.slashesAfter n) =
      some (.directory [(configFileName, .file ByteArray.empty)]) := node?_slashes hd hshort
  exact ⟨_, _, (if_neg (text_ne_empty hnode)).trans hnode, rfl⟩

theorem findConfig?_slashesAfter {n : ℕ} (hlong : FileTree.pathLimit ≤ 1 + n + 11) :
    findConfig? FileTree.oneConfig (Path.slashesAfter n) = none := by
  have hstart : ¬ FileTree.oneConfig.denotes ((Path.slashesAfter n).join ⟨configFileName⟩) =
      true := by
    rw [denotes_config_iff]
    intro hoffers
    have hjoin := Path.size_le_join (a := Path.slashesAfter n) (b := ⟨configFileName⟩) rfl
    rw [Path.size_slashesAfter] at hjoin
    exact Nat.not_le.2 (hjoin.trans_lt hoffers.short) hlong
  have hworking : ¬ FileTree.oneConfig.denotes (Path.join ⟨""⟩ ⟨configFileName⟩) = true := by
    decide +kernel
  rw [findConfig?, Path.ancestors, Path.parents_slashesAfter, List.map_cons, List.map_singleton,
    List.find?_cons_of_neg hstart, List.find?_cons_of_neg hworking, List.find?_nil]

theorem run_loadConfigFrom_slashesAfter {n : ℕ} (hlong : FileTree.pathLimit ≤ 1 + n + 11) :
    (loadConfigFrom (Path.slashesAfter n)).run { files := .oneConfig } =
      (.ok none, { files := .oneConfig }) := by
  rw [run_loadConfigFrom, findConfig?_slashesAfter hlong]

/-- An entry for a configuration is passed over if its path is too long to be looked up. -/
theorem loadConfigFrom_slashesAfter :
    Path.above 0 (Path.slashesAfter 4090) = some (Path.slashesAfter 4090) ∧
      FileTree.oneConfig.Contains (Path.slashesAfter 4090) configFileName ∧
      ((loadConfigFrom (Path.slashesAfter 4090)).run { files := .oneConfig }).1 = .ok none :=
  ⟨rfl, FileTree.contains_slashesAfter (by decide),
    congrArg Prod.fst (run_loadConfigFrom_slashesAfter (by decide))⟩

end ReturnPaths
