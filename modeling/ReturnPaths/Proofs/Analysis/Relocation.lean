import ReturnPaths.Proofs.Analysis.Collection
import ReturnPaths.Proofs.Analysis.Contents
import ReturnPaths.Proofs.Path.Below

/-!
# Directories in two places

Which units are found below a directory depends on what is below it and on the configuration, which
sees paths from the directory on; the path of the directory itself has no part in this.  Only the
limit on the length of paths does: of a directory with a longer path, some files may be out of
reach.

* `Path.isShort` : the path is short enough to be looked up.
* `Node.SameFiles` : two directories contain the same files.
* `collectUnits_directory` : the units for a directory, from the relative paths of those below it.
* `Analyzer.analyzePaths_relocated` : the units and the issues for two directories.
-/

namespace ReturnPaths

/-- The path is short enough to be looked up. -/
def Path.isShort (path : Path) : Bool := decide (path.text.utf8ByteSize < FileTree.pathLimit)

/-- The same files stand at the same positions at and below two nodes. -/
def Node.SameFiles (node node' : Node) : Prop :=
  ∀ names content, node.get? names = some (.file content) ↔ node'.get? names = some (.file content)

/-- The relative paths of the units below a directory, in order. -/
def relativeUnits (config : Config) (directory : Node) : List Path :=
  dropRepeated ((unitsBelow config directory).mergeSort Path.le)

section Units

variable {config : Config} {files : FileTree} {root : Path}
variable {entries entries' : List (String × Node)}

/-- If the paths of a list have one spelling each, all of them are left when it is sorted and freed
of repeated ones. -/
theorem mem_dropRepeated_mergeSort {paths : List Path}
    (hpaths : ∀ a ∈ paths, ∀ b ∈ paths, a.same b = true → a = b) {path : Path} :
    path ∈ dropRepeated (paths.mergeSort Path.le) ↔ path ∈ paths := by
  have hsubset : dropRepeated (paths.mergeSort Path.le) ⊆ paths.mergeSort Path.le :=
    dropRepeated_subset
  constructor
  · intro hpath
    exact List.mem_mergeSort.1 (hsubset hpath)
  · intro hpath
    obtain ⟨kept, hkept, hsame⟩ := exists_same_dropRepeated.2
      ⟨path, List.mem_mergeSort.2 hpath, Path.same_self path⟩
    rwa [← hpaths kept (List.mem_mergeSort.1 (hsubset hkept)) path hpath hsame]

theorem relative_ofNames (hwf : (Node.directory entries).WellFormed) {names : List String}
    {content : ByteArray} (hfile : (Node.directory entries).get? names = some (.file content)) :
    (Path.ofNames names).Relative :=
  ⟨names, Node.ne_nil_of_get?_directory hfile, hwf.entryName hfile, rfl⟩

theorem relative_of_mem_unitsBelow (hwf : (Node.directory entries).WellFormed) {path : Path}
    (hpath : path ∈ unitsBelow config (.directory entries)) : path.Relative := by
  obtain ⟨names, content, rfl, hfile, -, -⟩ := (mem_unitsBelow hwf).1 hpath
  exact relative_ofNames hwf hfile

theorem increasing_relativeUnits (config : Config) (directory : Node) :
    Path.Increasing (relativeUnits config directory) :=
  increasing_dropRepeated (stablySorted_mergeSort (unitsBelow config directory)).ordered

theorem mem_relativeUnits (hwf : (Node.directory entries).WellFormed) {path : Path} :
    path ∈ relativeUnits config (.directory entries) ↔
      ∃ names content, path = Path.ofNames names ∧
        (Node.directory entries).get? names = some (.file content) ∧
        path.extension? = some unitExtension ∧ config.isExcluded path = false := by
  rw [relativeUnits, mem_dropRepeated_mergeSort, mem_unitsBelow hwf]
  intro a ha b hb hsame
  exact (relative_of_mem_unitsBelow hwf ha).eq_of_same (relative_of_mem_unitsBelow hwf hb) hsame

theorem relativeUnits_congr (hwf : (Node.directory entries).WellFormed)
    (hwf' : (Node.directory entries').WellFormed)
    (h : (Node.directory entries).SameFiles (.directory entries')) :
    relativeUnits config (.directory entries) = relativeUnits config (.directory entries') := by
  refine (increasing_relativeUnits config _).eq_of_mem_iff (increasing_relativeUnits config _) ?_
  intro path
  rw [mem_relativeUnits hwf, mem_relativeUnits hwf']
  simp only [h _ _]

theorem relative_of_mem_relativeUnits (hwf : (Node.directory entries).WellFormed) {path : Path}
    (hpath : path ∈ relativeUnits config (.directory entries)) : path.Relative := by
  obtain ⟨names, content, rfl, hfile, -, -⟩ := (mem_relativeUnits hwf).1 hpath
  exact relative_ofNames hwf hfile

theorem isUnit_directory (hwf : (Node.directory entries).WellFormed)
    (hroot : files.node? root = some (.directory entries)) {unit : Path} :
    IsUnit config files root unit ↔
      ∃ relative ∈ relativeUnits config (.directory entries), root.join relative = unit := by
  constructor
  · rintro (hfile | ⟨hdir, hfile, hextension, hkept⟩)
    · obtain ⟨content, hnode⟩ := FileTree.isFile_iff.1 hfile
      rw [hroot] at hnode
      cases hnode
    · rw [hroot] at hdir
      cases hdir
      exact ⟨_, (mem_relativeUnits hwf).2 ⟨_, _, rfl, hfile, hextension, hkept⟩, rfl⟩
  · rintro ⟨relative, hrelative, rfl⟩
    obtain ⟨names, content, rfl, hfile, hextension, hkept⟩ := (mem_relativeUnits hwf).1 hrelative
    exact .below hroot hfile hextension hkept

theorem mem_unitsAt_directory (hfiles : files.WellFormed)
    (hroot : files.node? root = some (.directory entries)) {units : List Path}
    (hunits : unitsAt config files root = .ok units) {unit : Path} :
    unit ∈ units ↔ (∃ relative ∈ relativeUnits config (.directory entries),
      root.join relative = unit) ∧ unit.isShort = true := by
  have hwf : (Node.directory entries).WellFormed := hfiles.node? hroot
  rw [mem_unitsAt hfiles hunits, ← isUnit_directory hwf hroot, Path.isShort, decide_eq_true_eq]
  exact and_congr_right fun hunit => hunit.isFile_iff hfiles

/-- **The units for a directory** are its path joined with the relative paths of the units below it,
in the same order, but for those that are too long. -/
theorem collectUnits_directory (hfiles : files.WellFormed)
    (hroot : files.node? root = some (.directory entries)) :
    collectUnits config files [root] =
      .ok (((relativeUnits config (.directory entries)).map root.join).filter Path.isShort) := by
  have hwf : (Node.directory entries).WellFormed := hfiles.node? hroot
  have hrelative : ∀ path ∈ relativeUnits config (.directory entries), path.Relative :=
    fun path hpath => relative_of_mem_relativeUnits hwf hpath
  have htext : root.text ≠ "" := FileTree.text_ne_empty hroot
  have hjoined := (increasing_relativeUnits config _).map_join hrelative htext
  obtain ⟨units, hunits⟩ : ∃ units, unitsAt config files root = .ok units :=
    unitsAt_eq_ok.2 (.inr (FileTree.isDirectory_iff.2 ⟨entries, hroot⟩))
  have honce : ∀ a ∈ units, ∀ b ∈ units, a.same b = true → a = b := by
    intro a ha b hb hsame
    obtain ⟨⟨relative, hmem, rfl⟩, -⟩ := (mem_unitsAt_directory hfiles hroot hunits).1 ha
    obtain ⟨⟨relative', hmem', rfl⟩, -⟩ := (mem_unitsAt_directory hfiles hroot hunits).1 hb
    rw [(hrelative _ hmem).eq_of_same_join (hrelative _ hmem') htext hsame]
  -- both lists are increasing, so it remains to compare what they contain
  have hcollected := collectUnits_singleton hunits
  rw [hcollected]
  refine congrArg _ ((increasing_collectUnits hcollected).eq_of_mem_iff
    (hjoined.sublist List.filter_sublist) fun unit => ?_)
  rw [mem_dropRepeated_mergeSort honce, mem_unitsAt_directory hfiles hroot hunits, List.mem_filter,
    List.mem_map]

variable {files' : FileTree} {root' : Path} {names : List String} {content : ByteArray}

theorem sameContent_join (hfiles : files.WellFormed) (hfiles' : files'.WellFormed)
    (hroot : files.node? root = some (.directory entries))
    (hroot' : files'.node? root' = some (.directory entries'))
    (hsame : (Node.directory entries).SameFiles (.directory entries'))
    (hfile : (Node.directory entries).get? names = some (.file content))
    (hshort : (root.join (Path.ofNames names)).isShort = true)
    (hshort' : (root'.join (Path.ofNames names)).isShort = true) :
    files.SameContent files' (root.join (Path.ofNames names))
      (root'.join (Path.ofNames names)) := by
  have hwf : (Node.directory entries).WellFormed := hfiles.node? hroot
  have hwf' : (Node.directory entries').WellFormed := hfiles'.node? hroot'
  have hfile' : (Node.directory entries').get? names = some (.file content) :=
    (hsame names content).1 hfile
  have hne : names ≠ [] := Node.ne_nil_of_get?_directory hfile
  refine ⟨content, ?_, ?_⟩
  · rw [FileTree.node?_join hroot hne (hwf.fileName hfile) hfile]
    exact if_pos (of_decide_eq_true hshort)
  · rw [FileTree.node?_join hroot' hne (hwf'.fileName hfile') hfile']
    exact if_pos (of_decide_eq_true hshort')

end Units

namespace Analyzer

/-- **Directories in two places.**  For two directories with the same files there is one list of
relative paths, given by the files and the exclude patterns.  The units for each directory are its
path joined with these, in the same order, but for those that are too long.  If the same ones are
too long below both, or none is, the two runs give the same issues in the same order. -/
theorem analyzePaths_relocated (analyzer : Analyzer) (session session' : Session)
    (root root' : Path) (entries entries' : List (String × Node))
    (hsession : session.Sound) (hsession' : session'.Sound)
    (hfiles : session.files.WellFormed) (hfiles' : session'.files.WellFormed)
    (hroot : session.files.node? root = some (.directory entries))
    (hroot' : session'.files.node? root' = some (.directory entries'))
    (hsame : (Node.directory entries).SameFiles (.directory entries')) :
    ∃ relatives : List Path, Path.Increasing relatives ∧
      (∀ path, path ∈ relatives ↔ ∃ names content, path = Path.ofNames names ∧
        (Node.directory entries).get? names = some (.file content) ∧
          path.extension? = some unitExtension ∧ analyzer.config.isExcluded path = false) ∧
      analyzer.collectUnits session.files [root] =
        .ok ((relatives.map root.join).filter Path.isShort) ∧
      analyzer.collectUnits session'.files [root'] =
        .ok ((relatives.map root'.join).filter Path.isShort) ∧
      ((∀ path ∈ relatives, (root.join path).isShort = (root'.join path).isShort) →
        ∃ analysis last analysis' last',
          (analyzer.analyzePaths [root]).run session = (.ok analysis, last) ∧
            (analyzer.analyzePaths [root']).run session' = (.ok analysis', last') ∧
              analysis'.issues = analysis.issues) := by
  have hwf : (Node.directory entries).WellFormed := hfiles.node? hroot
  have hwf' : (Node.directory entries').WellFormed := hfiles'.node? hroot'
  have hunits : analyzer.collectUnits session.files [root] = _ :=
    collectUnits_directory hfiles hroot
  have hunits' : analyzer.collectUnits session'.files [root'] = _ :=
    collectUnits_directory hfiles' hroot'
  rw [← relativeUnits_congr hwf hwf' hsame] at hunits'
  refine ⟨relativeUnits analyzer.config (.directory entries), increasing_relativeUnits _ _,
    fun path => mem_relativeUnits hwf, hunits, hunits', fun hshort => ?_⟩
  refine analyzer.run_analyzePaths_congr hsession hsession' hunits hunits' ?_
  -- the same relative paths are left, so the units stand for each other one by one
  have hkept : (relativeUnits analyzer.config (.directory entries)).filter
      (Path.isShort ∘ root.join) = (relativeUnits analyzer.config (.directory entries)).filter
      (Path.isShort ∘ root'.join) := List.filter_congr hshort
  rw [List.filter_map, List.filter_map, List.forall₂_map_left_iff, List.forall₂_map_right_iff,
    hkept, List.forall₂_same]
  intro path hpath
  obtain ⟨hmem, hpathShort⟩ := List.mem_filter.1 hpath
  obtain ⟨names, content, rfl, hfile, -, -⟩ := (mem_relativeUnits hwf).1 hmem
  exact sameContent_join hfiles hfiles' hroot hroot' hsame hfile
    ((hshort _ hmem).trans hpathShort) hpathShort

/-- A relative and an absolute path of a directory, whose own name is that of an excluded one. -/
theorem analyzePaths_relocated_absolute :
    let analyzer : Analyzer := { config := { exclude := ["d/"] } }
    let session : Session := { files := FileTree.oneUnit }
    let entries := [("a.json", Node.file ByteArray.empty)]
    session.Sound ∧ session.files.WellFormed ∧
      session.files.node? ⟨"d"⟩ = some (.directory entries) ∧
      session.files.node? ⟨"/d"⟩ = some (.directory entries) ∧
      (Node.directory entries).SameFiles (.directory entries) ∧
      analyzer.collectUnits session.files [⟨"d"⟩] = .ok [⟨"d/a.json"⟩] ∧
      analyzer.collectUnits session.files [⟨"/d"⟩] = .ok [⟨"/d/a.json"⟩] ∧
      ∃ analysis last analysis' last',
        (analyzer.analyzePaths [⟨"d"⟩]).run session = (.ok analysis, last) ∧
          (analyzer.analyzePaths [⟨"/d"⟩]).run session = (.ok analysis', last') ∧
            analysis'.issues = analysis.issues := by
  intro analyzer session entries
  have hsession : session.Sound := Session.sound_of_no_log rfl
  have hfiles : session.files.WellFormed := FileTree.wellFormed_oneUnit
  have hroot : session.files.node? ⟨"d"⟩ = some (.directory entries) := rfl
  have hroot' : session.files.node? ⟨"/d"⟩ = some (.directory entries) := rfl
  have hsame : (Node.directory entries).SameFiles (.directory entries) := fun _ _ => Iff.rfl
  have hunits : analyzer.collectUnits session.files [⟨"d"⟩] = .ok [⟨"d/a.json"⟩] :=
    collectUnits_one (by decide +kernel)
  have hunits' : analyzer.collectUnits session.files [⟨"/d"⟩] = .ok [⟨"/d/a.json"⟩] :=
    collectUnits_one (by decide +kernel)
  obtain ⟨relatives, -, hmem, -, -, hissues⟩ := analyzePaths_relocated analyzer session session
    ⟨"d"⟩ ⟨"/d"⟩ entries entries hsession hsession hfiles hfiles hroot hroot' hsame
  refine ⟨hsession, hfiles, hroot, hroot', hsame, hunits, hunits', hissues fun path hpath => ?_⟩
  obtain ⟨names, content, rfl, hfile, -, -⟩ := (hmem path).1 hpath
  rw [eq_of_get?_oneUnit hfile]
  decide +kernel

/-- The same directory has one unit, or none if its path is written with enough slashes. -/
theorem collectUnits_relocated_slashed :
    let entries := [("a.json", Node.file ByteArray.empty)]
    FileTree.oneUnit.node? ⟨"d"⟩ = some (.directory entries) ∧
      FileTree.oneUnit.node? Path.slashed = some (.directory entries) ∧
      ¬ ∃ relatives : List Path,
        Analyzer.collectUnits {} FileTree.oneUnit [⟨"d"⟩] = .ok (relatives.map (Path.join ⟨"d"⟩)) ∧
          Analyzer.collectUnits {} FileTree.oneUnit [Path.slashed] =
            .ok (relatives.map Path.slashed.join) := by
  intro entries
  refine ⟨rfl, FileTree.node?_slashed, ?_⟩
  rintro ⟨relatives, hunits, hslashed⟩
  have hwf : (Node.directory entries).WellFormed :=
    FileTree.wellFormed_oneUnit.node? FileTree.node?_slashed
  have hnone : ((relativeUnits {} (.directory entries)).map Path.slashed.join).filter
      Path.isShort = [] := by
    refine List.filter_eq_nil_iff.2 fun unit hunit => ?_
    obtain ⟨relative, hmem, rfl⟩ := List.mem_map.1 hunit
    obtain ⟨names, content, rfl, hfile, -, -⟩ := (mem_relativeUnits hwf).1 hmem
    rw [eq_of_get?_oneUnit hfile, Path.isShort, decide_eq_true_eq, Nat.not_lt]
    exact Path.pathLimit_le_slashed
  rw [Analyzer.collectUnits, collectUnits_directory FileTree.wellFormed_oneUnit
    FileTree.node?_slashed, hnone, Except.ok.injEq, eq_comm, List.map_eq_nil_iff] at hslashed
  have hat : unitsAt {} FileTree.oneUnit ⟨"d"⟩ = .ok [⟨"d/a.json"⟩] := by decide +kernel
  rw [Analyzer.collectUnits, collectUnits_one hat, hslashed] at hunits
  cases hunits

end Analyzer

end ReturnPaths
