import ReturnPaths.Proofs.Analysis.Collection
import ReturnPaths.Proofs.Analysis.Contents
import ReturnPaths.Proofs.FlowUnit.RoundTrip

/-!
# Units that cannot be loaded

A unit that cannot be loaded contributes no issues, and it does not keep the others from
contributing theirs.  So the issues of a run depend on nothing but the units that can be loaded:
files that contain none may be added, removed or changed at will.

* `FileTree.SameUnits` : trees that hold the same units.
* `Analyzer.analyzePaths_issues` : the issues of a run, and that they are the same in such trees.
-/

namespace ReturnPaths

/-- Two trees hold the same units: wherever the one has a file that contains a flow unit, the other
has a file with the same content. -/
structure FileTree.SameUnits (files files' : FileTree) : Prop where
  /-- Relative paths start from the same place. -/
  workingDirectory : files'.workingDirectory = files.workingDirectory
  /-- Files with a flow unit are the same in both. -/
  units : ∀ position content, (FlowUnit.ofBytes? content).isSome = true →
    (files.root.get? position = some (.file content) ↔
      files'.root.get? position = some (.file content))

namespace FileTree.SameUnits

variable {files files' : FileTree} {config : Config} {path : Path}

theorem symm (h : files.SameUnits files') : files'.SameUnits files where
  workingDirectory := h.workingDirectory.symm
  units position content hcontent := (h.units position content hcontent).symm

theorem position (h : files.SameUnits files') (path : Path) :
    files'.position path = files.position path := by
  rw [FileTree.position, FileTree.position, h.workingDirectory]

/-- A file with a flow unit is denoted by the same path in the other tree, if the path denotes
anything there. -/
theorem node?_file (h : files.SameUnits files') {content : ByteArray} {node : Node}
    (hcontent : (FlowUnit.ofBytes? content).isSome = true)
    (hfile : files.node? path = some (.file content)) (hnode : files'.node? path = some node) :
    node = .file content := by
  have hget := (h.units _ _ hcontent).1 (get?_position hfile)
  rw [← h.position, get?_position_of_file hfile hnode] at hget
  exact Option.some.inj hget

theorem isUnit (h : files.SameUnits files') (hfiles : files.WellFormed) {unit : Path}
    {content : ByteArray} (hcontent : (FlowUnit.ofBytes? content).isSome = true)
    (hunit : IsUnit config files path unit) (hfile : files.node? unit = some (.file content))
    (hpath : files'.isFile path = true ∨ files'.isDirectory path = true) :
    IsUnit config files' path unit := by
  obtain ⟨node, hnode⟩ : ∃ node, files'.node? path = some node := by
    rcases hpath with hpath | hpath
    · obtain ⟨content, hnode⟩ := isFile_iff.1 hpath
      exact ⟨_, hnode⟩
    · obtain ⟨entries, hnode⟩ := isDirectory_iff.1 hpath
      exact ⟨_, hnode⟩
  cases hunit with
  | file _ =>
    rw [h.node?_file hcontent hfile hnode] at hnode
    exact .file (isFile_iff.2 ⟨content, hnode⟩)
  | @below entries names content' hdir hbelow hextension hkept =>
    have hwf : (Node.directory entries).WellFormed := hfiles.node? hdir
    have hne : names ≠ [] := Node.ne_nil_of_get?_directory hbelow
    have hnames : ∀ name ∈ names, Path.EntryName name := hwf.entryName hbelow
    -- the file stands at the same position in both trees, so the path leads to a directory above it
    have hget := (h.units _ _ hcontent).1 (get?_position hfile)
    rw [position_join (text_ne_empty hdir) hne hnames, ← h.position] at hget
    have hleaves := leaves_position hnode
    cases node with
    | file content'' =>
      rw [Node.get?_append, hleaves.get?_file, Option.bind_some] at hget
      exact absurd (Node.eq_nil_of_get?_file hget) hne
    | directory entries' =>
      rw [hleaves.get?_append hne] at hget
      exact .below hnode hget hextension hkept

theorem exists_same_loads (h : files.SameUnits files') (hfiles : files.WellFormed)
    (hfiles' : files'.WellFormed) {paths units units' : List Path}
    (hunits : collectUnits config files paths = .ok units)
    (hunits' : collectUnits config files' paths = .ok units') {x : Path}
    (hx : ∃ unit ∈ units.filter (loads files), unit.same x = true) :
    ∃ unit ∈ units'.filter (loads files'), unit.same x = true := by
  obtain ⟨a, ha, hax⟩ := hx
  obtain ⟨ha, hloads⟩ := List.mem_filter.1 ha
  obtain ⟨flowUnit, hload⟩ := loads_iff.1 hloads
  obtain ⟨content, hnode, hflowUnit⟩ := loadUnit_eq_ok.1 hload
  have hcontent : (FlowUnit.ofBytes? content).isSome = true := by rw [hflowUnit]; rfl
  obtain ⟨path, hpath, unit, hunit, hlength, hua⟩ :=
    (exists_same_collectUnits hfiles hunits a).1 ⟨a, ha, Path.same_self a⟩
  have hfile : files.node? unit = some (.file content) := by
    obtain ⟨content', hfile⟩ := isFile_iff.1 ((hunit.isFile_iff hfiles).2 hlength)
    rw [hfile, node?_congr hua hfile hnode]
  -- the same path takes the unit in the other tree, where it is collected in some spelling
  have hunit' := h.isUnit hfiles hcontent hunit hfile (denotes_of_collectUnits hunits' path hpath)
  obtain ⟨b, hb, hbu⟩ :=
    (exists_same_collectUnits hfiles' hunits' unit).2 ⟨path, hpath, unit, hunit', hlength,
      Path.same_self unit⟩
  obtain ⟨content', hnode'⟩ := isFile_iff.1 (isFile_of_mem_collectUnits hfiles' hunits' b hb)
  have hfile' : files'.node? unit = some (.file content) := by
    obtain ⟨content'', hfile'⟩ := isFile_iff.1 ((hunit'.isFile_iff hfiles').2 hlength)
    rw [hfile', h.node?_file hcontent hfile hfile']
  have hload' : loadUnit files' b = .ok flowUnit := by
    refine loadUnit_eq_ok.2 ⟨content, ?_, hflowUnit⟩
    rw [hnode', node?_congr hbu hnode' hfile']
  exact ⟨b, List.mem_filter.2 ⟨hb, loads_iff.2 ⟨flowUnit, hload'⟩⟩,
    Path.same_trans hbu (Path.same_trans hua hax)⟩

theorem sameContent (h : files.SameUnits files') {a b : Path} (hab : a.same b = true)
    (ha : loads files a = true) (hb : loads files' b = true) : files.SameContent files' a b := by
  obtain ⟨unit, hload⟩ := loads_iff.1 ha
  obtain ⟨content, hnode, hcontent⟩ := loadUnit_eq_ok.1 hload
  obtain ⟨unit', hload'⟩ := loads_iff.1 hb
  obtain ⟨content', hnode', -⟩ := loadUnit_eq_ok.1 hload'
  have hget := (h.units _ _ (by rw [hcontent]; rfl)).1 (get?_position hnode)
  rw [position_congr files hab, ← h.position, get?_position hnode'] at hget
  cases hget
  exact ⟨content, hnode, hnode'⟩

end FileTree.SameUnits

namespace Analyzer

variable (analyzer : Analyzer) {session session' : Session}

theorem flatMap_issuesAt (session : Session) (units : List Path) :
    units.flatMap (analyzer.issuesAt session) =
      (units.filter (loads session.files)).flatMap (analyzer.issuesAt session) := by
  induction units with
  | nil => rfl
  | cons unit units ih =>
    rw [List.flatMap_cons, List.filter_cons, ih]
    by_cases hloads : loads session.files unit = true
    · rw [if_pos hloads, List.flatMap_cons]
    · rw [if_neg hloads]
      have hnone : analyzer.issuesAt session unit = [] := by
        rw [issuesAt_eq]
        cases hload : loadUnit session.files unit with
        | error error => rfl
        | ok flowUnit => exact absurd (loads_iff.2 ⟨flowUnit, hload⟩) hloads
      rw [hnone, List.nil_append]

/-- In trees with the same units, the units of a run have the same issues, in the same order. -/
theorem flatMap_issuesAt_congr (h : session.files.SameUnits session'.files)
    (hfiles : session.files.WellFormed) (hfiles' : session'.files.WellFormed)
    {paths units units' : List Path}
    (hunits : analyzer.collectUnits session.files paths = .ok units)
    (hunits' : analyzer.collectUnits session'.files paths = .ok units') :
    units'.flatMap (analyzer.issuesAt session') = units.flatMap (analyzer.issuesAt session) := by
  have hsame : List.Forall₂ (fun a b => a.same b = true)
      (units.filter (loads session.files)) (units'.filter (loads session'.files)) := by
    refine Path.Increasing.forall₂_same ?_ ?_ fun x => ⟨?_, ?_⟩
    · exact (increasing_collectUnits hunits).sublist List.filter_sublist
    · exact (increasing_collectUnits hunits').sublist List.filter_sublist
    · exact h.exists_same_loads hfiles hfiles' hunits hunits'
    · exact h.symm.exists_same_loads hfiles' hfiles hunits' hunits
  -- both lists go in step, so it remains to compare what is loaded from the same path
  have hcontent : List.Forall₂ (session.files.SameContent session'.files)
      (units.filter (loads session.files)) (units'.filter (loads session'.files)) :=
    forall₂_imp_of_mem hsame fun a ha b hb hab =>
      h.sameContent hab (List.mem_filter.1 ha).2 (List.mem_filter.1 hb).2
  rw [flatMap_issuesAt, analyzer.flatMap_issuesAt session,
    analyzer.flatMap_issuesAt_of_sameContent hcontent]

/-- **The issues of a run.**  Whenever units are collected, the run succeeds, and its issues are the
stable sort of those that the units have on their own, one unit after the other; a unit that cannot
be loaded has none.  The issues are the same in every tree that holds the same units, whatever other
files there are. -/
theorem analyzePaths_issues (analyzer : Analyzer) (session : Session) (paths units : List Path)
    (hsession : session.Sound) (hunits : analyzer.collectUnits session.files paths = .ok units) :
    ∃ analysis last, (analyzer.analyzePaths paths).run session = (.ok analysis, last) ∧
      StablySorted Issue.compare (units.flatMap (analyzer.issuesAt session))
        analysis.issues.toList ∧
      ∀ session' units', session'.Sound → session.files.WellFormed → session'.files.WellFormed →
        session.files.SameUnits session'.files →
          analyzer.collectUnits session'.files paths = .ok units' →
            ∃ analysis' last', (analyzer.analyzePaths paths).run session' = (.ok analysis', last') ∧
              analysis'.issues = analysis.issues := by
  obtain ⟨analysis, last, hrun, hissues, -⟩ :=
    analyzer.run_analyzePaths_ok hsession (Session.later_refl hsession) hunits
  refine ⟨analysis, last, hrun, ?_, ?_⟩
  · rw [hissues]
    exact IssueCollection.stablySorted_sort ⟨units.flatMap (analyzer.issuesAt session)⟩
  · intro session' units' hsession' hfiles hfiles' hsame hunits'
    obtain ⟨analysis', last', hrun', hissues', -⟩ :=
      analyzer.run_analyzePaths_ok hsession' (Session.later_refl hsession') hunits'
    refine ⟨analysis', last', hrun', ?_⟩
    rw [hissues, hissues',
      analyzer.flatMap_issuesAt_congr hsame hfiles hfiles' hunits hunits']

end Analyzer

/-! ### A unit beside a file that contains none -/

/-- A unit whose only method falls off its end. -/
def FlowUnit.fallingOff : FlowUnit where
  file := ⟨"A"⟩
  subjects := [⟨"f", .method, true, some ⟨"int", .primitive⟩,
    some ⟨[⟨.fallThrough, none, false⟩], some { range := ⟨3, 9⟩, location := ⟨2, 5⟩ }⟩, []⟩]

/-- The issue of this unit. -/
def Issue.fallingOff : Issue where
  check := "return.missing"
  severity := .error
  message := "Method f(): Not all execution paths return a value"
  file := (⟨"A"⟩ : Path)
  line := 2
  column := 5
  subject := some "f"
  tip := some "Return a value or throw on every path"

/-- A directory with this unit and with an empty file. -/
def FileTree.withBroken : FileTree where
  root := .directory [("d", .directory
    [("a.json", .file FlowUnit.fallingOff.toJson.toUTF8), ("b.json", .file ByteArray.empty)])]
  workingDirectory := []

/-- The same directory without the empty file. -/
def FileTree.withoutBroken : FileTree where
  root := .directory [("d", .directory [("a.json", .file FlowUnit.fallingOff.toJson.toUTF8)])]
  workingDirectory := []

theorem FlowUnit.ofBytes?_fallingOff :
    FlowUnit.ofBytes? FlowUnit.fallingOff.toJson.toUTF8 = some FlowUnit.fallingOff := by
  have hread : FlowUnit.ofJson FlowUnit.fallingOff.toJson = .ok FlowUnit.fallingOff := by
    refine readWhole_eq_ok FlowUnit.fallingOff.json.writes_compact ?_
    rw [FlowUnit.fallingOff.written depthLimit]
    exact if_pos (by decide)
  rw [FlowUnit.ofBytes?, fromUTF8?_toUTF8, Option.bind_some, hread]
  rfl

theorem FlowUnit.ofBytes?_empty : FlowUnit.ofBytes? ByteArray.empty = none :=
  Logger.not_unit []

namespace FileTree

theorem wellFormed_withBroken : withBroken.WellFormed := by
  have hd : FileName "d" := by decide
  have ha : FileName "a.json" := by decide
  have hb : FileName "b.json" := by decide
  have hinner : (Node.directory [("a.json", .file FlowUnit.fallingOff.toJson.toUTF8),
      ("b.json", .file ByteArray.empty)]).WellFormed := by
    refine Node.wellFormed_directory ?_ (by simp)
    simpa using ⟨⟨ha, Node.wellFormed_file _⟩, hb, Node.wellFormed_file _⟩
  exact Node.wellFormed_directory (by simpa using ⟨hd, hinner⟩) (by simp)

theorem wellFormed_withoutBroken : withoutBroken.WellFormed := by
  have hd : FileName "d" := by decide
  have ha : FileName "a.json" := by decide
  have hinner : (Node.directory
      [("a.json", .file FlowUnit.fallingOff.toJson.toUTF8)]).WellFormed :=
    Node.wellFormed_directory (by simpa using ⟨ha, Node.wellFormed_file _⟩) (by simp)
  exact Node.wellFormed_directory (by simpa using ⟨hd, hinner⟩) (by simp)

theorem sameUnits_withoutBroken : withBroken.SameUnits withoutBroken where
  workingDirectory := rfl
  units position content hcontent := by
    constructor
    · intro hget
      have hmem : position ∈ withBroken.root.files :=
        (Node.mem_files _ wellFormed_withBroken _).2 ⟨content, hget⟩
      obtain rfl | rfl : position = ["d", "a.json"] ∨ position = ["d", "b.json"] := by
        simpa [withBroken, Node.files, Node.filesIn] using hmem
      · exact hget
      · -- the empty file contains no unit
        cases hget
        rw [FlowUnit.ofBytes?_empty] at hcontent
        cases hcontent
    · intro hget
      have hmem : position ∈ withoutBroken.root.files :=
        (Node.mem_files _ wellFormed_withoutBroken _).2 ⟨content, hget⟩
      obtain rfl : position = ["d", "a.json"] := List.mem_singleton.1 hmem
      exact hget

theorem collectUnits_withBroken :
    collectUnits {} withBroken [⟨"d"⟩] = .ok [⟨"d/a.json"⟩, ⟨"d/b.json"⟩] := by
  have hunits : unitsAt {} withBroken ⟨"d"⟩ = .ok [⟨"d/a.json"⟩, ⟨"d/b.json"⟩] := by
    decide +kernel
  have hsorted : [(⟨"d/a.json"⟩ : Path), ⟨"d/b.json"⟩].Pairwise
      fun a b => Path.le a b = true := by decide
  rw [collectUnits_singleton hunits, List.mergeSort_of_pairwise hsorted]
  rfl

theorem collectUnits_withoutBroken :
    collectUnits {} withoutBroken [⟨"d"⟩] = .ok [⟨"d/a.json"⟩] :=
  collectUnits_one (by decide +kernel)

end FileTree

namespace Analyzer

variable {session : Session}

theorem issuesAt_fallingOff {path : Path} (hnode : session.files.node? path =
    some (.file FlowUnit.fallingOff.toJson.toUTF8)) :
    Analyzer.issuesAt {} session path = [Issue.fallingOff] := by
  rw [issuesAt_file _ hnode, FlowUnit.ofBytes?_fallingOff]
  rfl

theorem issuesAt_empty {path : Path}
    (hnode : session.files.node? path = some (.file ByteArray.empty)) :
    Analyzer.issuesAt {} session path = [] := by
  rw [issuesAt_file _ hnode, FlowUnit.ofBytes?_empty]

theorem flatMap_issuesAt_withBroken (hfiles : session.files = FileTree.withBroken) :
    [⟨"d/a.json"⟩, ⟨"d/b.json"⟩].flatMap (Analyzer.issuesAt {} session) = [Issue.fallingOff] := by
  have hloaded : Analyzer.issuesAt {} session ⟨"d/a.json"⟩ = [Issue.fallingOff] :=
    issuesAt_fallingOff (hfiles ▸ rfl)
  have hbroken : Analyzer.issuesAt {} session ⟨"d/b.json"⟩ = [] := issuesAt_empty (hfiles ▸ rfl)
  rw [List.flatMap_cons, List.flatMap_singleton, hloaded, hbroken, List.append_nil]

/-- The unit has its issue, whether the file beside it is there or not. -/
theorem analyzePaths_issues_oneUnit :
    let session : Session := { files := FileTree.withBroken }
    let session' : Session := { files := FileTree.withoutBroken }
    session.Sound ∧ session'.Sound ∧ session.files.WellFormed ∧ session'.files.WellFormed ∧
      Analyzer.collectUnits {} session.files [⟨"d"⟩] = .ok [⟨"d/a.json"⟩, ⟨"d/b.json"⟩] ∧
      session.files.SameUnits session'.files ∧
      Analyzer.collectUnits {} session'.files [⟨"d"⟩] = .ok [⟨"d/a.json"⟩] ∧
      ∃ analysis last analysis' last',
        (Analyzer.analyzePaths {} [⟨"d"⟩]).run session = (.ok analysis, last) ∧
        analysis.issues = ⟨[Issue.fallingOff]⟩ ∧
        (Analyzer.analyzePaths {} [⟨"d"⟩]).run session' = (.ok analysis', last') ∧
        analysis'.issues = ⟨[Issue.fallingOff]⟩ := by
  intro session session'
  have hsession : session.Sound := Session.sound_of_no_log rfl
  have hsession' : session'.Sound := Session.sound_of_no_log rfl
  have hunits : Analyzer.collectUnits {} session.files [⟨"d"⟩] =
      .ok [⟨"d/a.json"⟩, ⟨"d/b.json"⟩] := FileTree.collectUnits_withBroken
  have hunits' : Analyzer.collectUnits {} session'.files [⟨"d"⟩] = .ok [⟨"d/a.json"⟩] :=
    FileTree.collectUnits_withoutBroken
  obtain ⟨analysis, last, hrun, hstable, hsame⟩ :=
    analyzePaths_issues {} session [⟨"d"⟩] _ hsession hunits
  obtain ⟨analysis', last', hrun', hissues'⟩ :=
    hsame session' _ hsession' FileTree.wellFormed_withBroken FileTree.wellFormed_withoutBroken
      FileTree.sameUnits_withoutBroken hunits'
  have hissues : analysis.issues = ⟨[Issue.fallingOff]⟩ := by
    rw [flatMap_issuesAt_withBroken rfl] at hstable
    exact congrArg IssueCollection.mk
      (hstable.unique ⟨List.pairwise_singleton _ _, fun _ => rfl⟩)
  exact ⟨hsession, hsession', FileTree.wellFormed_withBroken, FileTree.wellFormed_withoutBroken,
    hunits, FileTree.sameUnits_withoutBroken, hunits', analysis, last, analysis', last', hrun,
    hissues, hrun', hissues'.trans hissues⟩

end Analyzer

end ReturnPaths
