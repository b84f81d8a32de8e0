import ReturnPaths.Proofs.Analysis.Relocation
import ReturnPaths.Proofs.Analysis.Spelling

/-!
# Lists of exclude patterns

A path is left out if one of the patterns covers it, each on its own and whatever the others are.
So two lists of patterns leave out together what each of them leaves out, and more patterns never
bring back a unit.  Files that are given themselves are not held against the patterns.

* `Config.excluding` : a configuration with other patterns.
* `Config.isExcluded_append`, `Config.isExcluded_iff` : what lists of patterns leave out.
* `collectUnits_congr`, `exists_sublist_collectUnits` : what is collected with patterns that leave
  out the same paths, or more of them.
* `collectUnits_excluding_append` : what is collected with two lists of patterns together.
-/

namespace ReturnPaths

namespace Config

variable {config : Config} {patterns patterns' : List String}

/-- The configuration with these exclude patterns. -/
def excluding (config : Config) (patterns : List String) : Config :=
  { config with exclude := patterns }

theorem isExcluded_iff {path : Path} : (config.excluding patterns).isExcluded path = true ↔
    ∃ pattern ∈ patterns, (config.excluding [pattern]).isExcluded path = true := by
  simp only [isExcluded, excluding, List.any_eq_true, List.mem_singleton, exists_eq_left]

theorem isExcluded_append {path : Path} :
    (config.excluding (patterns ++ patterns')).isExcluded path = true ↔
      (config.excluding patterns).isExcluded path = true ∨
        (config.excluding patterns').isExcluded path = true := by
  rw [isExcluded, excluding, List.any_append, Bool.or_eq_true]
  rfl

theorem isExcluded_congr (h : ∀ pattern, pattern ∈ patterns ↔ pattern ∈ patterns') (path : Path) :
    (config.excluding patterns).isExcluded path =
      (config.excluding patterns').isExcluded path := by
  rw [Bool.eq_iff_iff, isExcluded_iff, isExcluded_iff]
  simp only [h]

end Config

section Units

variable {config config' : Config} {files : FileTree} {root path unit : Path}
variable {paths units units' : List Path}

theorem collectUnits_congr (h : ∀ path, config.isExcluded path = config'.isExcluded path)
    (files : FileTree) (paths : List Path) :
    collectUnits config files paths = collectUnits config' files paths := by
  have hunits : unitsAt config files = unitsAt config' files := by
    funext path
    simp only [unitsAt, unitsBelow, h]
  rw [collectUnits, collectUnits, hunits]

/-- No pattern decides whether units are collected at all. -/
theorem collectUnits_eq_error_iff {error : AnalysisError} :
    collectUnits config files paths = .error error ↔
      collectUnits config' files paths = .error error := by
  by_cases hpaths : paths = []
  · rw [hpaths]
    rfl
  · have hmap (config : Config) : collectUnits config files paths = .error error ↔
        paths.mapM (unitsAt config files) = .error error := by
      rw [collectUnits_eq hpaths]
      cases paths.mapM (unitsAt config files) with
      | error error' => exact ⟨fun h => by cases h; rfl, fun h => by cases h; rfl⟩
      | ok found => exact ⟨nofun, nofun⟩
    rw [hmap, hmap, mapM_eq_error, mapM_eq_error]
    simp only [unitsAt_eq_ok, unitsAt_eq_error]

theorem IsUnit.imp (h : ∀ path, config.isExcluded path = true → config'.isExcluded path = true)
    (hunit : IsUnit config' files path unit) : IsUnit config files path unit := by
  cases hunit with
  | file hfile => exact .file hfile
  | below hdir hfile hextension hkept =>
    refine .below hdir hfile hextension ?_
    rw [Bool.eq_false_iff] at hkept ⊢
    exact mt (h _) hkept

theorem exists_sublist_collectUnits (hfiles : files.WellFormed)
    (h : ∀ path, config.isExcluded path = true → config'.isExcluded path = true)
    (hunits : collectUnits config files paths = .ok units)
    (hunits' : collectUnits config' files paths = .ok units') :
    ∃ part, part.Sublist units ∧ List.Forall₂ (fun a b => a.same b = true) units' part := by
  have hsublist : (units.filter fun unit => units'.any (·.same unit)).Sublist units :=
    List.filter_sublist
  refine ⟨_, hsublist, (increasing_collectUnits hunits').forall₂_same
    ((increasing_collectUnits hunits).sublist hsublist) fun x => ?_⟩
  constructor
  · rintro ⟨unit', hmem', hsame'⟩
    obtain ⟨path, hpath, unit, hunit, hlength, hsame⟩ :=
      (exists_same_collectUnits hfiles hunits' unit').1 ⟨unit', hmem', Path.same_self unit'⟩
    obtain ⟨kept, hkept, hsameKept⟩ := (exists_same_collectUnits hfiles hunits unit').2
      ⟨path, hpath, unit, hunit.imp h, hlength, hsame⟩
    refine ⟨kept, List.mem_filter.2 ⟨hkept, ?_⟩, Path.same_trans hsameKept hsame'⟩
    exact List.any_eq_true.2 ⟨unit', hmem', Path.same_symm hsameKept⟩
  · rintro ⟨kept, hkept, hsame⟩
    obtain ⟨unit', hmem', hsame'⟩ := List.any_eq_true.1 (List.mem_filter.1 hkept).2
    exact ⟨unit', hmem', Path.same_trans hsame' hsame⟩

theorem exists_same_of_isFile (hfiles : files.WellFormed)
    (hunits : collectUnits config files paths = .ok units) (hpath : path ∈ paths)
    (hfile : files.isFile path = true) : ∃ unit ∈ units, unit.same path = true := by
  obtain ⟨content, hnode⟩ := FileTree.isFile_iff.1 hfile
  exact (exists_same_collectUnits hfiles hunits path).2
    ⟨path, hpath, path, .file hfile, FileTree.text_length hnode, Path.same_self path⟩

variable {patterns patterns' : List String} {entries : List (String × Node)}

theorem mem_relativeUnits_append (hwf : (Node.directory entries).WellFormed) :
    path ∈ relativeUnits (config.excluding (patterns ++ patterns')) (.directory entries) ↔
      path ∈ relativeUnits (config.excluding patterns) (.directory entries) ∧
        path ∈ relativeUnits (config.excluding patterns') (.directory entries) := by
  rw [mem_relativeUnits hwf, mem_relativeUnits hwf, mem_relativeUnits hwf]
  simp only [Bool.eq_false_iff, Ne, Config.isExcluded_append, not_or]
  constructor
  · rintro ⟨names, content, hpath, hfile, hextension, hkept, hkept'⟩
    exact ⟨⟨names, content, hpath, hfile, hextension, hkept⟩,
      names, content, hpath, hfile, hextension, hkept'⟩
  · rintro ⟨⟨names, content, hpath, hfile, hextension, hkept⟩, -, -, -, -, -, hkept'⟩
    exact ⟨names, content, hpath, hfile, hextension, hkept, hkept'⟩

theorem collectUnits_directory_append (hfiles : files.WellFormed)
    (hroot : files.isDirectory root = true) :
    ∃ units units', collectUnits (config.excluding patterns) files [root] = .ok units ∧
      collectUnits (config.excluding patterns') files [root] = .ok units' ∧
        collectUnits (config.excluding (patterns ++ patterns')) files [root] =
          .ok (units.filter (· ∈ units')) := by
  obtain ⟨entries, hnode⟩ := FileTree.isDirectory_iff.1 hroot
  have hwf : (Node.directory entries).WellFormed := hfiles.node? hnode
  have hunits (config : Config) : collectUnits config files [root] = .ok
      (((relativeUnits config (.directory entries)).map root.join).filter Path.isShort) :=
    collectUnits_directory hfiles hnode
  refine ⟨_, _, hunits _, hunits _, ?_⟩
  rw [hunits]
  -- all three lists are increasing, so it remains to compare what they contain
  refine congrArg _ ((increasing_collectUnits (hunits _)).eq_of_mem_iff
    ((increasing_collectUnits (hunits _)).sublist List.filter_sublist) fun unit => ?_)
  simp only [List.mem_filter, List.mem_map, decide_eq_true_eq]
  constructor
  · rintro ⟨⟨path, hpath, hunit⟩, hshort⟩
    obtain ⟨hmem, hmem'⟩ := (mem_relativeUnits_append hwf).1 hpath
    exact ⟨⟨⟨path, hmem, hunit⟩, hshort⟩, ⟨path, hmem', hunit⟩, hshort⟩
  · rintro ⟨⟨⟨path, hmem, rfl⟩, hshort⟩, ⟨path', hmem', heq⟩, -⟩
    -- a unit is found under one relative path only
    have hsame : (root.join path').same (root.join path) = true := heq ▸ Path.same_self _
    obtain rfl : path' = path := (relative_of_mem_relativeUnits hwf hmem').eq_of_same_join
      (relative_of_mem_relativeUnits hwf hmem) (FileTree.text_ne_empty hnode) hsame
    exact ⟨⟨path', (mem_relativeUnits_append hwf).2 ⟨hmem, hmem'⟩, rfl⟩, hshort⟩

/-- **Lists of exclude patterns.**  A path is left out with two lists together if and only if it is
with one of them, and with one list if and only if it is with one of its patterns alone; so the
order of patterns and their repetition change nothing.  With two lists, collecting units fails as it
fails with one; else the units are among those for one list, in the same sequence, up to spelling,
and all files that were given are there; and for one directory they are the units that there are
with each of the lists. -/
theorem collectUnits_excluding_append (config : Config) (files : FileTree)
    (patterns patterns' : List String) (hfiles : files.WellFormed) :
    (∀ path, (config.excluding (patterns ++ patterns')).isExcluded path = true ↔
        (config.excluding patterns).isExcluded path = true ∨
          (config.excluding patterns').isExcluded path = true) ∧
      (∀ path, (config.excluding patterns).isExcluded path = true ↔
        ∃ pattern ∈ patterns, (config.excluding [pattern]).isExcluded path = true) ∧
      (∀ others : List String, (∀ pattern, pattern ∈ others ↔ pattern ∈ patterns) →
        (∀ path, (config.excluding others).isExcluded path =
          (config.excluding patterns).isExcluded path) ∧
        ∀ paths, collectUnits (config.excluding others) files paths =
          collectUnits (config.excluding patterns) files paths) ∧
      (∀ paths error, collectUnits (config.excluding (patterns ++ patterns')) files paths =
          .error error ↔ collectUnits (config.excluding patterns) files paths = .error error) ∧
      (∀ paths units, collectUnits (config.excluding patterns) files paths = .ok units →
        ∃ kept, collectUnits (config.excluding (patterns ++ patterns')) files paths = .ok kept ∧
          (∃ part, part.Sublist units ∧
            List.Forall₂ (fun a b => a.same b = true) kept part) ∧
          ∀ path ∈ paths, files.isFile path = true → ∃ unit ∈ kept, unit.same path = true) ∧
      ∀ root, files.isDirectory root = true →
        ∃ units units', collectUnits (config.excluding patterns) files [root] = .ok units ∧
          collectUnits (config.excluding patterns') files [root] = .ok units' ∧
          collectUnits (config.excluding (patterns ++ patterns')) files [root] =
            .ok (units.filter (· ∈ units')) := by
  refine ⟨fun path => Config.isExcluded_append, fun path => Config.isExcluded_iff,
    fun others hothers => ?_, fun paths error => collectUnits_eq_error_iff,
    fun paths units hunits => ?_, fun root => collectUnits_directory_append hfiles⟩
  · have hexcluded (path : Path) : (config.excluding others).isExcluded path =
        (config.excluding patterns).isExcluded path := Config.isExcluded_congr hothers path
    exact ⟨hexcluded, collectUnits_congr hexcluded files⟩
  · cases hkept : collectUnits (config.excluding (patterns ++ patterns')) files paths with
    | error error =>
      rw [collectUnits_eq_error_iff.1 hkept] at hunits
      cases hunits
    | ok kept =>
      refine ⟨kept, rfl, exists_sublist_collectUnits hfiles (fun path hpath => ?_) hunits hkept,
        fun path => exists_same_of_isFile hfiles hkept⟩
      exact Config.isExcluded_append.2 (.inl hpath)

end Units

/-- A pattern that is no glob, one for a directory that is not there, and then patterns of which the
second one leaves out the only unit: it is gone unless it is given itself. -/
theorem collectUnits_excluding_append_oneUnit :
    let patterns := ["[", "b/"]
    let patterns' := ["*.skip.json", "a.json"]
    let config : Config := {}
    FileTree.oneUnit.WellFormed ∧
      (config.excluding (patterns ++ patterns')).isExcluded ⟨"a.json"⟩ = true ∧
      FileTree.oneUnit.isDirectory ⟨"d"⟩ = true ∧
      collectUnits (config.excluding (patterns ++ patterns')) FileTree.oneUnit [⟨"d"⟩] = .ok [] ∧
      collectUnits (config.excluding patterns) FileTree.oneUnit [⟨"d"⟩, ⟨"d//a.json"⟩] =
        .ok [⟨"d/a.json"⟩] ∧
      ∃ kept, collectUnits (config.excluding (patterns ++ patterns')) FileTree.oneUnit
          [⟨"d"⟩, ⟨"d//a.json"⟩] = .ok kept ∧
        ∃ unit ∈ kept, unit.same ⟨"d//a.json"⟩ = true := by
  intro patterns patterns' config
  have hfiles := FileTree.wellFormed_oneUnit
  obtain ⟨happend, -, -, -, hkept, hdirectory⟩ :=
    collectUnits_excluding_append config FileTree.oneUnit patterns patterns' hfiles
  have hbelow : unitsAt (config.excluding patterns) FileTree.oneUnit ⟨"d"⟩ =
      .ok [⟨"d/a.json"⟩] := by decide +kernel
  have hbelow' : unitsAt (config.excluding patterns') FileTree.oneUnit ⟨"d"⟩ = .ok [] := by
    decide +kernel
  have hfile : unitsAt (config.excluding patterns) FileTree.oneUnit ⟨"d//a.json"⟩ =
      .ok [⟨"d//a.json"⟩] := rfl
  have hunits : collectUnits (config.excluding patterns) FileTree.oneUnit
      [⟨"d"⟩, ⟨"d//a.json"⟩] = .ok [⟨"d/a.json"⟩] :=
    collectUnits_pair hbelow hfile (by decide +kernel)
  refine ⟨hfiles, (happend _).2 (.inr (by decide)), rfl, ?_, hunits, ?_⟩
  · obtain ⟨units, units', -, hunits', hboth⟩ := hdirectory ⟨"d"⟩ rfl
    rw [collectUnits_singleton hbelow', List.mergeSort_nil] at hunits'
    cases hunits'
    rw [hboth]
    simp [dropRepeated]
  · obtain ⟨kept, hcollected, -, hgiven⟩ := hkept _ _ hunits
    exact ⟨kept, hcollected, hgiven ⟨"d//a.json"⟩ (by decide) rfl⟩

end ReturnPaths
