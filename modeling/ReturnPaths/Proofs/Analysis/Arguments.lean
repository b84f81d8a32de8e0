import ReturnPaths.Proofs.Analysis.Contents
import ReturnPaths.Proofs.Analysis.Spelling

/-!
# The paths a run is given

What is collected depends on which paths are given and not on their order or on how often each of
them is given.  Where a file is given in several spellings, the order decides which of them is kept;
the file is the same, so the issues are the same.

* `forall₂_same_collectUnits` : what is collected for two lists of the same paths.
* `Analyzer.analyzePaths_of_mem_iff` : what comes out of the two runs.
-/

namespace ReturnPaths

section Units

variable {config : Config} {files : FileTree} {paths paths' units units' : List Path}

theorem exists_collectUnits_iff : (∃ units, collectUnits config files paths = .ok units) ↔
    (∃ path, path ∈ paths) ∧
      ∀ path ∈ paths, files.isFile path = true ∨ files.isDirectory path = true := by
  constructor
  · rintro ⟨units, hunits⟩
    refine ⟨List.exists_mem_of_ne_nil paths ?_, denotes_of_collectUnits hunits⟩
    rintro rfl
    cases hunits
  · rintro ⟨⟨path, hpath⟩, hdenote⟩
    exact exists_collectUnits (List.ne_nil_of_mem hpath) hdenote

theorem forall₂_same_collectUnits (hfiles : files.WellFormed)
    (hpaths : ∀ path, path ∈ paths ↔ path ∈ paths')
    (hunits : collectUnits config files paths = .ok units)
    (hunits' : collectUnits config files paths' = .ok units') :
    List.Forall₂ (fun a b => a.same b = true) units units' := by
  refine Path.Increasing.forall₂_same (increasing_collectUnits hunits)
    (increasing_collectUnits hunits') fun x => ?_
  rw [exists_same_collectUnits hfiles hunits, exists_same_collectUnits hfiles hunits']
  simp only [hpaths]

end Units

namespace Analyzer

/-- **Order and repetition of the given paths do not matter.**  For two lists of the same paths,
units are collected for both or for neither.  If they are, there are as many for the one as for the
other, the same paths stand at the same places, and the two runs give the same issues in the same
order. -/
theorem analyzePaths_of_mem_iff (analyzer : Analyzer) (session : Session) (paths paths' : List Path)
    (hsession : session.Sound) (hfiles : session.files.WellFormed)
    (hpaths : ∀ path, path ∈ paths ↔ path ∈ paths') :
    ((∃ units, analyzer.collectUnits session.files paths = .ok units) ↔
        ∃ units', analyzer.collectUnits session.files paths' = .ok units') ∧
      ∀ units units', analyzer.collectUnits session.files paths = .ok units →
        analyzer.collectUnits session.files paths' = .ok units' →
          List.Forall₂ (fun a b => a.same b = true) units units' ∧
            ∃ analysis last analysis' last',
              (analyzer.analyzePaths paths).run session = (.ok analysis, last) ∧
                (analyzer.analyzePaths paths').run session = (.ok analysis', last') ∧
                  analysis'.issues = analysis.issues := by
  refine ⟨?_, ?_⟩
  · refine exists_collectUnits_iff.trans (Iff.trans ?_ exists_collectUnits_iff.symm)
    simp only [hpaths]
  · intro units units' hunits hunits'
    have hsame := forall₂_same_collectUnits hfiles hpaths hunits hunits'
    -- all units are files, so two spellings of one of them lead to the same content
    have hcontent : List.Forall₂ (session.files.SameContent session.files) units units' :=
      forall₂_imp_of_mem hsame fun a ha b hb hab => FileTree.sameContent_of_same hab
        (isFile_of_mem_collectUnits hfiles hunits a ha)
        (isFile_of_mem_collectUnits hfiles hunits' b hb)
    exact ⟨hsame, analyzer.run_analyzePaths_congr hsession hsession hunits hunits' hcontent⟩

/-- A directory and a file in it, given in both orders: the file is kept in two spellings. -/
theorem analyzePaths_of_mem_iff_swapped :
    let paths : List Path := [⟨"d"⟩, ⟨"d//a.json"⟩]
    let paths' : List Path := [⟨"d//a.json"⟩, ⟨"d"⟩]
    Session.Sound { files := FileTree.oneUnit } ∧ FileTree.oneUnit.WellFormed ∧
      (∀ path, path ∈ paths ↔ path ∈ paths') ∧
      Analyzer.collectUnits {} FileTree.oneUnit paths = .ok [⟨"d/a.json"⟩] ∧
      Analyzer.collectUnits {} FileTree.oneUnit paths' = .ok [⟨"d//a.json"⟩] ∧
      ∃ analysis last analysis' last',
        (Analyzer.analyzePaths {} paths).run { files := FileTree.oneUnit } = (.ok analysis, last) ∧
          (Analyzer.analyzePaths {} paths').run { files := FileTree.oneUnit } =
            (.ok analysis', last') ∧
          analysis'.issues = analysis.issues := by
  intro paths paths'
  have hsession : Session.Sound { files := FileTree.oneUnit } := Session.sound_of_no_log rfl
  have hpaths : ∀ path, path ∈ paths ↔ path ∈ paths' := by
    intro path
    simp only [paths, paths', List.mem_cons, List.not_mem_nil, or_false]
    exact or_comm
  have hbelow : unitsAt {} FileTree.oneUnit ⟨"d"⟩ = .ok [⟨"d/a.json"⟩] := by decide +kernel
  have hfile : unitsAt {} FileTree.oneUnit ⟨"d//a.json"⟩ = .ok [⟨"d//a.json"⟩] := rfl
  have hunits : Analyzer.collectUnits {} FileTree.oneUnit paths = .ok [⟨"d/a.json"⟩] :=
    collectUnits_pair hbelow hfile (by decide +kernel)
  have hunits' : Analyzer.collectUnits {} FileTree.oneUnit paths' = .ok [⟨"d//a.json"⟩] :=
    collectUnits_pair hfile hbelow (by decide +kernel)
  exact ⟨hsession, FileTree.wellFormed_oneUnit, hpaths, hunits, hunits',
    ((analyzePaths_of_mem_iff {} { files := FileTree.oneUnit } paths paths' hsession
      FileTree.wellFormed_oneUnit hpaths).2 _ _ hunits hunits').2⟩

end Analyzer

end ReturnPaths
