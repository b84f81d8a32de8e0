import ReturnPaths.Proofs.Analysis.Collection
import ReturnPaths.Proofs.Analysis.Running
import ReturnPaths.Proofs.Path.Front

/-!
# Files given more than once

Paths are compared by their components and nothing is resolved.  So a file is taken once for all
paths with the same front that lead to it, however they overlap, but it is taken again for a path
with another front: below `.`, below the root, or by way of a `..`.

* `front_of_mem_collectUnits` : the units start as the given paths do.
* `Analyzer.analyzePaths_once` : no file is analyzed twice, if all paths start in the same way.
* `Analyzer.collectUnits_respelled` : the same file in two spellings.
-/

namespace ReturnPaths

section Units

variable {config : Config} {files : FileTree} {path unit : Path} {paths units : List Path}

theorem IsUnit.front_eq (hfiles : files.WellFormed) (h : IsUnit config files path unit) :
    unit.front = path.front := by
  cases h with
  | file => rfl
  | @below entries names content hdir hfile _ _ =>
    have hwf : (Node.directory entries).WellFormed := hfiles.node? hdir
    have hne : names ≠ [] := Node.ne_nil_of_get?_directory hfile
    exact Path.front_join (FileTree.text_ne_empty hdir) hne (hwf.entryName hfile)

theorem front_of_mem_collectUnits (hfiles : files.WellFormed)
    (h : collectUnits config files paths = .ok units) (hunit : unit ∈ units) :
    ∃ path ∈ paths, unit.front = path.front := by
  obtain ⟨path, hpath, hunit, -⟩ := isUnit_of_mem_collectUnits hfiles h hunit
  exact ⟨path, hpath, hunit.front_eq hfiles⟩

theorem pairwise_position_collectUnits (h : collectUnits config files paths = .ok units) :
    units.Pairwise fun a b => a.front = b.front → files.position a ≠ files.position b := by
  refine (increasing_collectUnits h).imp fun {a b} hlt hfront hposition => ?_
  have hsame := files.same_of_position hfront hposition
  rw [Path.not_same_of_lt hlt] at hsame
  cases hsame

/-- The units for two paths with one each, the first of which does not come after the second. -/
theorem collectUnits_pair {a b a' b' : Path} (ha : unitsAt config files a = .ok [a'])
    (hb : unitsAt config files b = .ok [b']) (hle : a'.le b' = true) :
    collectUnits config files [a, b] = .ok (dropRepeated [a', b']) := by
  have hfound : [a, b].mapM (unitsAt config files) = .ok [[a'], [b']] :=
    mapM_eq_ok.2 (.cons ha (.cons hb .nil))
  have hsorted : [a', b'].mergeSort Path.le = [a', b'] :=
    List.mergeSort_of_pairwise (List.pairwise_pair.2 hle)
  rw [collectUnits_eq (List.cons_ne_nil _ _), hfound, Except.map, List.flatten_cons,
    List.flatten_singleton, List.singleton_append, hsorted]

end Units

namespace Analyzer

/-- **Each file once.**  No two units with the same front are the same file.  If all given paths
have the same front, no file is taken twice, and the issues of the run are those of its units. -/
theorem analyzePaths_once (analyzer : Analyzer) (session : Session) (paths units : List Path)
    (hsession : session.Sound) (hfiles : session.files.WellFormed)
    (hunits : analyzer.collectUnits session.files paths = .ok units) :
    (units.Pairwise fun a b =>
        a.front = b.front → session.files.position a ≠ session.files.position b) ∧
      ((∀ a ∈ paths, ∀ b ∈ paths, a.front = b.front) →
        (units.map session.files.position).Nodup ∧
          ∃ analysis last, (analyzer.analyzePaths paths).run session = (.ok analysis, last) ∧
            StablySorted Issue.compare (units.flatMap (analyzer.issuesAt session))
              analysis.issues.toList) := by
  have hpairwise := pairwise_position_collectUnits hunits
  refine ⟨hpairwise, fun hfront => ⟨?_, analyzer.run_analyzePaths_sorted hsession hunits⟩⟩
  refine List.pairwise_map.2 (hpairwise.imp_of_mem fun {a b} ha hb hne => hne ?_)
  -- each unit starts as one of the given paths does, and these all start in the same way
  obtain ⟨path, hpath, ha⟩ := front_of_mem_collectUnits hfiles hunits ha
  obtain ⟨path', hpath', hb⟩ := front_of_mem_collectUnits hfiles hunits hb
  rw [ha, hb, hfront path hpath path' hpath']

theorem analyzePaths_once_oneUnit :
    Session.Sound { files := FileTree.oneUnit } ∧ FileTree.oneUnit.WellFormed ∧
      Analyzer.collectUnits {} FileTree.oneUnit [⟨"d"⟩, ⟨"d//a.json"⟩] = .ok [⟨"d/a.json"⟩] ∧
      (∀ a ∈ [(⟨"d"⟩ : Path), ⟨"d//a.json"⟩], ∀ b ∈ [(⟨"d"⟩ : Path), ⟨"d//a.json"⟩],
        a.front = b.front) ∧
      ([(⟨"d/a.json"⟩ : Path)].map FileTree.oneUnit.position).Nodup := by
  have hsession : Session.Sound { files := FileTree.oneUnit } := Session.sound_of_no_log rfl
  have hunits : Analyzer.collectUnits {} FileTree.oneUnit [⟨"d"⟩, ⟨"d//a.json"⟩] =
      .ok [⟨"d/a.json"⟩] := by
    have hbelow : unitsAt {} FileTree.oneUnit ⟨"d"⟩ = .ok [⟨"d/a.json"⟩] := by decide +kernel
    have hfile : unitsAt {} FileTree.oneUnit ⟨"d//a.json"⟩ = .ok [⟨"d//a.json"⟩] := rfl
    exact collectUnits_pair hbelow hfile (by decide +kernel)
  have hfront : ∀ a ∈ [(⟨"d"⟩ : Path), ⟨"d//a.json"⟩], ∀ b ∈ [(⟨"d"⟩ : Path), ⟨"d//a.json"⟩],
      a.front = b.front := by decide
  exact ⟨hsession, FileTree.wellFormed_oneUnit, hunits, hfront,
    ((analyzePaths_once {} { files := FileTree.oneUnit } _ _ hsession FileTree.wellFormed_oneUnit
      hunits).2 hfront).1⟩

/-- The same file below `.` and without it is taken twice. -/
theorem collectUnits_respelled :
    FileTree.oneUnit.WellFormed ∧
      Analyzer.collectUnits {} FileTree.oneUnit [⟨"./d/a.json"⟩, ⟨"d/a.json"⟩] =
        .ok [⟨"./d/a.json"⟩, ⟨"d/a.json"⟩] ∧
      ¬ ([(⟨"./d/a.json"⟩ : Path), ⟨"d/a.json"⟩].map FileTree.oneUnit.position).Nodup := by
  refine ⟨FileTree.wellFormed_oneUnit, ?_, by decide⟩
  have hbelow : unitsAt {} FileTree.oneUnit ⟨"./d/a.json"⟩ = .ok [⟨"./d/a.json"⟩] := rfl
  have hfile : unitsAt {} FileTree.oneUnit ⟨"d/a.json"⟩ = .ok [⟨"d/a.json"⟩] := rfl
  exact collectUnits_pair hbelow hfile (by decide +kernel)

end Analyzer

end ReturnPaths
