import ReturnPaths.Proofs.Analysis.Running
import Mathlib.Data.List.Forall2

/-!
# Files with the same content

The issues of a file depend on its content alone, neither on its path nor on anything else in the
tree.  So two runs whose units have the same contents, one by one, give the same issues.

* `FileTree.SameContent` : two paths, each in a tree of its own, denote files with one content.
* `Analyzer.run_analyzePaths_congr` : the issues of two runs.
-/

namespace ReturnPaths

theorem forall₂_imp_of_mem {α β : Type} {relation relation' : α → β → Prop} {as : List α}
    {bs : List β} (h : List.Forall₂ relation as bs)
    (himp : ∀ a ∈ as, ∀ b ∈ bs, relation a b → relation' a b) : List.Forall₂ relation' as bs := by
  obtain ⟨hlength, hzip⟩ := List.forall₂_iff_zip.1 h
  refine List.forall₂_iff_zip.2 ⟨hlength, fun {a b} hab => ?_⟩
  obtain ⟨ha, hb⟩ := List.of_mem_zip hab
  exact himp a ha b hb (hzip hab)

/-- Two paths denote files with the same content, the first path in the first tree and the second
one in the second. -/
def FileTree.SameContent (files files' : FileTree) (path path' : Path) : Prop :=
  ∃ content, files.node? path = some (.file content) ∧ files'.node? path' = some (.file content)

/-- Two spellings of a path have the same content, if both denote a file. -/
theorem FileTree.sameContent_of_same {files : FileTree} {a b : Path} (hsame : a.same b = true)
    (ha : files.isFile a = true) (hb : files.isFile b = true) : files.SameContent files a b := by
  obtain ⟨content, ha⟩ := isFile_iff.1 ha
  obtain ⟨content', hb⟩ := isFile_iff.1 hb
  refine ⟨content, ha, ?_⟩
  rw [hb, node?_congr hsame ha hb]

namespace Analyzer

variable (analyzer : Analyzer) {session session' : Session} {path path' : Path}

theorem issuesAt_file {content : ByteArray}
    (hnode : session.files.node? path = some (.file content)) :
    analyzer.issuesAt session path =
      match FlowUnit.ofBytes? content with
      | some unit => (analyzer.analyzeUnit unit).toList
      | none => [] := by
  rw [issuesAt_eq]
  cases hload : loadUnit session.files path with
  | ok unit =>
    obtain ⟨content', hnode', hunit⟩ := loadUnit_eq_ok.1 hload
    rw [hnode] at hnode'
    cases hnode'
    rw [hunit]
  | error error =>
    cases hunit : FlowUnit.ofBytes? content with
    | none => rfl
    | some unit =>
      rw [loadUnit_eq_ok.2 ⟨content, hnode, hunit⟩] at hload
      cases hload

theorem issuesAt_congr (h : session.files.SameContent session'.files path path') :
    analyzer.issuesAt session path = analyzer.issuesAt session' path' := by
  obtain ⟨content, hnode, hnode'⟩ := h
  rw [analyzer.issuesAt_file hnode, analyzer.issuesAt_file hnode']

theorem flatMap_issuesAt_of_sameContent {units units' : List Path}
    (h : List.Forall₂ (session.files.SameContent session'.files) units units') :
    units.flatMap (analyzer.issuesAt session) = units'.flatMap (analyzer.issuesAt session') := by
  induction h with
  | nil => rfl
  | cons hcontent _ ih =>
    rw [List.flatMap_cons, List.flatMap_cons, analyzer.issuesAt_congr hcontent, ih]

/-- **Runs over the same contents.**  Two runs whose units have the same contents, one by one, both
succeed and give the same issues. -/
theorem run_analyzePaths_congr (hsession : session.Sound) (hsession' : session'.Sound)
    {paths paths' units units' : List Path}
    (hunits : analyzer.collectUnits session.files paths = .ok units)
    (hunits' : analyzer.collectUnits session'.files paths' = .ok units')
    (h : List.Forall₂ (session.files.SameContent session'.files) units units') :
    ∃ analysis last analysis' last',
      (analyzer.analyzePaths paths).run session = (.ok analysis, last) ∧
        (analyzer.analyzePaths paths').run session' = (.ok analysis', last') ∧
          analysis'.issues = analysis.issues := by
  obtain ⟨analysis, last, hrun, hissues, -⟩ :=
    analyzer.run_analyzePaths_ok hsession (Session.later_refl hsession) hunits
  obtain ⟨analysis', last', hrun', hissues', -⟩ :=
    analyzer.run_analyzePaths_ok hsession' (Session.later_refl hsession') hunits'
  refine ⟨analysis, last, analysis', last', hrun, hrun', ?_⟩
  rw [hissues, hissues', analyzer.flatMap_issuesAt_of_sameContent h]

end Analyzer

end ReturnPaths
