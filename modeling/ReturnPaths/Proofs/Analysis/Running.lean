import ReturnPaths.Analysis.Analyzer
import ReturnPaths.Proofs.Issue.Order
import ReturnPaths.Proofs.Session

/-!
# Running an analysis

Units are analyzed one after the other, while a log may be written.  Since a log is no flow unit,
each file gives what it gives on its own, in the state in which the run started.

* `Analyzer.issuesAt` : the issues of one file.
* `Analyzer.run_analyzePaths_ok` : the issues and the failures of a run, from those of its units.
* `Analyzer.run_analyzePaths_sorted` : its issues alone, as a sorted list.
-/

namespace ReturnPaths

/-! ### Loading -/

section Loading

variable {session later : Session} {files : FileTree} {path : Path} {unit : FlowUnit}

/-- A file loads if its bytes contain a flow unit. -/
theorem loadUnit_eq_ok : loadUnit files path = .ok unit ↔
    ∃ content, files.node? path = some (.file content) ∧
      FlowUnit.ofBytes? content = some unit := by
  have hload : loadUnit files path = .ok unit ↔
      ∃ text, files.readText path = .ok text ∧ FlowUnit.ofJson text = .ok unit := by
    rw [loadUnit]
    cases files.readText path with
    | error error => exact ⟨nofun, nofun⟩
    | ok text =>
      simp only [Except.mapError, bind, Except.bind]
      cases hjson : FlowUnit.ofJson text <;> simp [hjson]
  rw [hload]
  simp only [FileTree.readText_eq_ok, FlowUnit.ofBytes?, Option.bind_eq_some_iff]
  constructor
  · rintro ⟨text, ⟨content, hnode, htext⟩, hunit⟩
    exact ⟨content, hnode, text, htext, by rw [hunit]; rfl⟩
  · rintro ⟨content, hnode, text, htext, hunit⟩
    refine ⟨text, ⟨content, hnode, htext⟩, ?_⟩
    cases hjson : FlowUnit.ofJson text with
    | error refusal => rw [hjson] at hunit; cases hunit
    | ok unit' =>
      rw [hjson] at hunit
      cases hunit
      rfl

/-- The log of a session contains no flow unit. -/
theorem Session.Sound.not_loaded (h : session.Sound)
    (hlog : session.Logs (session.files.position path)) :
    loadUnit session.files path ≠ .ok unit := by
  intro hload
  obtain ⟨content, hnode, hunit⟩ := loadUnit_eq_ok.1 hload
  obtain ⟨logger, hlogger, hposition⟩ := hlog
  obtain ⟨lines, hlines⟩ := h logger hlogger
  have hfile := hlines.content
  rw [hposition, FileTree.get?_position hnode] at hfile
  cases hfile
  rw [Logger.not_unit] at hunit
  cases hunit

theorem Session.Later.loadUnit_eq (h : session.Later later)
    (hpath : ¬ session.Logs (session.files.position path)) :
    loadUnit later.files path = loadUnit session.files path := by
  rw [loadUnit, loadUnit, h.readText hpath]

/-- The same units can be loaded later on. -/
theorem Session.Later.loadUnit_eq_ok (h : session.Later later) (hsession : session.Sound) :
    loadUnit later.files path = .ok unit ↔ loadUnit session.files path = .ok unit := by
  by_cases hpath : session.Logs (session.files.position path)
  · have hlater : later.Logs (later.files.position path) := by
      rw [h.position]
      exact (h.logs _).2 hpath
    exact iff_of_false (h.sound.not_loaded hlater) (hsession.not_loaded hpath)
  · rw [h.loadUnit_eq hpath]

/-- Whether the file at a path contains a unit. -/
def loads (files : FileTree) (path : Path) : Bool := (loadUnit files path).isOk

theorem loads_iff : loads files path = true ↔ ∃ unit, loadUnit files path = .ok unit := by
  rw [loads]
  cases loadUnit files path with
  | error error => exact ⟨nofun, nofun⟩
  | ok unit => exact ⟨fun _ => ⟨unit, rfl⟩, fun _ => rfl⟩

theorem Session.Later.loads (h : session.Later later) (hsession : session.Sound) :
    ReturnPaths.loads later.files path = ReturnPaths.loads session.files path := by
  rw [Bool.eq_iff_iff, loads_iff, loads_iff]
  simp only [h.loadUnit_eq_ok hsession]

end Loading

namespace Analyzer

variable (analyzer : Analyzer) {session later : Session}

/-- The issues of the file at a path, if it can be analyzed. -/
def issuesAt (session : Session) (path : Path) : List Issue :=
  match ((analyzer.analyzeFile path).run session).1 with
  | .ok issues => issues.toList
  | .error _ => []

/-! ### Analyzing one file -/

/-- The session after a unit was analyzed. -/
def analyzed (session : Session) (path : Path) (unit : FlowUnit) : Session :=
  (analyzer.examine unit).events.foldl Session.recorded
    (session.recorded (.unitLoaded path unit.file unit.subjectCount))

theorem run_analyzeFile (session : Session) (path : Path) :
    (analyzer.analyzeFile path).run session =
      match loadUnit session.files path with
      | .error error => (.error error, session)
      | .ok unit => (.ok (analyzer.analyzeUnit unit), analyzer.analyzed session path unit) := by
  rw [analyzeFile]
  simp only [StateT.run_bind, StateT.run_get, pure_bind]
  cases loadUnit session.files path with
  | error error => rfl
  | ok unit =>
    simp only [StateT.run_bind, Session.run_record, Session.run_recordAll]
    rfl

theorem later_analyzed (h : session.Sound) (path : Path) (unit : FlowUnit) :
    session.Later (analyzer.analyzed session path unit) := by
  have hloaded := Session.later_recorded h (.unitLoaded path unit.file unit.subjectCount)
  exact hloaded.recordAll (analyzer.examine unit).events

theorem later_analyzeFile (h : session.Sound) (path : Path) :
    session.Later ((analyzer.analyzeFile path).run session).2 := by
  rw [run_analyzeFile]
  cases loadUnit session.files path with
  | error error => exact Session.later_refl h
  | ok unit => exact analyzer.later_analyzed h path unit

theorem issuesAt_eq (session : Session) (path : Path) :
    analyzer.issuesAt session path =
      match loadUnit session.files path with
      | .error _ => []
      | .ok unit => (analyzer.analyzeUnit unit).toList := by
  rw [issuesAt, run_analyzeFile]
  cases loadUnit session.files path <;> rfl

/-- A file has the same issues later on. -/
theorem issuesAt_later (hsession : session.Sound) (h : session.Later later) (path : Path) :
    analyzer.issuesAt later path = analyzer.issuesAt session path := by
  rw [issuesAt_eq, issuesAt_eq]
  cases hnow : loadUnit session.files path with
  | ok unit => rw [(h.loadUnit_eq_ok hsession).2 hnow]
  | error error =>
    cases hthen : loadUnit later.files path with
    | error error' => rfl
    | ok unit =>
      rw [(h.loadUnit_eq_ok hsession).1 hthen] at hnow
      cases hnow

/-! ### Analyzing files one after the other -/

theorem run_analyzeFiles_cons (session : Session) (path : Path) (paths : List Path) :
    (analyzer.analyzeFiles (path :: paths)).run session =
      let first := (analyzer.analyzeFile path).run session
      let rest := (analyzer.analyzeFiles paths).run first.2
      ((path, first.1) :: rest.1, rest.2) := rfl

theorem issuesOf_cons (path : Path) (result : Except AnalysisError IssueCollection)
    (results : List (Path × Except AnalysisError IssueCollection)) :
    (issuesOf ((path, result) :: results)).toList =
      (match result with
        | .ok issues => issues.toList
        | .error _ => []) ++ (issuesOf results).toList := by
  cases result <;> rfl

/-- **The issues of files analyzed one after the other** are those that each of them has on its
own in the beginning. -/
theorem analyzeFiles_spec (hsession : session.Sound) (paths : List Path) (h : session.Later later) :
    session.Later ((analyzer.analyzeFiles paths).run later).2 ∧
      (issuesOf ((analyzer.analyzeFiles paths).run later).1).toList =
        paths.flatMap (analyzer.issuesAt session) := by
  -- over all later sessions, since the log grows with each file that is analyzed
  induction paths generalizing later with
  | nil => exact ⟨h, rfl⟩
  | cons path paths ih =>
    have hnext := h.trans (analyzer.later_analyzeFile h.sound path)
    obtain ⟨hlast, hissues⟩ := ih hnext
    rw [run_analyzeFiles_cons]
    refine ⟨hlast, ?_⟩
    rw [issuesOf_cons, hissues, List.flatMap_cons, ← analyzer.issuesAt_later hsession h, issuesAt]

theorem failuresOf_cons (path : Path) (result : Except AnalysisError IssueCollection)
    (results : List (Path × Except AnalysisError IssueCollection)) :
    failuresOf ((path, result) :: results) =
      match result with
      | .ok _ => failuresOf results
      | .error error => (path, error) :: failuresOf results := by
  cases result <;> rfl

/-- An error tells why the file at a path cannot be loaded.  The log grows while it is read, so of
the log it tells only that it cannot. -/
def Explains (session : Session) (path : Path) (error : AnalysisError) : Prop :=
  ¬ session.Logs (session.files.position path) → loadUnit session.files path = .error error

/-- Each file that cannot be loaded is reported once, in order. -/
theorem analyzeFiles_failures (hsession : session.Sound) (paths : List Path)
    (h : session.Later later) :
    List.Forall₂ (fun path failure => failure.1 = path ∧ Explains session path failure.2)
      (paths.filter fun path => !loads session.files path)
      (failuresOf ((analyzer.analyzeFiles paths).run later).1) := by
  induction paths generalizing later with
  | nil => exact .nil
  | cons path paths ih =>
    have hrest := ih (h.trans (analyzer.later_analyzeFile h.sound path))
    rw [run_analyzeFiles_cons, failuresOf_cons, List.filter_cons, ← h.loads hsession]
    rw [run_analyzeFile] at hrest ⊢
    cases hthen : loadUnit later.files path with
    | ok unit =>
      have hloads : loads later.files path = true := loads_iff.2 ⟨unit, hthen⟩
      rw [hthen] at hrest
      rw [hloads]
      exact hrest
    | error error =>
      have hloads : loads later.files path = false := by rw [loads, hthen]; rfl
      rw [hthen] at hrest
      rw [hloads]
      refine .cons ⟨rfl, fun hpath => ?_⟩ hrest
      rw [← h.loadUnit_eq hpath, hthen]

/-! ### Analyzing all units -/

theorem run_analyzePaths_error {paths : List Path} {error : AnalysisError}
    (h : analyzer.collectUnits session.files paths = .error error) :
    (analyzer.analyzePaths paths).run session = (.error error, session) := by
  rw [analyzePaths]
  simp only [StateT.run_bind, StateT.run_get, pure_bind, h]
  rfl

/-- **What an analysis of the units for some paths gives**: the sorted issues of the units, each as
it is analyzed on its own, and a failure for each unit that cannot be loaded. -/
theorem run_analyzePaths_ok {paths units : List Path} (hsession : session.Sound)
    (h : session.Later later) (hunits : analyzer.collectUnits session.files paths = .ok units) :
    ∃ analysis last, (analyzer.analyzePaths paths).run later = (.ok analysis, last) ∧
      analysis.issues = IssueCollection.sort ⟨units.flatMap (analyzer.issuesAt session)⟩ ∧
      List.Forall₂ (Explains session) (units.filter fun path => !loads session.files path)
        analysis.failures := by
  have hcollect : analyzer.collectUnits later.files paths = .ok units := by
    rw [Analyzer.collectUnits, h.collectUnits]
    exact hunits
  -- two events are recorded before the first file is loaded
  have hstart := (h.recorded (.configSummary (analyzer.enabled.map (·.id))
    analyzer.config.exclude.length)).recorded (.analysisStart units.length)
  obtain ⟨hlater, hissues⟩ := analyzer.analyzeFiles_spec hsession units hstart
  have hfailures := analyzer.analyzeFiles_failures hsession units hstart
  rw [analyzePaths]
  simp only [StateT.run_bind, StateT.run_get, pure_bind, hcollect, Session.run_record,
    Session.run_recordAll]
  refine ⟨_, _, rfl, ?_, ?_⟩
  · rw [← hissues]
  · rw [List.forall₂_map_right_iff]
    exact hfailures.imp fun path failure hfailure => hfailure.2

/-- The issues of a run are the stable sort of those of its units. -/
theorem run_analyzePaths_sorted {paths units : List Path} (hsession : session.Sound)
    (hunits : analyzer.collectUnits session.files paths = .ok units) :
    ∃ analysis last, (analyzer.analyzePaths paths).run session = (.ok analysis, last) ∧
      StablySorted Issue.compare (units.flatMap (analyzer.issuesAt session))
        analysis.issues.toList := by
  obtain ⟨analysis, last, hrun, hissues, -⟩ :=
    analyzer.run_analyzePaths_ok hsession (Session.later_refl hsession) hunits
  refine ⟨analysis, last, hrun, ?_⟩
  rw [hissues]
  exact IssueCollection.stablySorted_sort ⟨units.flatMap (analyzer.issuesAt session)⟩

end Analyzer

end ReturnPaths
