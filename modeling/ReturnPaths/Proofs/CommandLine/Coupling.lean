import ReturnPaths.Proofs.Analysis.Parallel
import ReturnPaths.Proofs.CommandLine.Outcome

/-!
# Runs in parallel sessions

What a run does after its log has been opened depends on the files that its configuration and its
units are read from.  Where these are the same in two trees, the two runs give the same: each step
gives the same result, tells the same, and records the same.

* `RespectsSessions` : a step of a run that does not tell related sessions apart.
* `ReadsSame` : what the configuration of a run is read from is the same in two trees.
* `respects_afterLog` : a run after its log has been opened.
-/

namespace ReturnPaths.CommandLine

/-! ### Steps of a run in parallel sessions -/

section Steps

variable {α β : Type} {related : Session → Session → Prop}

/-- A step of a run gives the same result in related sessions, tells the same, and leaves related
sessions behind. -/
def RespectsSessions (related : Session → Session → Prop) (step : Run α) : Prop :=
  Respects (fun progress progress' : Progress =>
    progress'.told = progress.told ∧ related progress.session progress'.session) step.run

theorem respectsSessions_pure (a : α) : RespectsSessions related (pure a) := respects_pure _

theorem respectsSessions_throw (failure : Failure) :
    RespectsSessions related (throw failure : Run α) := respects_pure _

theorem respectsSessions_throw_bind (failure : Failure) (next : α → Run β) :
    RespectsSessions related (throw failure >>= next) := respects_pure _

theorem respectsSessions_ofExcept (result : Except Failure α) :
    RespectsSessions related (MonadExcept.ofExcept result : Run α) := by
  cases result with
  | ok a => exact respectsSessions_pure a
  | error failure => exact respectsSessions_throw failure

theorem RespectsSessions.bind {step : Run α} {next : α → Run β} (h : RespectsSessions related step)
    (hnext : ∀ a, RespectsSessions related (next a)) :
    RespectsSessions related (step >>= next) := by
  have hrun : (step >>= next).run = step.run >>= ExceptT.bindCont next := rfl
  rw [RespectsSessions, hrun]
  refine Respects.bind h fun result => ?_
  cases result with
  | ok a => exact hnext a
  | error failure => exact respects_pure _

/-- What is done next may depend on the session as far as related sessions give the same step. -/
theorem respectsSessions_get {next : Progress → Run α} (h : ∀ progress progress' : Progress,
      progress'.told = progress.told ∧ related progress.session progress'.session →
        next progress' = next progress ∧ RespectsSessions related (next progress)) :
    RespectsSessions related (get >>= next) := by
  intro progress progress' hprogress
  obtain ⟨hnext, hrespects⟩ := h progress progress' hprogress
  have hrun (progress : Progress) :
      StateT.run (get >>= next).run progress = StateT.run (next progress).run progress := rfl
  rw [hrun, hrun, hnext]
  exact hrespects progress progress' hprogress

theorem respectsSessions_tell (line : String) : RespectsSessions related (tell line) := by
  rintro progress progress' ⟨htold, hsession⟩
  exact ⟨rfl, congrArg (· ++ [line]) htold, hsession⟩

theorem respectsSessions_onSession {action : StateM Session α} (h : Respects related action) :
    RespectsSessions related (onSession action) := by
  rintro progress progress' ⟨htold, hsession⟩
  obtain ⟨hresult, hlast⟩ := h _ _ hsession
  exact ⟨congrArg Except.ok hresult, htold, hlast⟩

theorem respectsSessions_orFail {ε : Type} {failure : ε → Failure}
    {action : StateM Session (Except ε α)} (h : Respects related action) :
    RespectsSessions related (orFail failure action) := by
  refine (respectsSessions_onSession h).bind fun result => ?_
  cases result with
  | ok a => exact respectsSessions_pure a
  | error error => exact respectsSessions_throw _

theorem respectsSessions_tellConfig (options : Options) (path : Path) :
    RespectsSessions related (tellConfig options path) := by
  rw [tellConfig]
  split
  · exact respectsSessions_tell _
  · exact respectsSessions_pure _

theorem respectsSessions_warnings (failures : List AnalysisError) :
    RespectsSessions related
      (failures.forM fun failure => tell s!"Warning: {failure.message}") := by
  induction failures with
  | nil => exact respectsSessions_pure _
  | cons failure failures ih => exact (respectsSessions_tell _).bind fun _ => ih

end Steps

/-! ### Loading the configuration in parallel sessions -/

/-- What the configuration of a run is read from is the same in two trees. -/
inductive ReadsSame (options : Options) (files files' : FileTree) : Prop where
  /-- Nothing is read. -/
  | ignored (hignored : options.noConfig = true)
  /-- The given file is missing. -/
  | missing {path : Path} (hpath : options.config = some path)
      (hnot : files.denotes path = false) (hnot' : files'.denotes path = false)
  /-- The given file is there. -/
  | given {path : Path} (hpath : options.config = some path) (halike : files.Alike files' path)
  /-- The file is the nearest one to the working directory, if there is any. -/
  | nearest (hpath : options.config = none)
      (hhere : files'.currentDirectory = files.currentDirectory)
      (hfound : findConfig? files' files.workingPath = findConfig? files files.workingPath)
      (halike : ∀ path, findConfig? files files.workingPath = some path → files.Alike files' path)

variable {origin origin' : Session} {options : Options}

theorem respects_loadConfig {path : Path} (hpath : origin.files.Alike origin'.files path) :
    Respects (Session.Parallel origin origin') (loadConfig path) := by
  refine (Session.respects_record _).bind fun _ => respects_get fun session session' h => ⟨?_, ?_⟩
  · rw [readConfig, readConfig, (h.alike path hpath).readText]
  · exact respects_pure _

theorem findConfig?_of_outline {files files' : FileTree} {start : Path}
    (h : files'.outline = files.outline) : findConfig? files' start = findConfig? files start := by
  have hdenotes : files'.denotes = files.denotes := funext (FileTree.denotes_congr h)
  rw [findConfig?, findConfig?, hdenotes]

theorem respects_loadConfigFrom {start : Path}
    (hfound : findConfig? origin'.files start = findConfig? origin.files start)
    (hsame : ∀ path, findConfig? origin.files start = some path →
      origin.files.Alike origin'.files path) :
    Respects (Session.Parallel origin origin') (loadConfigFrom start) := by
  refine respects_get fun session session' h => ?_
  rw [findConfig?_of_outline h.outline, findConfig?_of_outline h.outline', hfound]
  refine ⟨rfl, ?_⟩
  cases hpath : findConfig? origin.files start with
  | none => exact respects_pure _
  | some path => exact (respects_loadConfig (hsame path hpath)).bind fun _ => respects_pure _

theorem respects_loadConfigHere
    (hhere : origin'.files.currentDirectory = origin.files.currentDirectory)
    (hfound : findConfig? origin'.files origin.files.workingPath =
      findConfig? origin.files origin.files.workingPath)
    (hsame : ∀ path, findConfig? origin.files origin.files.workingPath = some path →
      origin.files.Alike origin'.files path) :
    Respects (Session.Parallel origin origin') loadConfigHere := by
  refine respects_get fun session session' h => ?_
  rw [FileTree.currentDirectory_congr h.outline, FileTree.currentDirectory_congr h.outline', hhere]
  refine ⟨rfl, ?_⟩
  cases hdirectory : origin.files.currentDirectory with
  | error error => exact respects_pure _
  | ok directory =>
    obtain ⟨-, rfl⟩ := FileTree.currentDirectory_eq_ok.1 hdirectory
    exact respects_loadConfigFrom hfound hsame

/-- Loading the configuration that two trees have in common. -/
theorem respects_loadSettings (h : ReadsSame options origin.files origin'.files) :
    RespectsSessions (Session.Parallel origin origin') (loadSettings options) := by
  rw [loadSettings]
  refine respectsSessions_get fun progress progress' hprogress => ?_
  have hsessions := hprogress.2
  have hdenotes := FileTree.denotes_congr hsessions.outline
  have hdenotes' := FileTree.denotes_congr hsessions.outline'
  cases hsought : options.noConfig with
  | true =>
    simp only [↓reduceIte, true_and]
    exact respectsSessions_pure _
  | false =>
    simp only [Bool.false_eq_true, ↓reduceIte]
    cases h with
    | ignored hignored => simp [hsought] at hignored
    | missing hpath hnot hnot' =>
      simp only [hpath, hdenotes, hdenotes', hnot, hnot', true_and, Bool.false_eq_true, ↓reduceIte]
      exact respectsSessions_throw_bind _ _
    | given hpath halike =>
      simp only [hpath, hdenotes, hdenotes', halike.denotes.1, halike.denotes.2, true_and,
        ↓reduceIte]
      exact (respectsSessions_orFail (respects_loadConfig halike)).bind fun _ =>
        (respectsSessions_tellConfig _ _).bind fun _ => respectsSessions_pure _
    | nearest hpath hhere hfound halike =>
      simp only [hpath, true_and]
      have hload := respects_loadConfigHere hhere hfound halike
      refine (respectsSessions_orFail hload).bind fun loaded => ?_
      cases loaded with
      | none => exact respectsSessions_pure _
      | some loaded => exact (respectsSessions_tellConfig _ _).bind fun _ => respectsSessions_pure _

/-! ### The rest of a run in parallel sessions -/

/-- What a run does after its log has been opened. -/
def afterLog (options : Options) : Run (Nat × String) := do
  let config ← loadSettings options
  let format ← MonadExcept.ofExcept (resolveFormat options config)
  let analyzer : Analyzer := { config }
  if options.listChecks then return (0, describeChecks analyzer.registry)
  else
    let issues ← analyze options analyzer
    return (exitCode issues, format.render issues)

theorem run_opened (options : Options) (session : Session) : (run options).run ⟨session, []⟩ =
    (afterLog options).run ⟨opened options session, logNotices options session⟩ :=
  run_bind_ok (run_openLog options session)

section Rest

variable
  (hsame : ∀ config, collectUnits config origin'.files options.paths =
    collectUnits config origin.files options.paths)
  (hunits : ∀ config units, collectUnits config origin.files options.paths = .ok units →
    ∀ unit ∈ units, origin.files.Alike origin'.files unit)

include hsame hunits

theorem respects_analyze (analyzer : Analyzer) :
    RespectsSessions (Session.Parallel origin origin') (analyze options analyzer) := by
  have hrest (analyzer : Analyzer) : RespectsSessions (Session.Parallel origin origin')
      (orFail .analysis (analyzer.analyzePaths options.paths) >>= fun analysis =>
        (analysis.failures.forM fun failure => tell s!"Warning: {failure.message}") >>= fun _ =>
          pure analysis.issues) := by
    have hanalysis :=
      analyzer.respects_analyzePaths (hsame analyzer.config) (hunits analyzer.config)
    exact (respectsSessions_orFail hanalysis).bind fun _ =>
      (respectsSessions_warnings _).bind fun _ => respectsSessions_pure _
  refine (respectsSessions_ofExcept _).bind fun analyzer => ?_
  split
  · exact (respectsSessions_tell _).bind fun _ => hrest analyzer
  · exact hrest analyzer

/-- **A run after its log has been opened** gives the same in two trees, if it reads the same
configuration and the same units. -/
theorem respects_afterLog (hsource : ReadsSame options origin.files origin'.files) :
    RespectsSessions (Session.Parallel origin origin') (afterLog options) := by
  refine (respects_loadSettings hsource).bind fun config =>
    (respectsSessions_ofExcept _).bind fun format => ?_
  split
  · exact respectsSessions_pure _
  · exact (respects_analyze hsame hunits _).bind fun _ => respectsSessions_pure _

end Rest

end ReturnPaths.CommandLine
