import ReturnPaths.Proofs.Analysis.Isolation
import ReturnPaths.Proofs.Analysis.Running
import ReturnPaths.Proofs.Analysis.Selection
import ReturnPaths.Proofs.CommandLine.Settings

/-!
# How a run ends

A run either gets as far as its report or fails before it.  What it takes to get there is `Ready`,
which speaks of the session in which the log has just been opened.

* `run_analyze_ready`, `run_analyze_not_ready` : the analysis of a run, if it gets there and if not.
* `execute_code_eq_zero`, `execute_code_of_format` : the exit code alone.
* `execute_outcome` : the exit code, the standard output and the error output of the program.
-/

namespace ReturnPaths

theorem IssueCollection.errorCount_eq_zero {issues : IssueCollection} :
    issues.errorCount = 0 ↔ ∀ issue ∈ issues.toList, issue.severity ≠ .error := by
  rw [IssueCollection.errorCount, Issue.countSeverity, List.countP_eq_zero]
  simp

theorem Analyzer.select_eq (analyzer : Analyzer) (ids : List String) :
    (analyzer.select ids = .ok { analyzer with selected := ids } ∧
        ∀ id ∈ ids, (analyzer.registry.find? id).isSome = true) ∨
      ∃ error, analyzer.select ids = .error error ∧
        ¬ ∀ id ∈ ids, (analyzer.registry.find? id).isSome = true := by
  rcases analyzer.select_cases ids with ⟨hids, hselect⟩ | ⟨front, id, rest, rfl, -, hid, hselect⟩
  · exact .inl ⟨hselect, fun id hid => Registry.isSome_find?.2 (hids hid)⟩
  · exact .inr ⟨_, hselect, fun hall => hid (Registry.isSome_find?.1 (hall id (by simp)))⟩

namespace CommandLine

/-! ### The analysis -/

/-- The analyzer of a run. -/
def runAnalyzer (options : Options) (config : Config) : Analyzer :=
  { config, selected := options.checks }

/-- What a run needs to get as far as its report: a configuration, a format, checks that there are,
and paths that denote files or directories. -/
structure Ready (options : Options) (session : Session) (source : Option Path) (config : Config)
    (format : OutputFormat) : Prop where
  /-- The configuration is loaded, from a file if there is one. -/
  configures : Configures options session source config
  /-- The format of the report is valid. -/
  chooses : Chooses options config format
  /-- All selected checks are registered. -/
  checks : ∀ id ∈ options.checks, (Registry.builtin.find? id).isSome = true
  /-- All paths denote files or directories. -/
  paths : ∀ path ∈ options.paths,
    session.files.isFile path = true ∨ session.files.isDirectory path = true

/-- What is told before the analysis. -/
def analysisNotices (options : Options) : List String :=
  if options.verbose then ["Analyzing: " ++ ", ".intercalate (options.paths.map (·.text))] else []

/-- The line that tells about a unit that cannot be loaded. -/
def warning (error : AnalysisError) : String := s!"Warning: {error.message}"

theorem run_warnings (failures : List AnalysisError) (progress : Progress) :
    (failures.forM fun failure => tell s!"Warning: {failure.message}").run progress =
      (.ok (), { progress with told := progress.told ++ failures.map warning }) := by
  induction failures generalizing progress with
  | nil => simp only [List.map_nil, List.append_nil]; rfl
  | cons failure failures ih =>
    have hcons : ((failure :: failures).forM fun failure =>
        (tell s!"Warning: {failure.message}" : Run PUnit)) =
        (tell s!"Warning: {failure.message}" >>= fun _ =>
          failures.forM fun failure => tell s!"Warning: {failure.message}") := rfl
    rw [hcons, run_bind_ok (run_tell _ progress), ih]
    simp [warning]

theorem run_ofExcept_ok {α : Type} (a : α) (progress : Progress) :
    (MonadExcept.ofExcept (.ok a : Except Failure α) : Run α).run progress = (.ok a, progress) :=
  rfl

theorem run_ofExcept_error {α : Type} (failure : Failure) (progress : Progress) :
    (MonadExcept.ofExcept (.error failure : Except Failure α) : Run α).run progress =
      (.error failure, progress) := rfl

theorem run_analysisNotices {α : Type} (options : Options) (next : Unit → Run α)
    (progress : Progress) :
    (if options.verbose then
        tell ("Analyzing: " ++ ", ".intercalate (options.paths.map (·.text))) >>= next
      else next ()).run progress =
      (next ()).run { progress with told := progress.told ++ analysisNotices options } := by
  rw [analysisNotices]
  cases options.verbose with
  | true => rfl
  | false => simp only [Bool.false_eq_true, ↓reduceIte, List.append_nil]

variable {options : Options} {session later : Session} {config : Config}

theorem run_analyze_ready (config : Config) (told : List String) (hsession : session.Sound)
    (hlater : session.Later later) (hne : options.paths ≠ [])
    (hchecks : ∀ id ∈ options.checks, (Registry.builtin.find? id).isSome = true)
    (hpaths : ∀ path ∈ options.paths,
      session.files.isFile path = true ∨ session.files.isDirectory path = true) :
    ∃ units issues failures last,
      (runAnalyzer options config).collectUnits session.files options.paths = .ok units ∧
      issues = IssueCollection.sort
        ⟨units.flatMap ((runAnalyzer options config).issuesAt session)⟩ ∧
      List.Forall₂ (Analyzer.Explains session) (units.filter fun path => !loads session.files path)
        failures ∧
      (analyze options { config }).run ⟨later, told⟩ =
        (.ok issues, ⟨last, told ++ analysisNotices options ++ failures.map warning⟩) := by
  have hselect : (({ config } : Analyzer).select options.checks).mapError Failure.analysis =
      .ok (runAnalyzer options config) := by
    rcases ({ config } : Analyzer).select_eq options.checks with ⟨hselect, -⟩ | ⟨_, -, hnot⟩
    · rw [hselect]
      rfl
    · exact absurd hchecks hnot
  have hex : ∃ units,
      (runAnalyzer options config).collectUnits session.files options.paths = .ok units :=
    exists_collectUnits hne hpaths
  obtain ⟨units, hunits⟩ := hex
  obtain ⟨analysis, last, hrun, hissues, hfailures⟩ :=
    (runAnalyzer options config).run_analyzePaths_ok hsession hlater hunits
  refine ⟨units, analysis.issues, analysis.failures, last, hunits, hissues, hfailures, ?_⟩
  rw [analyze, hselect, run_bind_ok (run_ofExcept_ok _ _)]
  refine (run_analysisNotices options _ _).trans ?_
  rw [run_bind_ok (run_orFail_ok hrun), run_bind_ok (run_warnings _ _)]
  rfl

theorem run_analyze_not_ready (config : Config) (told : List String)
    (hlater : session.Later later)
    (hnot : ¬ ((∀ id ∈ options.checks, (Registry.builtin.find? id).isSome = true) ∧
      ∀ path ∈ options.paths,
        session.files.isFile path = true ∨ session.files.isDirectory path = true)) :
    ∃ failure progress,
      (analyze options { config }).run ⟨later, told⟩ = (.error failure, progress) := by
  rcases ({ config } : Analyzer).select_eq options.checks with
    ⟨hselect, hchecks⟩ | ⟨error, hselect, -⟩
  · have hcollect : ∃ error, (runAnalyzer options config).collectUnits later.files options.paths =
        .error error := by
      cases hcollect : (runAnalyzer options config).collectUnits later.files options.paths with
      | error error => exact ⟨error, rfl⟩
      | ok units =>
        rw [Analyzer.collectUnits, hlater.collectUnits] at hcollect
        exact absurd ⟨hchecks, denotes_of_collectUnits hcollect⟩ hnot
    obtain ⟨error, hcollect⟩ := hcollect
    have hrun := (runAnalyzer options config).run_analyzePaths_error hcollect
    refine ⟨.analysis error, ⟨later, told ++ analysisNotices options⟩, ?_⟩
    rw [analyze, hselect, Except.mapError, run_bind_ok (run_ofExcept_ok _ _)]
    refine (run_analysisNotices options _ _).trans ?_
    exact run_bind_error (run_orFail_error hrun)
  · refine ⟨.analysis error, ⟨later, told⟩, ?_⟩
    rw [analyze, hselect, Except.mapError]
    exact run_bind_error (run_ofExcept_error _ _)

/-! ### The whole run -/

/-- What is told before units are loaded. -/
def notices (options : Options) (session : Session) (source : Option Path) : List String :=
  logNotices options session ++ configNotices options source ++ analysisNotices options

theorem run_ready {source : Option Path} {format : OutputFormat} (hsession : session.Sound)
    (hlist : options.listChecks = false) (hne : options.paths ≠ [])
    (hready : Ready options (opened options session) source config format) :
    ∃ units issues failures last,
      (runAnalyzer options config).collectUnits (opened options session).files options.paths =
        .ok units ∧
      issues = IssueCollection.sort
        ⟨units.flatMap ((runAnalyzer options config).issuesAt (opened options session))⟩ ∧
      List.Forall₂ (Analyzer.Explains (opened options session))
        (units.filter fun path => !loads (opened options session).files path) failures ∧
      (run options).run ⟨session, []⟩ = (.ok (exitCode issues, format.render issues),
        ⟨last, notices options session source ++ failures.map warning⟩) := by
  have hopened := sound_opened options hsession
  obtain ⟨later, hlater, ⟨source', config', hconfigures, hload⟩ | ⟨hnot, -⟩⟩ :=
    run_loadSettings options hopened (logNotices options session)
  · obtain ⟨rfl, rfl⟩ := hready.configures.unique hconfigures
    obtain ⟨units, issues, failures, last, hunits, hissues, hfailures, hanalyze⟩ :=
      run_analyze_ready config (logNotices options session ++ configNotices options source)
        hopened hlater hne hready.checks hready.paths
    refine ⟨units, issues, failures, last, hunits, hissues, hfailures, ?_⟩
    rw [run, run_bind_ok (run_openLog options session), run_bind_ok hload,
      resolveFormat_eq_ok.2 hready.chooses, run_bind_ok (run_ofExcept_ok format _)]
    simp only [hlist, Bool.false_eq_true, ↓reduceIte]
    rw [run_bind_ok hanalyze]
    rfl
  · exact absurd hready.configures (hnot source config)

theorem run_not_ready (hsession : session.Sound) (hlist : options.listChecks = false)
    (hnot : ∀ source config format,
      ¬ Ready options (opened options session) source config format) :
    ∃ failure progress, (run options).run ⟨session, []⟩ = (.error failure, progress) := by
  have hopened := sound_opened options hsession
  obtain ⟨later, hlater, ⟨source, config, hconfigures, hload⟩ | ⟨-, failure, hload⟩⟩ :=
    run_loadSettings options hopened (logNotices options session)
  · rw [run, run_bind_ok (run_openLog options session), run_bind_ok hload]
    cases hformat : resolveFormat options config with
    | error failure => exact ⟨failure, _, run_bind_error (run_ofExcept_error failure _)⟩
    | ok format =>
      have hrest : ¬ ((∀ id ∈ options.checks, (Registry.builtin.find? id).isSome = true) ∧
          ∀ path ∈ options.paths, (opened options session).files.isFile path = true ∨
            (opened options session).files.isDirectory path = true) := fun hrest =>
        hnot source config format
          ⟨hconfigures, resolveFormat_eq_ok.1 hformat, hrest.1, hrest.2⟩
      obtain ⟨failure, progress, hanalyze⟩ := run_analyze_not_ready config
        (logNotices options session ++ configNotices options source) hlater hrest
      refine ⟨failure, progress, ?_⟩
      rw [run_bind_ok (run_ofExcept_ok format _)]
      simp only [hlist, Bool.false_eq_true, ↓reduceIte]
      exact run_bind_error hanalyze
  · rw [run, run_bind_ok (run_openLog options session)]
    exact ⟨failure, _, run_bind_error hload⟩

theorem paths_ne_nil {arguments : List String} (h : Options.ofArguments arguments = .ok options)
    (hlist : options.listChecks = false) : options.paths ≠ [] := by
  rw [Options.ofArguments] at h
  cases hadd : Options.addArguments {} arguments with
  | error halt => rw [hadd] at h; cases h
  | ok options' =>
    rw [hadd] at h
    simp only [bind, Except.bind, Options.checked] at h
    split_ifs at h with _ _ hempty
    cases h
    intro hnil
    exact hempty ⟨by simp [hnil], by simp [hlist]⟩

theorem execute_ready {arguments : List String} {source : Option Path} {format : OutputFormat}
    (h : Options.ofArguments arguments = .ok options) (hsession : session.Sound)
    (hlist : options.listChecks = false)
    (hready : Ready options (opened options session) source config format) :
    ∃ analysis last units failures,
      ((runAnalyzer options config).analyzePaths options.paths).run (opened options session) =
        (.ok analysis, last) ∧
      (runAnalyzer options config).collectUnits (opened options session).files options.paths =
        .ok units ∧
      List.Forall₂ (Analyzer.Explains (opened options session))
        (units.filter fun path => !loads (opened options session).files path) failures ∧
      (execute arguments session).1 = ⟨exitCode analysis.issues, format.render analysis.issues,
        unlines (notices options session source ++ failures.map warning)⟩ := by
  have hopened := sound_opened options hsession
  obtain ⟨units, issues, failures, last, hunits, hissues, hfailures, hrun⟩ :=
    run_ready hsession hlist (paths_ne_nil h hlist) hready
  obtain ⟨analysis, last', hanalysis, hissues', -⟩ :=
    (runAnalyzer options config).run_analyzePaths_ok hopened (Session.later_refl hopened) hunits
  refine ⟨analysis, last', units, failures, hanalysis, hunits, hfailures, ?_⟩
  rw [execute, h]
  simp only [runToEnd, hrun]
  rw [hissues, hissues']

theorem execute_not_ready {arguments : List String}
    (h : Options.ofArguments arguments = .ok options) (hsession : session.Sound)
    (hlist : options.listChecks = false)
    (hnot : ∀ source config format,
      ¬ Ready options (opened options session) source config format) :
    (execute arguments session).1.code = 1 ∧ (execute arguments session).1.output = "" := by
  obtain ⟨failure, progress, hrun⟩ := run_not_ready hsession hlist hnot
  rw [execute, h]
  simp [runToEnd, hrun]

/-- Without a working directory there is nowhere to search for a configuration, so a run that has to
search for it fails. -/
theorem execute_no_directory {arguments : List String} {error : FileError}
    (h : Options.ofArguments arguments = .ok options) (hsession : session.Sound)
    (hlist : options.listChecks = false) (hsought : options.noConfig = false)
    (hpath : options.config = none)
    (hhere : (opened options session).files.currentDirectory = .error error) :
    (execute arguments session).1.code = 1 ∧ (execute arguments session).1.output = "" := by
  refine execute_not_ready h hsession hlist fun source config format hready => ?_
  cases hready.configures with
  | ignored hignored => rw [hsought] at hignored; cases hignored
  | given _ hgiven _ => rw [hpath] at hgiven; cases hgiven
  | nearest _ _ hdirectory _ _ => rw [hhere] at hdirectory; cases hdirectory
  | absent _ _ hdirectory _ => rw [hhere] at hdirectory; cases hdirectory

example : (execute ["/a"] { files := ⟨.directory [("a", .directory [])], ["w"]⟩, now := ⟨0⟩ }).1 =
    ⟨1, "", "Error: Failed to load configuration: " ++
      "Failed to read .: No such file or directory (os error 2): " ++
      "No such file or directory (os error 2)\n"⟩ := by
  rfl

theorem exitCode_eq_zero {issues : IssueCollection} :
    exitCode issues = 0 ↔ ∀ issue ∈ issues.toList, issue.severity ≠ .error := by
  rw [← IssueCollection.errorCount_eq_zero, exitCode]
  by_cases hpos : issues.errorCount > 0
  · rw [if_pos hpos]
    exact iff_of_false Nat.one_ne_zero (by omega)
  · rw [if_neg hpos]
    exact iff_of_true rfl (by omega)

theorem exitCode_le_one (issues : IssueCollection) : exitCode issues = 0 ∨ exitCode issues = 1 := by
  rw [exitCode]
  split_ifs <;> simp

/-- The format of the report has no part in the configuration. -/
theorem Configures.of_format {source : Option Path} (f : Option String) (j : Bool)
    (h : Configures options session source config) :
    Configures { options with format := f, json := j } session source config := by
  cases h with
  | ignored hignored => exact .ignored hignored
  | given hsought hpath hprovides => exact .given hsought hpath hprovides
  | nearest hsought hpath hhere hfound hprovides =>
    exact .nearest hsought hpath hhere hfound hprovides
  | absent hsought hpath hhere hfound => exact .absent hsought hpath hhere hfound

theorem Ready.of_format {f : Option String} {j : Bool} {source : Option Path}
    {format format' : OutputFormat} (h : Ready options session source config format)
    (hformat : Chooses { options with format := f, json := j } config format') :
    Ready { options with format := f, json := j } session source config format' where
  configures := h.configures.of_format f j
  chooses := hformat
  checks := h.checks
  paths := h.paths

/-! ### The exit code -/

section Code

variable {arguments : List String} (h : Options.ofArguments arguments = .ok options)
  (hsession : session.Sound) (hlist : options.listChecks = false)

include h hsession hlist

theorem execute_code_eq_zero :
    (execute arguments session).1.code = 0 ↔ ∃ source config format analysis last,
      Ready options (opened options session) source config format ∧
      ((runAnalyzer options config).analyzePaths options.paths).run (opened options session) =
        (.ok analysis, last) ∧
      ∀ issue ∈ analysis.issues.toList, issue.severity ≠ .error := by
  constructor
  · intro hcode
    by_cases hex : ∃ source config format,
        Ready options (opened options session) source config format
    · obtain ⟨source, config, format, hready⟩ := hex
      obtain ⟨analysis, last, _, _, hrun, -, -, houtcome⟩ :=
        execute_ready h hsession hlist hready
      rw [houtcome] at hcode
      exact ⟨source, config, format, analysis, last, hready, hrun, exitCode_eq_zero.1 hcode⟩
    · simp only [not_exists] at hex
      rw [(execute_not_ready h hsession hlist hex).1] at hcode
      cases hcode
  · rintro ⟨source, config, format, analysis, last, hready, hrun, hissues⟩
    obtain ⟨analysis', last', _, _, hrun', -, -, houtcome⟩ :=
      execute_ready h hsession hlist hready
    rw [hrun] at hrun'
    cases hrun'
    rw [houtcome]
    exact exitCode_eq_zero.2 hissues

theorem execute_code_le_one :
    (execute arguments session).1.code = 0 ∨ (execute arguments session).1.code = 1 := by
  by_cases hex : ∃ source config format,
      Ready options (opened options session) source config format
  · obtain ⟨source, config, format, hready⟩ := hex
    obtain ⟨analysis, _, _, _, -, -, -, houtcome⟩ := execute_ready h hsession hlist hready
    rw [houtcome]
    exact exitCode_le_one analysis.issues
  · simp only [not_exists] at hex
    exact .inr (execute_not_ready h hsession hlist hex).1

/-- Two runs that differ in the format of the report alone have the same exit code, if both formats
are valid: the one is ready if the other is, and they report the same issues. -/
theorem execute_code_of_format {arguments' : List String} {f : Option String} {j : Bool}
    (h' : Options.ofArguments arguments' = .ok { options with format := f, json := j })
    (hchoose : ∀ source config, Configures options (opened options session) source config →
      (∃ format, Chooses options config format) ∧
        ∃ format, Chooses { options with format := f, json := j } config format) :
    (execute arguments' session).1.code = (execute arguments session).1.code := by
  by_cases hex : ∃ source config format,
      Ready options (opened options session) source config format
  · obtain ⟨source, config, format, hready⟩ := hex
    obtain ⟨format', hformat'⟩ := (hchoose source config hready.configures).2
    obtain ⟨analysis, last, _, _, hrun, -, -, houtcome⟩ := execute_ready h hsession hlist hready
    obtain ⟨analysis', last', _, _, hrun', -, -, houtcome'⟩ :=
      execute_ready h' hsession hlist (hready.of_format hformat')
    have hsame : (Except.ok analysis', last') = (Except.ok analysis, last) := hrun'.symm.trans hrun
    cases hsame
    rw [houtcome, houtcome']
  · simp only [not_exists] at hex
    have hex' : ∀ source config format, ¬ Ready { options with format := f, json := j }
        (opened { options with format := f, json := j } session) source config format := by
      intro source config format hready
      have hconfigures : Configures options (opened options session) source config :=
        hready.configures.of_format options.format options.json
      obtain ⟨format', hformat'⟩ := (hchoose source config hconfigures).1
      exact hex source config format' (hready.of_format hformat')
    rw [(execute_not_ready h hsession hlist hex).1, (execute_not_ready h' hsession hlist hex').1]

end Code

/-! ### How the program ends -/

/-- **How the program ends**, for arguments that ask for an analysis.  All conditions speak of the
session in which the log has just been opened.  If a run is ready, the report on the issues of the
analysis goes to the standard output, the exit code is 0 if none of them is an error and 1
otherwise, and each unit that cannot be loaded is warned about once.  Else the exit code is 1 and
there is no report.  The exit code does not depend on which of the valid formats is chosen. -/
theorem execute_outcome (arguments : List String) (files : FileTree) (now : Timestamp)
    (options : Options) (hoptions : Options.ofArguments arguments = .ok options)
    (hlist : options.listChecks = false) :
    let session := opened options { files, now }
    let outcome := (execute arguments { files, now }).1
    (∀ source config format, Ready options session source config format →
      ∃ analysis last units failures,
        ((runAnalyzer options config).analyzePaths options.paths).run session =
          (.ok analysis, last) ∧
        (runAnalyzer options config).collectUnits session.files options.paths = .ok units ∧
        List.Forall₂ (Analyzer.Explains session)
          (units.filter fun path => !loads session.files path) failures ∧
        outcome.output = format.render analysis.issues ∧
        outcome.errors =
          unlines (notices options { files, now } source ++ failures.map warning)) ∧
    ((∀ source config format, ¬ Ready options session source config format) →
      outcome.output = "") ∧
    (outcome.code = 0 ↔ ∃ source config format analysis last,
      Ready options session source config format ∧
      ((runAnalyzer options config).analyzePaths options.paths).run session =
        (.ok analysis, last) ∧
      ∀ issue ∈ analysis.issues.toList, issue.severity ≠ .error) ∧
    (outcome.code = 0 ∨ outcome.code = 1) ∧
    (∀ arguments' options', Options.ofArguments arguments' = .ok options' →
      options' = { options with format := options'.format, json := options'.json } →
      (∀ source config, Configures options session source config →
        (∃ format, Chooses options config format) ∧ ∃ format, Chooses options' config format) →
      (execute arguments' { files, now }).1.code = outcome.code) := by
  intro session outcome
  have hsound : Session.Sound { files, now } := Session.sound_of_no_log rfl
  refine ⟨?_, fun hnot => (execute_not_ready hoptions hsound hlist hnot).2,
    execute_code_eq_zero hoptions hsound hlist, execute_code_le_one hoptions hsound hlist, ?_⟩
  · intro source config format hready
    obtain ⟨analysis, last, units, failures, hrun, hunits, hfailures, houtcome⟩ :=
      execute_ready hoptions hsound hlist hready
    exact ⟨analysis, last, units, failures, hrun, hunits, hfailures,
      congrArg Outcome.output houtcome, congrArg Outcome.errors houtcome⟩
  · intro arguments' options' hoptions' heq hchoose
    rw [heq] at hoptions' hchoose
    exact execute_code_of_format hoptions hsound hlist hoptions' hchoose

theorem loadUnit_withBroken : loadUnit FileTree.withBroken ⟨"d/b.json"⟩ =
    .error (.invalidUnit ⟨"d/b.json"⟩ ⟨.endInValue, 1, 0⟩) := by
  have hread : FileTree.withBroken.readText ⟨"d/b.json"⟩ = .ok "" :=
    FileTree.readText_eq_ok.2 ⟨_, rfl, fromUTF8?_toUTF8 ""⟩
  rw [loadUnit, hread]
  rfl

theorem filter_loads_withBroken : [(⟨"d/a.json"⟩ : Path), ⟨"d/b.json"⟩].filter
    (fun path => !loads FileTree.withBroken path) = [⟨"d/b.json"⟩] := by
  have hloads : loads FileTree.withBroken ⟨"d/a.json"⟩ = true :=
    loads_iff.2 ⟨_, loadUnit_eq_ok.2 ⟨_, rfl, FlowUnit.ofBytes?_fallingOff⟩⟩
  have hfails : loads FileTree.withBroken ⟨"d/b.json"⟩ = false := by
    rw [loads, loadUnit_withBroken]
    rfl
  simp [hloads, hfails]

theorem eq_of_explains_withBroken {failures : List AnalysisError}
    (hfiles : session.files = FileTree.withBroken) (hlog : session.log = none)
    (h : List.Forall₂ (Analyzer.Explains session) [⟨"d/b.json"⟩] failures) :
    failures = [.invalidUnit ⟨"d/b.json"⟩ ⟨.endInValue, 1, 0⟩] := by
  have hno_log : ¬ session.Logs (session.files.position ⟨"d/b.json"⟩) := by
    rintro ⟨_, hlogger, -⟩
    rw [hlog] at hlogger
    cases hlogger
  cases h with
  | cons hfailure hrest =>
    cases hrest
    cases loadUnit_withBroken.symm.trans (hfiles ▸ hfailure hno_log)
    rfl

/-- A run on a directory with a unit that has an issue and with a file that contains no unit. -/
theorem execute_outcome_oneUnit :
    let arguments := ["--no-config", "--format", "raw", "d"]
    let options : Options := { noConfig := true, format := some "raw", paths := [⟨"d"⟩] }
    let session : Session := { files := FileTree.withBroken, now := ⟨0⟩ }
    Options.ofArguments arguments = .ok options ∧ options.listChecks = false ∧
      Ready options (opened options session) none {} .raw ∧
      (execute arguments session).1.code = 1 ∧
      (execute arguments session).1.output =
        "A:2:5:Method f(): Not all execution paths return a value\n" ∧
      (execute arguments session).1.errors = "Warning: Invalid flow unit d/b.json: " ++
        "EOF while parsing a value at line 1 column 0\n" := by
  intro arguments options session
  have hready : Ready options (opened options session) none {} .raw :=
    ⟨.ignored rfl, .asked rfl rfl (by decide +kernel), by decide, by decide⟩
  have hsession : session.Sound := Session.sound_of_no_log rfl
  have hunits : Analyzer.collectUnits {} session.files options.paths =
      .ok [⟨"d/a.json"⟩, ⟨"d/b.json"⟩] := FileTree.collectUnits_withBroken
  obtain ⟨hreport, -, hzero, hcode, -⟩ :=
    execute_outcome arguments session.files session.now options rfl rfl
  obtain ⟨analysis, last, units, failures, hrun, hunits', hfailures, houtput, herrors⟩ :=
    hreport none {} .raw hready
  have hissues : analysis.issues = ⟨[Issue.fallingOff]⟩ := by
    obtain ⟨analysis', last', hrun', hissues, -⟩ :=
      Analyzer.run_analyzePaths_ok {} hsession (Session.later_refl hsession) hunits
    cases hrun.symm.trans hrun'
    rw [hissues, Analyzer.flatMap_issuesAt_withBroken rfl]
    exact congrArg IssueCollection.mk (List.mergeSort_singleton _)
  have hwarned : failures = [.invalidUnit ⟨"d/b.json"⟩ ⟨.endInValue, 1, 0⟩] := by
    cases hunits.symm.trans hunits'
    exact eq_of_explains_withBroken rfl rfl (filter_loads_withBroken ▸ hfailures)
  refine ⟨rfl, rfl, hready, ?_, ?_, ?_⟩
  · refine hcode.resolve_left fun hcode => ?_
    obtain ⟨source, config, format, analysis', last', hready', hrun', hnone⟩ := hzero.1 hcode
    obtain ⟨rfl, rfl⟩ := hready.configures.unique hready'.configures
    cases hrun.symm.trans hrun'
    rw [hissues] at hnone
    exact hnone Issue.fallingOff (List.mem_singleton_self _) rfl
  · have hline : Report.rawLine Issue.fallingOff =
        "A:2:5:Method f(): Not all execution paths return a value\n" := by
      rw [Report.rawLine, show Issue.fallingOff.file.text = "A" from Path.text_toBytes ⟨"A"⟩]
      rfl
    rw [houtput, hissues, OutputFormat.render, Report.raw]
    simp [IssueCollection.sort, Issue.sort, hline]
  · rw [herrors, hwarned]
    rfl

/-! ### A log that is the configuration file -/

/-- The options of a run whose log is its configuration file. -/
def loggingOver : Options :=
  { paths := [⟨"."⟩], config := some ⟨"c.toml"⟩, debugLog := some ⟨"c.toml"⟩ }

/-- The session of such a run in an empty directory, after the log has been opened. -/
def loggedOver : Session where
  files := ⟨.directory [("c.toml", .file ByteArray.empty)], []⟩
  log := some ⟨⟨"c.toml"⟩, ["c.toml"], 0⟩
  now := ⟨0⟩

/-- If the log is the configuration file then the run fails, although the file is there and empty
after the log has been opened, and so could be loaded. -/
theorem execute_loggingOver :
    Options.ofArguments ["--debug-log", "c.toml", "--config", "c.toml", "."] = .ok loggingOver ∧
      opened loggingOver { files := ⟨.directory [], []⟩, now := ⟨0⟩ } = loggedOver ∧
      readConfig loggedOver.files ⟨"c.toml"⟩ = .ok {} ∧ Chooses loggingOver {} .table ∧
      loggingOver.checks = [] ∧ loggedOver.files.isDirectory ⟨"."⟩ = true ∧
      (∃ analysis last, ((runAnalyzer loggingOver {}).analyzePaths loggingOver.paths).run
          loggedOver = (.ok analysis, last) ∧
        ∀ issue ∈ analysis.issues.toList, issue.severity ≠ .error) ∧
      (execute ["--debug-log", "c.toml", "--config", "c.toml", "."]
        { files := ⟨.directory [], []⟩, now := ⟨0⟩ }).1.code = 1 := by
  have hsound : Session.Sound { files := ⟨.directory [], []⟩, now := ⟨0⟩ } :=
    Session.sound_of_no_log rfl
  have hopened : opened loggingOver { files := ⟨.directory [], []⟩, now := ⟨0⟩ } = loggedOver := rfl
  have hlogged : loggedOver.Sound := hopened ▸ sound_opened loggingOver hsound
  have hunits : collectUnits {} loggedOver.files loggingOver.paths = .ok [] := by
    have hfound : loggingOver.paths.mapM (unitsAt {} loggedOver.files) = .ok [[]] := rfl
    rw [collectUnits_eq (by decide), hfound]
    simp [Except.map, dropRepeated]
  obtain ⟨analysis, last, hrun, hissues, -⟩ :=
    Analyzer.run_analyzePaths_ok (runAnalyzer loggingOver {}) hlogged
      (Session.later_refl hlogged) hunits
  have hnot : ∀ source config format, ¬ Ready loggingOver
      (opened loggingOver { files := ⟨.directory [], []⟩, now := ⟨0⟩ }) source config format := by
    intro source config format h
    have hlog : loggedOver.Logs (loggedOver.files.position ⟨"c.toml"⟩) := ⟨_, rfl, rfl⟩
    cases h.configures with
    | ignored hignored => cases hignored
    | given _ hpath hprovides =>
      -- the given file is the log
      cases hpath
      exact hprovides.not_log hlog
    | nearest _ hpath _ _ _ => cases hpath
    | absent _ hpath _ _ => cases hpath
  refine ⟨rfl, hopened, rfl, .standard rfl rfl rfl, rfl, by decide, ⟨analysis, last, hrun, ?_⟩,
    (execute_not_ready rfl hsound rfl hnot).1⟩
  rw [hissues]
  simp [IssueCollection.sort, Issue.sort]

end CommandLine

end ReturnPaths
