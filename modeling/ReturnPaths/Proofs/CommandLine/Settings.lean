import ReturnPaths.CommandLine.Run
import ReturnPaths.Proofs.Config.Search
import ReturnPaths.Proofs.Session

/-!
# What a run is set up with

A run opens its log and loads its configuration before anything else.  All that happens from then on
can be told from the session in which the log has just been opened: recording changes no file but
the log, and a log is no configuration.

* `opened` : the session in which the log has been opened.
* `Configures` : the configuration of a run, and the file it comes from.
* `Chooses` : the format of the report; `resolveFormat_eq_ok` says that a run settles on it.
-/

namespace ReturnPaths

/-- The configuration in a file that is not the log; the log is never one. -/
structure Session.Provides (session : Session) (path : Path) (config : Config) : Prop where
  /-- The file is not the log. -/
  not_log : ¬ session.Logs (session.files.position path)
  /-- The file contains the configuration. -/
  content : readConfig session.files path = .ok config

/-- A configuration is loaded from the files that are there when the loading is recorded, but never
from the log. -/
theorem readConfig_recorded {session : Session} (h : session.Sound) {event : Event}
    (hevent : event.messages ≠ []) {path : Path} {config : Config} :
    readConfig (session.recorded event).files path = .ok config ↔ session.Provides path config := by
  have hlater := Session.later_recorded h event
  by_cases hpath : session.Logs (session.files.position path)
  · -- the event was written into the log before it is read, so there is a line in it
    refine iff_of_false (fun hread => ?_) fun hprovides => hprovides.not_log hpath
    obtain ⟨content, text, hnode, htext, hconfig⟩ := readConfig_eq_ok.1 hread
    obtain ⟨logger, hlogger, hposition⟩ := hpath
    obtain ⟨lines, hlog⟩ := Session.recorded_log h hlogger event
    rw [hposition, ← hlater.position, FileTree.get?_position hnode] at hlog
    cases hlog
    rw [fromUTF8?_toUTF8] at htext
    cases htext
    rw [Logger.not_config (by simp [hevent])] at hconfig
    cases hconfig
  · have hread :
        readConfig (session.recorded event).files path = readConfig session.files path := by
      rw [readConfig, readConfig, hlater.readText hpath]
    rw [hread]
    exact ⟨fun hconfig => ⟨hpath, hconfig⟩, fun hprovides => hprovides.content⟩

namespace CommandLine

/-! ### Steps of a run -/

section Steps

variable {α β : Type} {step : Run α} {next : α → Run β} {progress progress' : Progress}

theorem run_bind_ok {a : α} (h : step.run progress = (.ok a, progress')) :
    (step >>= next).run progress = (next a).run progress' := by
  have hbind : (step >>= next).run progress =
      (ExceptT.bindCont next (step.run progress).1) (step.run progress).2 := rfl
  rw [hbind, h]
  rfl

theorem run_bind_error {failure : Failure} (h : step.run progress = (.error failure, progress')) :
    (step >>= next).run progress = (.error failure, progress') := by
  have hbind : (step >>= next).run progress =
      (ExceptT.bindCont next (step.run progress).1) (step.run progress).2 := rfl
  rw [hbind, h]
  rfl

theorem run_tell (line : String) (progress : Progress) : (tell line).run progress =
    (.ok (), { progress with told := progress.told ++ [line] }) := rfl

theorem run_onSession {action : StateM Session α} {a : α} {session : Session}
    (h : action.run progress.session = (a, session)) :
    (onSession action).run progress = (.ok a, { progress with session }) := by
  have hrun : (onSession action).run progress = (.ok (action.run progress.session).1,
      { progress with session := (action.run progress.session).2 }) := rfl
  rw [hrun, h]

theorem run_orFail_ok {ε : Type} {failure : ε → Failure} {action : StateM Session (Except ε α)}
    {a : α} {session : Session} (h : action.run progress.session = (.ok a, session)) :
    (orFail failure action).run progress = (.ok a, { progress with session }) := by
  rw [orFail, run_bind_ok (run_onSession h)]
  rfl

theorem run_orFail_error {ε : Type} {failure : ε → Failure} {action : StateM Session (Except ε α)}
    {error : ε} {session : Session} (h : action.run progress.session = (.error error, session)) :
    (orFail failure action).run progress = (.error (failure error), { progress with session }) := by
  rw [orFail, run_bind_ok (run_onSession h)]
  rfl

end Steps

/-! ### Opening the log -/

/-- The session in which the log has been opened, if one is asked for and can be opened. -/
def opened (options : Options) (session : Session) : Session :=
  match options.debugLog with
  | none => session
  | some path =>
    match session.logging path with
    | .ok opened => opened
    | .error _ => session

/-- What is told about the log. -/
def logNotices (options : Options) (session : Session) : List String :=
  match options.debugLog with
  | none => []
  | some path =>
    match session.logging path with
    | .ok _ => if options.verbose then [s!"Debug: Debug log writing to {path.text}"] else []
    | .error error => [s!"Warning: Failed to initialize debug log: {error.message}"]

theorem sound_opened (options : Options) {session : Session} (h : session.Sound) :
    (opened options session).Sound := by
  rw [opened]
  cases options.debugLog with
  | none => exact h
  | some path =>
    cases hlogging : session.logging path with
    | ok opened => simpa only [hlogging] using Session.sound_logging hlogging
    | error error => simpa only [hlogging] using h

theorem run_startLog (path : Path) (session : Session) : (startLog path).run session =
    match session.logging path with
    | .ok opened => (.ok (), opened)
    | .error error => (.error error, session) := by
  rw [startLog]
  simp only [StateT.run_bind, StateT.run_get, pure_bind]
  cases session.logging path <;> rfl

theorem run_openLog (options : Options) (session : Session) :
    (openLog options).run ⟨session, []⟩ =
      (.ok (), ⟨opened options session, logNotices options session⟩) := by
  rw [openLog, opened, logNotices]
  cases options.debugLog with
  | none => rfl
  | some path =>
    cases hlogging : session.logging path with
    | ok opened =>
      have hstart : (onSession (startLog path)).run ⟨session, []⟩ =
          (.ok (.ok ()), ⟨opened, []⟩) := run_onSession (by rw [run_startLog, hlogging])
      simp only [hlogging]
      rw [run_bind_ok hstart]
      cases options.verbose <;> rfl
    | error error =>
      have hstart : (onSession (startLog path)).run ⟨session, []⟩ =
          (.ok (.error error), ⟨session, []⟩) := run_onSession (by rw [run_startLog, hlogging])
      simp only [hlogging]
      rw [run_bind_ok hstart]
      rfl

/-! ### The configuration -/

/-- The configuration of a run in a session, and the file that it comes from. -/
inductive Configures (options : Options) (session : Session) : Option Path → Config → Prop where
  /-- Configuration files are passed over. -/
  | ignored (hignored : options.noConfig = true) : Configures options session none {}
  /-- The file is given. -/
  | given {path : Path} {config : Config} (hsought : options.noConfig = false)
      (hpath : options.config = some path) (hprovides : session.Provides path config) :
      Configures options session (some path) config
  /-- The file is the nearest one to the working directory. -/
  | nearest {directory path : Path} {config : Config} (hsought : options.noConfig = false)
      (hpath : options.config = none) (hhere : session.files.currentDirectory = .ok directory)
      (hfound : findConfig? session.files directory = some path)
      (hprovides : session.Provides path config) : Configures options session (some path) config
  /-- There is a working directory, but no file. -/
  | absent {directory : Path} (hsought : options.noConfig = false) (hpath : options.config = none)
      (hhere : session.files.currentDirectory = .ok directory)
      (hfound : findConfig? session.files directory = none) : Configures options session none {}

/-- What is told about the configuration. -/
def configNotices (options : Options) (source : Option Path) : List String :=
  if options.verbose then source.toList.map fun path => s!"Using config: {path.text}" else []

theorem run_tellConfig (options : Options) (path : Path) (progress : Progress) :
    (tellConfig options path).run progress = (.ok (),
      { progress with told := progress.told ++ configNotices options (some path) }) := by
  rw [tellConfig, configNotices]
  cases options.verbose with
  | true => rfl
  | false => simp only [Bool.false_eq_true, ↓reduceIte, List.append_nil]; rfl

theorem run_get (progress : Progress) :
    (get : Run Progress).run progress = (.ok progress, progress) := rfl

theorem denotes_of_provides {session : Session} {path : Path} {config : Config}
    (h : session.Provides path config) : session.files.denotes path = true := by
  obtain ⟨content, text, hnode, -, -⟩ := readConfig_eq_ok.1 h.content
  rw [FileTree.denotes, hnode]
  rfl

/-- The loading of a file is recorded before the file is read, which yields what it provides. -/
theorem readConfig_loading {session : Session} (h : session.Sound) (path : Path) :
    (∃ config, session.Provides path config ∧
        readConfig (session.recorded (.configLoading path)).files path = .ok config) ∨
      (∀ config, ¬ session.Provides path config) ∧
        ∃ error, readConfig (session.recorded (.configLoading path)).files path = .error error := by
  have hread (config : Config) :
      readConfig (session.recorded (.configLoading path)).files path = .ok config ↔
        session.Provides path config :=
    readConfig_recorded h (by simp [Event.messages])
  cases hresult : readConfig (session.recorded (.configLoading path)).files path with
  | ok config => exact .inl ⟨config, (hread config).1 hresult, rfl⟩
  | error error =>
    refine .inr ⟨fun config hprovides => ?_, error, rfl⟩
    rw [(hread config).2 hprovides] at hresult
    cases hresult

/-- Loading the configuration from a given file. -/
theorem run_loadGiven {options : Options} {session : Session} (h : session.Sound) {path : Path}
    (hsought : options.noConfig = false) (hpath : options.config = some path) (told : List String) :
    ∃ later, session.Later later ∧
      ((∃ config, session.Provides path config ∧ (loadSettings options).run ⟨session, told⟩ =
          (.ok config, ⟨later, told ++ configNotices options (some path)⟩)) ∨
        (∀ config, ¬ session.Provides path config) ∧ ∃ failure,
          (loadSettings options).run ⟨session, told⟩ = (.error failure, ⟨later, told⟩)) := by
  have hload := run_loadConfig path session
  rw [loadSettings, run_bind_ok (run_get _)]
  simp only [hsought, Bool.false_eq_true, ↓reduceIte, hpath]
  rcases readConfig_loading h path with ⟨config, hprovides, hread⟩ | ⟨hnot, error, hread⟩
  · refine ⟨_, Session.later_recorded h (.configLoading path), .inl ⟨config, hprovides, ?_⟩⟩
    rw [hread] at hload
    simp only [denotes_of_provides hprovides, ↓reduceIte]
    rw [run_bind_ok (run_orFail_ok hload), run_bind_ok (run_tellConfig options path _)]
    rfl
  · cases hdenotes : session.files.denotes path with
    | true =>
      refine ⟨_, Session.later_recorded h (.configLoading path),
        .inr ⟨hnot, .config false error, ?_⟩⟩
      rw [hread] at hload
      simp only [↓reduceIte]
      rw [run_bind_error (run_orFail_error hload)]
    | false => exact ⟨session, Session.later_refl h, .inr ⟨hnot, .configNotFound path, rfl⟩⟩

/-- Loading the configuration from the nearest file. -/
theorem run_loadNearest {options : Options} {session : Session} (h : session.Sound)
    {directory path : Path} (hsought : options.noConfig = false) (hpath : options.config = none)
    (hhere : session.files.currentDirectory = .ok directory)
    (hfound : findConfig? session.files directory = some path) (told : List String) :
    ∃ later, session.Later later ∧
      ((∃ config, session.Provides path config ∧ (loadSettings options).run ⟨session, told⟩ =
          (.ok config, ⟨later, told ++ configNotices options (some path)⟩)) ∨
        (∀ config, ¬ session.Provides path config) ∧ ∃ failure,
          (loadSettings options).run ⟨session, told⟩ = (.error failure, ⟨later, told⟩)) := by
  have hload := (run_loadConfigHere_ok hhere).trans (run_loadConfigFrom directory session)
  rw [hfound] at hload
  refine ⟨session.recorded (.configLoading path), Session.later_recorded h _, ?_⟩
  rw [loadSettings, run_bind_ok (run_get _)]
  simp only [hsought, Bool.false_eq_true, ↓reduceIte, hpath]
  rcases readConfig_loading h path with ⟨config, hprovides, hread⟩ | ⟨hnot, error, hread⟩
  · refine .inl ⟨config, hprovides, ?_⟩
    simp only [hread, Except.map] at hload
    rw [run_bind_ok (run_orFail_ok hload)]
    dsimp only
    rw [run_bind_ok (run_tellConfig options path _)]
    rfl
  · refine .inr ⟨hnot, .config true error, ?_⟩
    simp only [hread, Except.map] at hload
    rw [run_bind_error (run_orFail_error hload)]

/-- **What comes of loading the configuration** of a run in a session. -/
theorem run_loadSettings (options : Options) {session : Session} (h : session.Sound)
    (told : List String) : ∃ later, session.Later later ∧
      ((∃ source config, Configures options session source config ∧
          (loadSettings options).run ⟨session, told⟩ =
            (.ok config, ⟨later, told ++ configNotices options source⟩)) ∨
        (∀ source config, ¬ Configures options session source config) ∧ ∃ failure,
          (loadSettings options).run ⟨session, told⟩ = (.error failure, ⟨later, told⟩)) := by
  have hnone : told ++ configNotices options none = told := by simp [configNotices]
  cases hsought : options.noConfig with
  | true =>
    refine ⟨session, Session.later_refl h, .inl ⟨none, {}, .ignored hsought, ?_⟩⟩
    rw [loadSettings, run_bind_ok (run_get _), hnone]
    simp only [hsought]
    rfl
  | false =>
    cases hpath : options.config with
    | some path =>
      obtain ⟨later, hlater, ⟨config, hprovides, hrun⟩ | ⟨hnot, failure, hrun⟩⟩ :=
        run_loadGiven h hsought hpath told
      · exact ⟨later, hlater, .inl ⟨some path, config, .given hsought hpath hprovides, hrun⟩⟩
      · refine ⟨later, hlater, .inr ⟨fun source config hconfigures => ?_, failure, hrun⟩⟩
        cases hconfigures <;> simp_all
    | none =>
      cases hhere : session.files.currentDirectory with
      | error error =>
        -- there is no place to start the search from
        refine ⟨session, Session.later_refl h, .inr ⟨fun source config hconfigures => ?_,
          .config true (.unreadable ⟨"."⟩ error), ?_⟩⟩
        · cases hconfigures <;> simp_all
        · rw [loadSettings, run_bind_ok (run_get _)]
          simp only [hsought, Bool.false_eq_true, ↓reduceIte, hpath]
          rw [run_bind_error (run_orFail_error (run_loadConfigHere_error hhere))]
      | ok directory =>
        cases hfound : findConfig? session.files directory with
        | none =>
          refine ⟨session, Session.later_refl h,
            .inl ⟨none, {}, .absent hsought hpath hhere hfound, ?_⟩⟩
          have hload : loadConfigHere.run session = (.ok none, session) := by
            rw [run_loadConfigHere_ok hhere, run_loadConfigFrom, hfound]
          rw [loadSettings, run_bind_ok (run_get _), hnone]
          simp only [hsought, Bool.false_eq_true, ↓reduceIte, hpath]
          rw [run_bind_ok (run_orFail_ok hload)]
          rfl
        | some path =>
          obtain ⟨later, hlater, ⟨config, hprovides, hrun⟩ | ⟨hnot, failure, hrun⟩⟩ :=
            run_loadNearest h hsought hpath hhere hfound told
          · exact ⟨later, hlater,
              .inl ⟨some path, config, .nearest hsought hpath hhere hfound hprovides, hrun⟩⟩
          · refine ⟨later, hlater, .inr ⟨fun source config hconfigures => ?_, failure, hrun⟩⟩
            cases hconfigures <;> simp_all

theorem provides_unique {session : Session} {path : Path} {config config' : Config}
    (h : session.Provides path config) (h' : session.Provides path config') : config = config' :=
  Except.ok.inj (h.content.symm.trans h'.content)

/-- A run has at most one configuration. -/
theorem Configures.unique {options : Options} {session : Session} {source source' : Option Path}
    {config config' : Config} (h : Configures options session source config)
    (h' : Configures options session source' config') : source = source' ∧ config = config' := by
  cases h with
  | ignored hignored => cases h' <;> simp_all
  | given hsought hpath hprovides =>
    cases h' with
    | given _ hpath' hprovides' =>
      rw [hpath] at hpath'
      cases hpath'
      exact ⟨rfl, provides_unique hprovides hprovides'⟩
    | _ => simp_all
  | nearest hsought hpath hhere hfound hprovides =>
    cases h' with
    | nearest _ _ hhere' hfound' hprovides' =>
      rw [hhere] at hhere'
      cases hhere'
      rw [hfound] at hfound'
      cases hfound'
      exact ⟨rfl, provides_unique hprovides hprovides'⟩
    | _ => simp_all
  | absent hsought hpath hhere hfound => cases h' <;> simp_all

/-! ### The format of the report -/

/-- The format of the report: the options win over the configuration. -/
inductive Chooses (options : Options) (config : Config) : OutputFormat → Prop where
  /-- JSON is asked for. -/
  | json (hjson : options.json = true) : Chooses options config .json
  /-- The options name the format. -/
  | asked {name : String} {format : OutputFormat} (hjson : options.json = false)
      (hname : options.format = some name) (hformat : OutputFormat.ofName? name = some format) :
      Chooses options config format
  /-- The configuration names the format. -/
  | configured {name : String} {format : OutputFormat} (hjson : options.json = false)
      (hnone : options.format = none) (hname : config.format = some name)
      (hformat : OutputFormat.ofName? name = some format) : Chooses options config format
  /-- No format is named. -/
  | standard (hjson : options.json = false) (hnone : options.format = none)
      (hname : config.format = none) : Chooses options config .table

theorem resolveFormat_named {options : Options} {config : Config} {format : OutputFormat}
    {name : String} (hjson : options.json = false)
    (hname : (options.format <|> config.format) = some name) :
    resolveFormat options config = .ok format ↔ OutputFormat.ofName? name = some format := by
  rw [resolveFormat, hjson, hname]
  cases hof : OutputFormat.ofName? name <;> simp [hof]

theorem resolveFormat_eq_ok {options : Options} {config : Config} {format : OutputFormat} :
    resolveFormat options config = .ok format ↔ Chooses options config format := by
  cases hjson : options.json with
  | true =>
    rw [resolveFormat, if_pos hjson]
    constructor
    · intro h
      cases h
      exact .json hjson
    · intro h
      cases h <;> simp_all
  | false =>
    cases hasked : options.format with
    | some name =>
      rw [resolveFormat_named hjson (by rw [hasked]; rfl)]
      refine ⟨.asked hjson hasked, fun h => ?_⟩
      cases h <;> simp_all
    | none =>
      cases hconfig : config.format with
      | some name =>
        rw [resolveFormat_named hjson (by rw [hasked, hconfig]; rfl)]
        refine ⟨.configured hjson hasked hconfig, fun h => ?_⟩
        cases h <;> simp_all
      | none =>
        rw [resolveFormat, hjson, hasked, hconfig]
        constructor
        · intro h
          cases h
          exact .standard hjson hasked hconfig
        · intro h
          cases h <;> simp_all
          rfl

end CommandLine

end ReturnPaths
