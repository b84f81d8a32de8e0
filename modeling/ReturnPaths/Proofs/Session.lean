import ReturnPaths.Proofs.Log.Content
import ReturnPaths.Session

/-!
# What recording leaves as it is

In a session whose log is written by nothing else, recording events changes the log file and no
other file, and there are the same files and directories afterwards.

* `Session.Sound` : the log file contains what was recorded and nothing else.
* `Session.Later` : what a session and a later state of it have in common.
* `Session.Later.recorded`, `Session.Later.recordAll` : recording leads to a later state.
-/

namespace ReturnPaths

namespace Session

/-- A log is kept in the file at this position. -/
def Logs (session : Session) (position : List String) : Prop :=
  ∃ logger, session.log = some logger ∧ logger.position = position

/-- If a log is kept, its file contains what was recorded and nothing else. -/
def Sound (session : Session) : Prop :=
  ∀ logger, session.log = some logger → ∃ lines, logger.Holds session.files lines

/-- A later state of a session in which nothing but the log was written. -/
structure Later (session later : Session) : Prop where
  /-- The log file contains what was recorded and nothing else. -/
  sound : later.Sound
  /-- There are the same files and directories. -/
  outline : later.files.outline = session.files.outline
  /-- The log is kept in the same file. -/
  logs : ∀ position, later.Logs position ↔ session.Logs position
  /-- The other files have the content they had. -/
  others : ∀ position, ¬ session.Logs position → ∀ content,
    later.files.root.get? position = some (.file content) ↔
      session.files.root.get? position = some (.file content)

variable {session later latest : Session}

theorem sound_of_no_log (h : session.log = none) : session.Sound := by
  intro logger hlogger
  rw [h] at hlogger
  cases hlogger

theorem later_refl (h : session.Sound) : session.Later session where
  sound := h
  outline := rfl
  logs _ := Iff.rfl
  others _ _ _ := Iff.rfl

theorem Later.trans (h : session.Later later) (h' : later.Later latest) :
    session.Later latest where
  sound := h'.sound
  outline := h'.outline.trans h.outline
  logs position := (h'.logs position).trans (h.logs position)
  others position hposition content :=
    (h'.others position (mt (h.logs position).1 hposition) content).trans
      (h.others position hposition content)

/-! ### Recording -/

theorem later_recorded (h : session.Sound) (event : Event) :
    session.Later (session.recorded event) := by
  cases hlog : session.log with
  | none =>
    rw [recorded, hlog]
    exact later_refl h
  | some logger =>
    obtain ⟨lines, hlines⟩ := h logger hlog
    obtain ⟨offset, root, hrecord, hholds, content, hroot⟩ :=
      Logger.record_spec hlines session.now event
    simp only [recorded, hlog, hrecord]
    refine ⟨?_, ?_, ?_, ?_⟩
    · rintro logger' hlogger'
      cases hlogger'
      exact ⟨_, hholds⟩
    · simp only [FileTree.outline, hroot.outline]
    · intro position
      constructor
      · rintro ⟨logger', hlogger', rfl⟩
        cases hlogger'
        exact ⟨logger, hlog, rfl⟩
      · rintro ⟨logger', hlogger', rfl⟩
        rw [hlog] at hlogger'
        cases hlogger'
        exact ⟨_, rfl, rfl⟩
    · intro position hposition content
      exact hroot.others position (fun heq => hposition ⟨logger, hlog, heq.symm⟩) content

/-- What was recorded last stands at the end of the log. -/
theorem recorded_log {logger : Logger} (h : session.Sound) (hlog : session.log = some logger)
    (event : Event) : ∃ lines, (session.recorded event).files.root.get? logger.position =
      some (.file (Logger.written
        (lines ++ event.messages.map fun message => (session.now, message))).toUTF8) := by
  obtain ⟨lines, hlines⟩ := h logger hlog
  obtain ⟨offset, root, hrecord, hholds, -⟩ := Logger.record_spec hlines session.now event
  refine ⟨lines, ?_⟩
  simp only [recorded, hlog, hrecord]
  exact hholds.content

theorem Later.recorded (h : session.Later later) (event : Event) :
    session.Later (later.recorded event) := h.trans (later_recorded h.sound event)

theorem run_record (event : Event) : (record event).run session = ((), session.recorded event) :=
  rfl

theorem run_recordAll (events : List Event) :
    (recordAll events).run session = ((), events.foldl recorded session) := by
  induction events generalizing session with
  | nil => rfl
  | cons event events ih => exact ih

theorem Later.recordAll (h : session.Later later) (events : List Event) :
    session.Later (events.foldl Session.recorded later) := by
  induction events generalizing later with
  | nil => exact h
  | cons event events ih => exact ih (h.recorded event)

/-! ### Opening a log -/

/-- A log that was just opened contains nothing. -/
theorem sound_logging {path : Path} (h : session.logging path = .ok later) : later.Sound := by
  rw [logging] at h
  cases hcreate : Logger.create path session.files with
  | error error => rw [hcreate] at h; cases h
  | ok created =>
    obtain ⟨logger, files⟩ := created
    rw [hcreate] at h
    cases h
    intro logger' hlogger'
    cases hlogger'
    exact ⟨[], Logger.holds_create hcreate⟩

/-! ### Looking things up -/

namespace Later

variable (h : session.Later later)

include h

theorem workingDirectory : later.files.workingDirectory = session.files.workingDirectory :=
  FileTree.workingDirectory_congr h.outline

theorem position (path : Path) : later.files.position path = session.files.position path := by
  rw [FileTree.position, FileTree.position, h.workingDirectory]

theorem isFile (path : Path) : later.files.isFile path = session.files.isFile path := by
  rw [← FileTree.isFile_outline, h.outline, FileTree.isFile_outline]

theorem isDirectory (path : Path) :
    later.files.isDirectory path = session.files.isDirectory path := by
  rw [← FileTree.isDirectory_outline, h.outline, FileTree.isDirectory_outline]

theorem denotes (path : Path) : later.files.denotes path = session.files.denotes path := by
  rw [← FileTree.denotes_outline, h.outline, FileTree.denotes_outline]

theorem collectUnits (config : Config) (paths : List Path) :
    ReturnPaths.collectUnits config later.files paths =
      ReturnPaths.collectUnits config session.files paths := by
  rw [← collectUnits_outline, h.outline, collectUnits_outline]

/-- All files but the log are read as before. -/
theorem readText {path : Path} (hpath : ¬ session.Logs (session.files.position path)) :
    later.files.readText path = session.files.readText path :=
  FileTree.readText_congr h.outline (h.others _ hpath)

end Later

end Session

end ReturnPaths
