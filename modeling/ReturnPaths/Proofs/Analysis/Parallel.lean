import ReturnPaths.Analysis.Analyzer
import ReturnPaths.Proofs.FileTree.Creation
import ReturnPaths.Proofs.Session

/-!
# Parallel sessions

Two sessions are parallel if the same has been recorded in both.  What was the same in their trees
stays the same then, and an analysis of files that are the same gives the same in both.

* `Respects` : an action that does not tell related states apart.
* `Session.Parallel` : the same has been recorded in two sessions since two earlier ones.
* `Analyzer.respects_analyzePaths` : an analysis in parallel sessions.
-/

namespace ReturnPaths

/-! ### Actions on related states -/

section Respects

variable {σ α β : Type}

/-- An action gives the same result in related states, and leaves related states behind. -/
def Respects (related : σ → σ → Prop) (action : StateM σ α) : Prop :=
  ∀ state state', related state state' →
    (action.run state').1 = (action.run state).1 ∧
      related (action.run state).2 (action.run state').2

variable {related : σ → σ → Prop}

theorem respects_pure (a : α) : Respects related (pure a : StateM σ α) :=
  fun _ _ h => ⟨rfl, h⟩

theorem Respects.bind {action : StateM σ α} {next : α → StateM σ β}
    (h : Respects related action) (hnext : ∀ a, Respects related (next a)) :
    Respects related (action >>= next) := by
  intro state state' hstate
  obtain ⟨hresult, hlast⟩ := h state state' hstate
  have hrun (state : σ) : (action >>= next).run state =
      (next (action.run state).1).run (action.run state).2 := rfl
  rw [hrun, hrun, hresult]
  exact hnext _ _ _ hlast

/-- What is done next may depend on the state as far as related states give the same action. -/
theorem respects_get {next : σ → StateM σ α} (h : ∀ state state', related state state' →
      next state' = next state ∧ Respects related (next state)) :
    Respects related (get >>= next) := by
  intro state state' hstate
  obtain ⟨hnext, hrespects⟩ := h state state' hstate
  have hrun (state : σ) : (get >>= next).run state = (next state).run state := rfl
  rw [hrun, hrun, hnext]
  exact hrespects _ _ hstate

theorem respects_modify {change : σ → σ}
    (h : ∀ state state', related state state' → related (change state) (change state')) :
    Respects related (modify change) := fun state state' hstate => ⟨rfl, h state state' hstate⟩

end Respects

/-! ### Recording in both sessions -/

namespace Session

/-- The same has been recorded in two sessions since two earlier ones. -/
structure Parallel (origin origin' session session' : Session) : Prop where
  /-- The logs stand at the same place. -/
  log : session'.log = session.log
  /-- The time of the time stamps is the same. -/
  now : session'.now = session.now
  /-- The log files have the same content. -/
  logged : ∀ logger, session.log = some logger → ∃ content,
    session.files.root.get? logger.position = some (.file content) ∧
      session'.files.root.get? logger.position = some (.file content)
  /-- There are the directories and files that there were. -/
  outline : session.files.outline = origin.files.outline
  /-- There are the directories and files that there were. -/
  outline' : session'.files.outline = origin'.files.outline
  /-- What was the same is the same. -/
  alike : ∀ path, origin.files.Alike origin'.files path → session.files.Alike session'.files path

/-- What recording changes, as long as the log file is there. -/
theorem recorded_eq {session : Session} {logger : Logger} {content : ByteArray}
    (hlog : session.log = some logger)
    (hfile : session.files.root.get? logger.position = some (.file content)) (event : Event) :
    let bytes := (String.join (event.messages.map (Logger.line session.now))).toUTF8
    ∃ root, Node.Overwritten logger.position (Logger.overwrite content logger.offset bytes)
        session.files.root root ∧
      session.recorded event = { session with
        files := { session.files with root }
        log := some { logger with offset := logger.offset + bytes.size } } := by
  intro bytes
  obtain ⟨root, hput, hroot⟩ := Node.put?_file hfile (Logger.overwrite content logger.offset bytes)
  refine ⟨root, hroot, ?_⟩
  simp only [recorded, hlog, Logger.record, Logger.write, hfile, FileTree.put]
  rw [hput, Option.getD_some]

variable {origin origin' session session' : Session}

theorem Parallel.recorded (h : Parallel origin origin' session session') (event : Event) :
    Parallel origin origin' (session.recorded event) (session'.recorded event) := by
  cases hlog : session.log with
  | none =>
    have hlog' := h.log.trans hlog
    rw [Session.recorded, Session.recorded, hlog, hlog']
    exact h
  | some logger =>
    obtain ⟨content, hfile, hfile'⟩ := h.logged logger hlog
    obtain ⟨root, hroot, hrecorded⟩ := recorded_eq hlog hfile event
    obtain ⟨root', hroot', hrecorded'⟩ := recorded_eq (h.log.trans hlog) hfile' event
    rw [h.now] at hroot' hrecorded'
    rw [hrecorded, hrecorded']
    refine ⟨rfl, rfl, ?_, ?_, ?_, ?_⟩
    · rintro later hlater
      cases hlater
      exact ⟨_, hroot.content, hroot'.content⟩
    · rw [← h.outline]
      simp only [FileTree.outline, hroot.outline]
    · rw [← h.outline']
      simp only [FileTree.outline, hroot'.outline]
    · exact fun path hpath => (h.alike path hpath).overwritten hroot hroot'

theorem respects_record (event : Event) :
    Respects (Parallel origin origin') (record event) :=
  respects_modify fun _ _ h => h.recorded event

theorem respects_recordAll (events : List Event) :
    Respects (Parallel origin origin') (recordAll events) := by
  induction events with
  | nil => exact respects_pure ()
  | cons event events ih => exact (respects_record event).bind fun _ => ih

end Session

/-! ### Analyzing in both sessions -/

namespace Analyzer

open Session

variable {origin origin' : Session} {path : Path} {paths : List Path} (analyzer : Analyzer)

theorem respects_analyzeFile (hpath : origin.files.Alike origin'.files path) :
    Respects (Parallel origin origin') (analyzer.analyzeFile path) := by
  refine respects_get fun session session' h => ⟨?_, ?_⟩
  · simp only [loadUnit, (h.alike path hpath).readText]
  · split
    · exact respects_pure _
    · exact (respects_record _).bind fun _ => (respects_recordAll _).bind fun _ => respects_pure _

theorem respects_analyzeFiles (hpaths : ∀ path ∈ paths, origin.files.Alike origin'.files path) :
    Respects (Parallel origin origin') (analyzer.analyzeFiles paths) := by
  induction paths with
  | nil => exact respects_pure _
  | cons path paths ih =>
    obtain ⟨hpath, hpaths⟩ := List.forall_mem_cons.1 hpaths
    exact (analyzer.respects_analyzeFile hpath).bind fun _ =>
      (ih hpaths).bind fun _ => respects_pure _

/-- **An analysis in parallel sessions** gives the same in both, if the same units have been
collected in the earlier ones and are the same files. -/
theorem respects_analyzePaths
    (hsame : analyzer.collectUnits origin'.files paths = analyzer.collectUnits origin.files paths)
    (hunits : ∀ units, analyzer.collectUnits origin.files paths = .ok units →
      ∀ unit ∈ units, origin.files.Alike origin'.files unit) :
    Respects (Parallel origin origin') (analyzer.analyzePaths paths) := by
  refine respects_get fun session session' h => ?_
  have hcollect : analyzer.collectUnits session.files paths =
      analyzer.collectUnits origin.files paths := by
    rw [Analyzer.collectUnits, ← collectUnits_outline, h.outline, collectUnits_outline]
    rfl
  have hcollect' : analyzer.collectUnits session'.files paths =
      analyzer.collectUnits origin.files paths := by
    rw [← hsame, Analyzer.collectUnits, ← collectUnits_outline, h.outline', collectUnits_outline]
    rfl
  refine ⟨by simp only [hcollect, hcollect'], ?_⟩
  simp only [hcollect]
  cases hfound : analyzer.collectUnits origin.files paths with
  | error error => exact respects_pure _
  | ok units =>
    exact (respects_record _).bind fun _ => (respects_record _).bind fun _ =>
      (analyzer.respects_analyzeFiles (hunits units hfound)).bind fun _ =>
        (respects_recordAll _).bind fun _ => (respects_record _).bind fun _ => respects_pure _

end Analyzer

end ReturnPaths
