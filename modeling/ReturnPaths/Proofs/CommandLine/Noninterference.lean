import ReturnPaths.Proofs.Analysis.Agreement
import ReturnPaths.Proofs.CommandLine.Coupling

/-!
# Configuration files that have no influence

Of all configuration files in a tree, a run depends on the one that it loads.  In two trees that
differ in other configuration files alone it leaves the same behind: the upward search stops before
it gets to them, they are no units, and a log is opened at the same place.

* `FileTree.DifferInConfigs` : two trees that differ in configuration files alone.
* `SameSource` : the two trees have the same configuration for a run.
* `execute_differInConfigs` : what the program leaves behind in two such trees.
* `execute_throughConfig` : a log whose path leads through such a file is the exception.
-/

namespace ReturnPaths

/-! ### Trees that differ in configuration files -/

namespace FileTree

/-- The entries of two trees differ at a position. -/
def Differs (files files' : FileTree) (position : List String) : Prop :=
  files'.entryAt? position ≠ files.entryAt? position

/-- Two trees differ in nothing but the presence and the content of configuration files. -/
structure DifferInConfigs (files files' : FileTree) : Prop where
  /-- The working directory is the same. -/
  workingDirectory : files'.workingDirectory = files.workingDirectory
  /-- Where the entries differ there is a configuration file in the one tree and another one, or
  nothing, in the other. -/
  configs : ∀ position, files.Differs files' position →
    position.getLast? = some configFileName ∧
      files.entryAt? position ≠ some none ∧ files'.entryAt? position ≠ some none

variable {files files' : FileTree}

theorem DifferInConfigs.agreeBut (h : files.DifferInConfigs files') :
    files.AgreeBut (files.Differs files') files' where
  workingDirectory := h.workingDirectory
  entry _ hposition := not_not.1 hposition
  not_directory position hposition := (h.configs position hposition).2

theorem DifferInConfigs.symm (h : files.DifferInConfigs files') : files'.DifferInConfigs files where
  workingDirectory := h.workingDirectory.symm
  configs position hdiffers :=
    (h.configs position (Ne.symm hdiffers)).imp_right And.symm

end FileTree

/-- The first member that satisfies one of two conditions is the same for both, if the conditions
differ from two for which this is so in the same way. -/
theorem find?_eq_of_imp {α : Type} {list : List α} {p p' q q' : α → Bool}
    (h : list.find? p' = list.find? p) (hpq : ∀ a, p a = true → q a = true)
    (hpq' : ∀ a, p' a = true → q' a = true) (hq : ∀ a, q a = true → p a = true ∨ q' a = true)
    (hq' : ∀ a, q' a = true → p' a = true ∨ q a = true) : list.find? q' = list.find? q := by
  induction list with
  | nil => rfl
  | cons a list ih =>
    rw [List.find?_cons, List.find?_cons] at h
    have hp : p' a = p a := by
      cases hpa : p a with
      | false =>
        refine Bool.eq_false_iff.2 fun hpa' => ?_
        rw [hpa, hpa'] at h
        simp [List.find?_some h.symm] at hpa
      | true =>
        by_contra hpa'
        rw [hpa, Bool.eq_false_iff.2 hpa'] at h
        exact hpa' (List.find?_some h)
    have hqa : q' a = q a := by
      rw [Bool.eq_iff_iff]
      constructor
      · exact fun hqa' => (hq' a hqa').elim (fun hpa' => hpq a (hp ▸ hpa')) id
      · exact fun hqa => (hq a hqa).elim (fun hpa => hpq' a (hp ▸ hpa)) id
    rw [List.find?_cons, List.find?_cons, hqa]
    cases hqa : q a with
    | true => rfl
    | false =>
      have hpa : p a = false := Bool.eq_false_iff.2 fun hpa => by simp [hpq a hpa] at hqa
      rw [hp, hpa] at h
      exact ih h

namespace CommandLine

/-- In both trees a run has the same configuration file, with the same content, or none. -/
inductive SameSource (options : Options) (files files' : FileTree) : Prop where
  /-- Configuration files are passed over. -/
  | ignored (hignored : options.noConfig = true)
  /-- The file is given. -/
  | given {path : Path} (hpath : options.config = some path) (hsame : files.SameAt files' path)
  /-- The file is the nearest one, if there is any. -/
  | nearest (hpath : options.config = none)
      (hfound : findConfig? files' files'.workingPath = findConfig? files files.workingPath)
      (hsame : ∀ path, findConfig? files files.workingPath = some path → files.SameAt files' path)

/-! ### Opening the log in both trees -/

/-- The sessions in which a run has opened its log in two trees: the same file has been created in
both, if any, and it takes the place of nothing in which the trees differ. -/
structure OpenedAlike (files files' : FileTree) (created : List String → Prop)
    (session session' : Session) : Prop where
  /-- The log is the same. -/
  log : session'.log = session.log
  /-- The time of the time stamps is the same. -/
  now : session'.now = session.now
  /-- The log is kept in the file that has been created. -/
  logged : ∀ logger, session.log = some logger → created logger.position
  /-- The first tree is as before, but for the log. -/
  left : files.AgreeBut created session.files
  /-- The second tree is as before, but for the log. -/
  right : files'.AgreeBut created session'.files
  /-- The trees do not differ where the log is. -/
  same : ∀ position, created position → ¬ files.Differs files' position
  /-- The log is empty. -/
  empty : ∀ position, created position →
    session.files.entryAt? position = some (some ByteArray.empty) ∧
      session'.files.entryAt? position = some (some ByteArray.empty)
  /-- The first tree is well-formed. -/
  wellFormed : session.files.WellFormed
  /-- The second tree is well-formed. -/
  wellFormed' : session'.files.WellFormed

theorem logging_eq (session : Session) (path : Path) : session.logging path =
    (session.files.create path).map fun (position, files) =>
      { session with files, log := some { path, position } } := by
  rw [Session.logging, Logger.create]
  cases session.files.create path <;> rfl

variable {options : Options} {files files' : FileTree} {now : Timestamp}

theorem openedAlike_create {path : Path} {position : List String} {later later' : FileTree}
    (hconfigs : files.DifferInConfigs files') (hfiles : files.WellFormed)
    (hfiles' : files'.WellFormed) (hpath : files.SameAt files' path)
    (hcreate : files.create path = .ok (position, later))
    (hcreate' : files'.create path = .ok (position, later')) :
    OpenedAlike files files' (· = position) { files := later, log := some { path, position }, now }
      { files := later', log := some { path, position }, now } where
  log := rfl
  now := rfl
  logged logger hlogger := by
    cases hlogger
    rfl
  left := FileTree.agreeBut_create hcreate
  right := FileTree.agreeBut_create hcreate'
  same := by
    rintro _ rfl
    exact not_not.2 (hpath.entry_createPosition hconfigs.agreeBut
      (FileTree.create_eq hcreate).1 (FileTree.create_eq hcreate').1)
  empty := by
    rintro _ rfl
    exact ⟨by rw [FileTree.entryAt?_create hcreate, if_pos rfl],
      by rw [FileTree.entryAt?_create hcreate', if_pos rfl]⟩
  wellFormed := FileTree.wellFormed_create hfiles hcreate
  wellFormed' := FileTree.wellFormed_create hfiles' hcreate'

/-- **Opening the log in both trees**: the same is told, and the same file is created in both. -/
theorem exists_openedAlike (hconfigs : files.DifferInConfigs files') (hfiles : files.WellFormed)
    (hfiles' : files'.WellFormed)
    (hlog : ∀ path, options.debugLog = some path → files.SameThrough files' path) :
    logNotices options { files := files', now } = logNotices options { files, now } ∧
      ∃ created, OpenedAlike files files' created (opened options { files, now })
        (opened options { files := files', now }) := by
  have hunopened : OpenedAlike files files' (fun _ => False) { files, now }
      { files := files', now } :=
    ⟨rfl, rfl, nofun, .refl files, .refl files', nofun, nofun, hfiles, hfiles'⟩
  rw [logNotices, logNotices, opened, opened]
  cases hpath : options.debugLog with
  | none => exact ⟨rfl, _, hunopened⟩
  | some path =>
    have hposition := hconfigs.agreeBut.createPosition_eq (hlog path hpath)
    have hcreate := files.create_eq_map path
    have hcreate' := files'.create_eq_map path
    cases hat : files.createPosition path with
    | error error =>
      rw [hposition, hat] at hcreate'
      rw [hat] at hcreate
      simp only [logging_eq, hcreate, hcreate', Except.map, true_and]
      exact ⟨_, hunopened⟩
    | ok position =>
      rw [hposition, hat] at hcreate'
      rw [hat] at hcreate
      simp only [logging_eq, hcreate, hcreate', Except.map, true_and]
      exact ⟨_, openedAlike_create hconfigs hfiles hfiles' (hlog path hpath).sameAt hcreate
        hcreate'⟩

namespace OpenedAlike

variable {created : List String → Prop} {session session' : Session} {path : Path}
  (h : OpenedAlike files files' created session session')

include h

theorem parallel : Session.Parallel session session' session session' where
  log := h.log
  now := h.now
  logged logger hlogger := by
    obtain ⟨hempty, hempty'⟩ := h.empty _ (h.logged logger hlogger)
    exact ⟨_, FileTree.entryAt?_eq_file.1 hempty, FileTree.entryAt?_eq_file.1 hempty'⟩
  outline := rfl
  outline' := rfl
  alike _ hpath := hpath

variable (hconfigs : files.DifferInConfigs files')

include hconfigs

theorem agreeBut : session.files.AgreeBut (files.Differs files') session'.files :=
  hconfigs.agreeBut.changed h.left h.right fun position hposition => by
    rw [(h.empty position hposition).1, (h.empty position hposition).2]

/-- A path that leads to the same in both trees leads to nothing in which they differ, also after
the log has been opened. -/
theorem avoids (hpath : files.SameAt files' path) :
    session.files.Avoids (files.Differs files') path ∧
      session'.files.Avoids (files.Differs files') path := by
  constructor
  · intro position hfinds hdiffers
    have hcreated : ¬ created position := fun hcreated => h.same position hcreated hdiffers
    exact hdiffers (hpath.entry_eq hconfigs.agreeBut ((h.left.finds_iff hcreated).1 hfinds))
  · intro position hfinds hdiffers
    have hcreated : ¬ created position := fun hcreated => h.same position hcreated hdiffers
    exact hdiffers (hpath.symm.entry_eq hconfigs.agreeBut.symm
      ((h.right.finds_iff hcreated).1 hfinds)).symm

theorem sameAt (hpath : files.SameAt files' path) : session.files.SameAt session'.files path :=
  (h.agreeBut hconfigs).sameAt (h.avoids hconfigs hpath).1 (h.avoids hconfigs hpath).2

theorem alike (hpath : files.SameAt files' path) (hdenotes : session.files.denotes path = true) :
    session.files.Alike session'.files path := by
  obtain ⟨position, node, hlocate⟩ := FileTree.denotes_iff.1 hdenotes
  exact (h.agreeBut hconfigs).alike_of_avoids (h.avoids hconfigs hpath).1 hlocate

omit hconfigs in
theorem symm : OpenedAlike files' files created session' session where
  log := h.log.symm
  now := h.now.symm
  logged logger hlogger := h.logged logger (h.log ▸ hlogger)
  left := h.right
  right := h.left
  same position hcreated hdiffers := h.same position hcreated (Ne.symm hdiffers)
  empty position hcreated := (h.empty position hcreated).symm
  wellFormed := h.wellFormed'
  wellFormed' := h.wellFormed

omit hconfigs in
/-- What was found before is found after the log has been opened. -/
theorem denotes_of_denotes (hdenotes : files.denotes path = true) :
    session.files.denotes path = true := by
  obtain ⟨position, node, hlocate⟩ := FileTree.denotes_iff.1 hdenotes
  refine h.left.denotes hlocate fun hget => ?_
  by_cases hcreated : created position
  · rw [FileTree.entryAt?_eq_file.1 (h.empty position hcreated).1]
    rfl
  · rw [h.left.isSome_get? hcreated, hget]
    rfl

/-- What is found after the log has been opened was found before, or it is the log and found in the
other tree as well. -/
theorem denotes_or_denotes (hdenotes : session.files.denotes path = true) :
    files.denotes path = true ∨ session'.files.denotes path = true := by
  obtain ⟨position, node, hlocate⟩ := FileTree.denotes_iff.1 hdenotes
  by_cases hcreated : created position
  · refine .inr ((h.agreeBut hconfigs).denotes hlocate fun hget => ?_)
    rw [(h.agreeBut hconfigs).isSome_get? (h.same position hcreated), hget]
    rfl
  · refine .inl (h.left.symm.denotes hlocate fun hget => ?_)
    rw [← h.left.isSome_get? hcreated, hget]
    rfl

/-- If the nearest configuration file was the same in both trees then it is so after the log has
been opened, even if the log is now the nearest one. -/
theorem findConfig?_eq {start : Path}
    (hfound : findConfig? files' start = findConfig? files start) :
    findConfig? session'.files start = findConfig? session.files start :=
  find?_eq_of_imp hfound (fun _ => h.denotes_of_denotes) (fun _ => h.symm.denotes_of_denotes)
    (fun _ => h.denotes_or_denotes hconfigs) (fun _ => h.symm.denotes_or_denotes hconfigs.symm)

theorem alike_findConfig? {start : Path}
    (hsame : ∀ path, findConfig? files start = some path → files.SameAt files' path)
    (hpath : findConfig? session.files start = some path) :
    session.files.Alike session'.files path := by
  have hdenotes : session.files.denotes path = true := List.find?_some hpath
  obtain ⟨position, node, hlocate⟩ := FileTree.denotes_iff.1 hdenotes
  refine (h.agreeBut hconfigs).alike hlocate fun hget hdiffers => ?_
  have hcreated : ¬ created position := fun hcreated => h.same position hcreated hdiffers
  have hbefore : files.denotes path = true := by
    refine h.left.symm.denotes hlocate fun hget => ?_
    rw [← h.left.isSome_get? hcreated, hget]
    rfl
  -- nothing nearer was there before, so this was the nearest configuration file
  have hnearest : findConfig? files start = some path := by
    rw [findConfig?, List.find?_eq_some_iff_append] at hpath ⊢
    obtain ⟨-, nearer, further, hcandidates, hnone⟩ := hpath
    refine ⟨hbefore, nearer, further, hcandidates, fun other hother => ?_⟩
    have hnot := hnone other hother
    simp only [Bool.not_eq_true'] at hnot ⊢
    exact Bool.eq_false_iff.2 fun hthere => by simp [h.denotes_of_denotes hthere] at hnot
  exact (h.avoids hconfigs (hsame path hnearest)).1 position ⟨node, hlocate, hget⟩ hdiffers

end OpenedAlike

/-! ### What configuration files have no influence on -/

theorem SameSource.readsSame {created : List String → Prop} {session session' : Session}
    (h : SameSource options files files') (hconfigs : files.DifferInConfigs files')
    (hopened : OpenedAlike files files' created session session') :
    ReadsSame options session.files session'.files := by
  cases h with
  | ignored hignored => exact .ignored hignored
  | @given path hpath hsame =>
    cases hdenotes : session.files.denotes path with
    | true => exact .given hpath (hopened.alike hconfigs hsame hdenotes)
    | false =>
      have hdenotes' := (hopened.sameAt hconfigs hsame).denotes
      exact .missing hpath hdenotes (hdenotes'.trans hdenotes)
  | nearest hpath hfound hsame =>
    have hstart : files'.workingPath = files.workingPath := by
      rw [FileTree.workingPath, FileTree.workingPath, hconfigs.workingDirectory]
    have hlater : session.files.workingPath = files.workingPath := by
      rw [FileTree.workingPath, FileTree.workingPath, hopened.left.workingDirectory]
    rw [hstart] at hfound
    refine .nearest hpath (hopened.agreeBut hconfigs).currentDirectory ?_ fun path hpath => ?_
    · rw [hlater]
      exact hopened.findConfig?_eq hconfigs hfound
    · rw [hlater] at hpath
      exact hopened.alike_findConfig? hconfigs hsame hpath

/-- After the log has been opened in two trees that differ in configuration files alone, a run
gives the same in both. -/
theorem OpenedAlike.respects_afterLog {created : List String → Prop} {session session' : Session}
    (hopened : OpenedAlike files files' created session session')
    (hconfigs : files.DifferInConfigs files') (hsource : SameSource options files files')
    (hpaths : ∀ path ∈ options.paths, files.SameAt files' path) :
    RespectsSessions (Session.Parallel session session') (afterLog options) := by
  have hagree := hopened.agreeBut hconfigs
  have hspecial (position : List String) (hdiffers : files.Differs files' position) :
      position.getLast? = some configFileName := (hconfigs.configs position hdiffers).1
  refine CommandLine.respects_afterLog ?_ ?_ (hsource.readsSame hconfigs hopened)
  · exact fun config => collectUnits_agree hagree hspecial config hopened.wellFormed
      hopened.wellFormed' fun path hpath => hopened.sameAt hconfigs (hpaths path hpath)
  · exact fun config units hunits unit hunit => alike_of_mem_collectUnits hagree hspecial
      hopened.wellFormed (fun path hpath => (hopened.avoids hconfigs (hpaths path hpath)).1)
      hunits hunit

/-- What a run leaves behind depends on its result and on what it has told. -/
theorem runToEnd_eq {session session' : Session}
    (h : ((run options).run ⟨session', []⟩).1 = ((run options).run ⟨session, []⟩).1)
    (htold : ((run options).run ⟨session', []⟩).2.told = ((run options).run ⟨session, []⟩).2.told) :
    (runToEnd options session').1 = (runToEnd options session).1 := by
  rw [runToEnd, runToEnd]
  generalize (run options).run ⟨session, []⟩ = ended at h htold ⊢
  generalize (run options).run ⟨session', []⟩ = ended' at h htold ⊢
  obtain ⟨result, progress⟩ := ended
  obtain ⟨result', progress'⟩ := ended'
  obtain rfl : result' = result := h
  replace htold : progress'.told = progress.told := htold
  cases result' with
  | ok reported => simp only [htold]
  | error failure => simp only [htold]

/-- **Only the configuration file of a run has an influence on it.**  In two trees that differ in
nothing but configuration files, the program leaves the same exit code, standard output and error
output behind, if the configuration file of the run is the same in both trees or passed over, no
given path leads to one in which they differ, and the path of the log does not lead to or through
one. -/
theorem execute_differInConfigs (arguments : List String) (files files' : FileTree)
    (now : Timestamp) (hconfigs : files.DifferInConfigs files') (hfiles : files.WellFormed)
    (hfiles' : files'.WellFormed)
    (h : ∀ options, Options.ofArguments arguments = .ok options →
      SameSource options files files' ∧ (∀ path ∈ options.paths, files.SameAt files' path) ∧
        ∀ path, options.debugLog = some path → files.SameThrough files' path) :
    (execute arguments { files := files', now }).1 = (execute arguments { files, now }).1 := by
  rw [execute, execute]
  cases hoptions : Options.ofArguments arguments with
  | error halt => cases halt <;> rfl
  | ok options =>
    obtain ⟨hsource, hpaths, hlog⟩ := h options hoptions
    obtain ⟨hnotices, created, hopened⟩ :=
      exists_openedAlike hconfigs hfiles hfiles' hlog
    obtain ⟨hresult, htold, -⟩ := hopened.respects_afterLog hconfigs hsource hpaths
      ⟨opened options { files, now }, logNotices options { files, now }⟩
      ⟨opened options { files := files', now }, logNotices options { files := files', now }⟩
      ⟨hnotices, hopened.parallel⟩
    refine runToEnd_eq ?_ ?_
    · rw [run_opened, run_opened]
      exact hresult
    · rw [run_opened, run_opened]
      exact htold

/-- A tree with one more configuration file, in its root. -/
theorem differInConfigs_root {entries : List (String × Node)} (content : ByteArray)
    (workingDirectory : List String) (hnone : entries.lookup configFileName = none) :
    FileTree.DifferInConfigs ⟨.directory entries, workingDirectory⟩
      ⟨.directory ((configFileName, .file content) :: entries), workingDirectory⟩ where
  workingDirectory := rfl
  configs position hdiffers := by
    rw [FileTree.Differs, FileTree.entryAt?, FileTree.entryAt?] at hdiffers
    cases position with
    | nil => exact absurd rfl hdiffers
    | cons name rest =>
      rw [Node.get?_cons, Node.get?_cons, Node.entries, Node.entries, List.lookup_cons] at hdiffers
      by_cases hname : name = configFileName
      · subst hname
        cases rest with
        | nil =>
          refine ⟨rfl, ?_, ?_⟩
          · simp [FileTree.entryAt?, Node.get?_cons, Node.entries, hnone]
          · simp [FileTree.entryAt?, Node.get?_cons, Node.get?_nil, Node.entries, Node.content?]
        | cons next rest =>
          rw [hnone, beq_self_eq_true] at hdiffers
          exact absurd rfl hdiffers
      · rw [beq_eq_false_iff_ne.2 hname] at hdiffers
        exact absurd rfl hdiffers

theorem wellFormed_root {entries : List (String × Node)} (content : ByteArray)
    (workingDirectory : List String) (hnone : entries.lookup configFileName = none)
    (h : FileTree.WellFormed ⟨.directory entries, workingDirectory⟩) : FileTree.WellFormed
      ⟨.directory ((configFileName, .file content) :: entries), workingDirectory⟩ := by
  obtain ⟨hnames, hdistinct⟩ := h [] entries (Node.get?_nil _)
  refine Node.wellFormed_directory (List.forall_mem_cons.2
    ⟨⟨fileName_configFileName, Node.wellFormed_file content⟩, fun entry hentry =>
      ⟨hnames entry hentry, Node.WellFormed.of_mem h hentry⟩⟩) (List.nodup_cons.2 ⟨?_, hdistinct⟩)
  intro hmem
  obtain ⟨entry, hentry, hname⟩ := List.mem_map.1 hmem
  have hne := List.lookup_eq_none_iff.1 hnone entry hentry
  simp [hname] at hne

/-- A working directory with a configuration file. -/
def nearConfig : FileTree :=
  ⟨.directory [("w", .directory [(configFileName, .file ByteArray.empty)])], ["w"]⟩

/-- The same with another configuration file further up. -/
def farConfig : FileTree where
  root := .directory [(configFileName, .file "[".toUTF8),
    ("w", .directory [(configFileName, .file ByteArray.empty)])]
  workingDirectory := ["w"]

theorem wellFormed_nearConfig : nearConfig.WellFormed := by
  have hw : FileName "w" := by decide
  have hinner : (Node.directory [(configFileName, .file ByteArray.empty)]).WellFormed :=
    Node.wellFormed_directory (by simpa using ⟨fileName_configFileName, Node.wellFormed_file _⟩)
      (by simp)
  exact Node.wellFormed_directory (by simpa using ⟨hw, hinner⟩) (by simp)

/-- A run with a log in both trees: the nearest configuration file is the same. -/
theorem execute_differInConfigs_farConfig :
    nearConfig.DifferInConfigs farConfig ∧ nearConfig.Differs farConfig [configFileName] ∧
      findConfig? nearConfig nearConfig.workingPath = some ⟨"/w/.noret.toml"⟩ ∧
      (execute ["--debug-log", "log", "."] { files := farConfig, now := ⟨0⟩ }).1 =
        (execute ["--debug-log", "log", "."] { files := nearConfig, now := ⟨0⟩ }).1 := by
  have hconfigs : nearConfig.DifferInConfigs farConfig := differInConfigs_root _ _ rfl
  have hnear : findConfig? nearConfig nearConfig.workingPath = some ⟨"/w/.noret.toml"⟩ := by
    decide +kernel
  have hfar : findConfig? farConfig farConfig.workingPath = some ⟨"/w/.noret.toml"⟩ := by
    decide +kernel
  have hnone : nearConfig.entryAt? [configFileName] = none := rfl
  refine ⟨hconfigs, by rw [FileTree.Differs, hnone]; exact Option.some_ne_none _, hnear, ?_⟩
  refine execute_differInConfigs ["--debug-log", "log", "."] nearConfig farConfig ⟨0⟩ hconfigs
    wellFormed_nearConfig (wellFormed_root _ _ rfl wellFormed_nearConfig) fun options hoptions => ?_
  obtain rfl : options = { debugLog := some ⟨"log"⟩, paths := [⟨"."⟩] } := by
    cases hoptions
    rfl
  refine ⟨.nearest rfl (hfar.trans hnear.symm) ?_, ?_, ?_⟩
  · intro path hpath
    rw [hnear] at hpath
    cases hpath
    rfl
  · intro path hpath
    rw [List.mem_singleton.1 hpath]
    rfl
  · rintro _ ⟨⟩ front hfront
    have hpieces : Path.pieces (⟨"log"⟩ : Path).text.toList = [['l', 'o', 'g']] := rfl
    rw [hpieces] at hfront
    rcases List.prefix_cons_iff.1 hfront with rfl | ⟨rest, rfl, hrest⟩
    · rfl
    · rw [List.prefix_nil.1 hrest]
      rfl

/-- A log whose path leads through a configuration file: why it cannot be opened depends on whether
the file is there, and a warning tells so. -/
theorem execute_throughConfig :
    let arguments := ["--no-config", "--debug-log", ".noret.toml/x", "u.json"]
    let options : Options :=
      { noConfig := true, debugLog := some ⟨".noret.toml/x"⟩, paths := [⟨"u.json"⟩] }
    let files : FileTree := ⟨.directory [], []⟩
    let files' : FileTree := ⟨.directory [(configFileName, .file ByteArray.empty)], []⟩
    Options.ofArguments arguments = .ok options ∧ files.DifferInConfigs files' ∧
      files.WellFormed ∧ files'.WellFormed ∧ SameSource options files files' ∧
      (∀ path ∈ options.paths, files.SameAt files' path) ∧
      (∀ path, options.debugLog = some path → files.SameAt files' path) ∧
      (execute arguments { files, now := ⟨0⟩ }).1.errors =
        "Warning: Failed to initialize debug log: No such file or directory (os error 2)\n" ++
          "Error: Path does not exist: u.json\n" ∧
      (execute arguments { files := files', now := ⟨0⟩ }).1.errors =
        "Warning: Failed to initialize debug log: Not a directory (os error 20)\n" ++
          "Error: Path does not exist: u.json\n" ∧
      (execute arguments { files := files', now := ⟨0⟩ }).1 ≠
        (execute arguments { files, now := ⟨0⟩ }).1 := by
  intro arguments options files files'
  have hfiles : files.WellFormed := Node.wellFormed_directory (by simp) (by simp)
  have herrors : (execute arguments { files, now := ⟨0⟩ }).1.errors =
      "Warning: Failed to initialize debug log: No such file or directory (os error 2)\n" ++
        "Error: Path does not exist: u.json\n" := rfl
  have herrors' : (execute arguments { files := files', now := ⟨0⟩ }).1.errors =
      "Warning: Failed to initialize debug log: Not a directory (os error 20)\n" ++
        "Error: Path does not exist: u.json\n" := rfl
  refine ⟨rfl, differInConfigs_root _ _ rfl, hfiles, wellFormed_root _ _ rfl hfiles, .ignored rfl,
    ?_, ?_, herrors, herrors', fun heq => ?_⟩
  · intro path hpath
    rw [List.mem_singleton.1 hpath]
    rfl
  · rintro _ ⟨⟩
    rfl
  · have hsame := congrArg Outcome.errors heq
    rw [herrors, herrors'] at hsame
    exact absurd hsame (by decide)

end CommandLine

end ReturnPaths
