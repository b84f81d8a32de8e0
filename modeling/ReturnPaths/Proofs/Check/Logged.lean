import ReturnPaths.Proofs.Analysis.Running
import ReturnPaths.Proofs.Check.Nesting

/-!
# What the log tells about a unit

The check for missing returns logs a verdict on every subject it looks at, and after it that a
diagnostic was dropped, if it was.  So the log accounts for all subjects but abstract methods, and
for every issue: each verdict that a return is missing belongs to an issue or to a dropped one.

* `MissingReturn.Accounts` : what is logged of one subject.
* `MissingReturn.AccountsAll` : what is logged of subjects and the closures below them.
* `Session.Gains` : the log of a session grows by some messages.
* `MissingReturn.run_accounted` : what is logged of a unit, how often, and that nothing else comes
  of it.
-/

namespace ReturnPaths

/-- The subject is a method without a body. -/
def Subject.isAbstract (subject : Subject) : Bool :=
  decide (subject.kind = .method) && subject.body.isNone

namespace Event

/-- The event is a verdict on a subject. -/
def isVerdict : Event → Bool
  | verdict .. => true
  | _ => false

/-- The event is the verdict that a return is missing. -/
def isMissing : Event → Bool
  | verdict _ _ _ missing => missing
  | _ => false

/-- The event tells that a diagnostic was dropped. -/
def isNoAnchor : Event → Bool
  | noAnchor _ => true
  | _ => false

end Event

namespace MissingReturn

/-! ### What is logged -/

/-- What is logged of a subject; a body that is missing counts as an empty one. -/
inductive Accounts (subject : Subject) : List Event → Prop where
  /-- Nothing is logged of a method without a body. -/
  | abstract (hkind : subject.kind = .method) (hbody : subject.body = none) : Accounts subject []
  /-- The verdict stands alone if no return is missing or if the issue has an anchor. -/
  | verdict {body : Body} {missing : Bool}
      (hlooked : subject.kind = .method → subject.body ≠ none)
      (hbody : body = subject.body.getD {}) (hmissing : missing = body.misses subject.obligation)
      (hanchor : missing = true → body.anchor? ≠ none) :
      Accounts subject [.verdict subject.name subject.obligation body.exits.length missing]
  /-- A return is missing, and there is no anchor for the issue. -/
  | dropped {body : Body} (hlooked : subject.kind = .method → subject.body ≠ none)
      (hbody : body = subject.body.getD {}) (hmissing : body.misses subject.obligation = true)
      (hanchor : body.anchor? = none) :
      Accounts subject [.verdict subject.name subject.obligation body.exits.length true,
        .noAnchor subject.name]

/-- What is logged of a list of subjects and the closures below them, in post-order. -/
inductive AccountsAll : List Subject → List Event → Prop where
  /-- No subject, no event. -/
  | nil : AccountsAll [] []
  /-- A subject, after the closures below it and before the other subjects. -/
  | cons {subject : Subject} {rest : List Subject} {inner own outer : List Event}
      (hinner : AccountsAll subject.closures inner) (hown : Accounts subject own)
      (houter : AccountsAll rest outer) : AccountsAll (subject :: rest) (inner ++ own ++ outer)

variable {file : Path} {enclosing : Option String} {subject : Subject}

/-! ### One subject -/

theorem bodyOf_eq_none : bodyOf subject = none ↔ subject.isAbstract = true := by
  rw [bodyOf, Subject.isAbstract]
  cases subject.body <;> cases subject.kind <;> simp

theorem bodyOf_eq_some {body : Body} : bodyOf subject = some body ↔
    (subject.kind = .method → subject.body ≠ none) ∧ body = subject.body.getD {} := by
  rw [bodyOf]
  cases subject.body <;> cases subject.kind <;> simp [eq_comm]

theorem accounts_iff {events : List Event} :
    Accounts subject events ↔ (examine file enclosing subject).events = events := by
  constructor
  · rintro (⟨hkind, hbody⟩ | ⟨hlooked, hbody, hmissing, hanchor⟩ |
      ⟨hlooked, hbody, hmissing, hanchor⟩)
    · simp [examine, bodyOf, hkind, hbody]
    · rw [examine, bodyOf_eq_some.2 ⟨hlooked, hbody⟩]
      subst hmissing
      simp only [examineBody]
      split
      · rename_i hmiss
        obtain ⟨anchor, hsome⟩ := Option.ne_none_iff_exists'.1 (hanchor hmiss)
        simp [hsome, hmiss]
      · rfl
    · rw [examine, bodyOf_eq_some.2 ⟨hlooked, hbody⟩]
      simp [examineBody, hmissing, hanchor]
  · rintro rfl
    rw [examine]
    cases hbody : bodyOf subject with
    | none =>
      obtain ⟨hkind, hnone⟩ : subject.kind = .method ∧ subject.body = none := by
        simpa [Subject.isAbstract] using bodyOf_eq_none.1 hbody
      exact .abstract hkind hnone
    | some body =>
      obtain ⟨hlooked, hbody⟩ := bodyOf_eq_some.1 hbody
      simp only [examineBody]
      split
      · rename_i hmiss
        cases hanchor : body.anchor? with
        | some anchor => exact .verdict hlooked hbody rfl (by simp [hanchor])
        | none =>
          rw [hmiss]
          exact .dropped hlooked hbody hmiss hanchor
      · rename_i hmiss
        exact .verdict hlooked hbody rfl fun h => absurd h hmiss

/-- A subject has one verdict, unless it is an abstract method. -/
theorem countP_isVerdict_examine :
    (examine file enclosing subject).events.countP Event.isVerdict =
      if subject.isAbstract then 0 else 1 := by
  rw [examine]
  cases hbody : bodyOf subject with
  | none => simp [bodyOf_eq_none.1 hbody]
  | some body =>
    have hlooked : subject.isAbstract = false := by
      rw [← Bool.not_eq_true, ← bodyOf_eq_none, hbody]
      exact Option.some_ne_none body
    rw [hlooked]
    simp only [examineBody]
    split
    · cases body.anchor? <;> rfl
    · rfl

/-- A return that is missing makes an issue or a dropped one. -/
theorem countP_isMissing_examine :
    (examine file enclosing subject).events.countP Event.isMissing =
      (examine file enclosing subject).issues.length +
        (examine file enclosing subject).events.countP Event.isNoAnchor := by
  rw [examine]
  cases bodyOf subject with
  | none => rfl
  | some body =>
    simp only [examineBody]
    split
    · rename_i hmiss
      cases body.anchor? <;> simp [List.countP_cons, Event.isMissing, Event.isNoAnchor, hmiss]
    · rename_i hmiss
      simp [Event.isMissing, Event.isNoAnchor, hmiss]

theorem Accounts.exists_message {events : List Event} (h : Accounts subject events) :
    ∀ event ∈ events, ∃ message, event.messages = [message] := by
  cases h with
  | abstract hkind hbody => simp
  | verdict => exact List.forall_mem_cons.2 ⟨⟨_, rfl⟩, by simp⟩
  | dropped => exact List.forall_mem_cons.2 ⟨⟨_, rfl⟩, List.forall_mem_cons.2 ⟨⟨_, rfl⟩, by simp⟩⟩

/-! ### All subjects -/

/-- The events logged on a walk. -/
def logged (file : Path) (walk : List (Option String × Subject)) : List Event :=
  walk.flatMap fun (enclosing, subject) => (examine file enclosing subject).events

theorem logged_cons (entry : Option String × Subject) (walk : List (Option String × Subject)) :
    logged file (entry :: walk) = (examine file entry.1 entry.2).events ++ logged file walk := rfl

theorem logged_walkAll_cons (rest : List Subject) :
    logged file (Subject.walkAll enclosing (subject :: rest)) =
      logged file (Subject.walkAll (some subject.name) subject.closures) ++
        (examine file enclosing subject).events ++
          logged file (Subject.walkAll enclosing rest) := by
  rw [Subject.walkAll_cons, logged, List.flatMap_append, ← logged, ← logged, logged_cons,
    List.append_assoc]

theorem accountsAll_walkAll (file : Path) (enclosing : Option String) (subjects : List Subject) :
    AccountsAll subjects (logged file (Subject.walkAll enclosing subjects)) := by
  induction subjects using Subject.forest_induction generalizing enclosing with
  | nil => exact .nil
  | cons subject rest ihclosures ihrest =>
    rw [logged_walkAll_cons]
    exact .cons (ihclosures _) (accounts_iff.2 rfl) (ihrest enclosing)

theorem AccountsAll.eq_logged {subjects : List Subject} {events : List Event}
    (h : AccountsAll subjects events) (file : Path) (enclosing : Option String) :
    logged file (Subject.walkAll enclosing subjects) = events := by
  induction h generalizing enclosing with
  | nil => rfl
  | cons _ hown _ ihinner ihouter =>
    rw [logged_walkAll_cons, ihinner, ihouter, accounts_iff.1 hown]

theorem AccountsAll.exists_message {subjects : List Subject} {events : List Event}
    (h : AccountsAll subjects events) :
    ∀ event ∈ events, ∃ message, event.messages = [message] := by
  induction h with
  | nil => simp
  | cons _ hown _ ihinner ihouter =>
    simp only [List.forall_mem_append]
    exact ⟨⟨ihinner, hown.exists_message⟩, ihouter⟩

theorem countP_isVerdict_logged (walk : List (Option String × Subject)) :
    (logged file walk).countP Event.isVerdict + walk.countP (fun entry => entry.2.isAbstract) =
      walk.length := by
  induction walk with
  | nil => rfl
  | cons entry walk ih =>
    rw [logged_cons, List.countP_append, List.countP_cons, List.length_cons, ← ih,
      countP_isVerdict_examine]
    split_ifs <;> omega

theorem countP_isMissing_logged (walk : List (Option String × Subject)) :
    (logged file walk).countP Event.isMissing =
      (found file walk).length + (logged file walk).countP Event.isNoAnchor := by
  induction walk with
  | nil => rfl
  | cons entry walk ih =>
    rw [logged_cons, found_cons, List.countP_append, List.countP_append, List.length_append, ih,
      countP_isMissing_examine]
    omega

end MissingReturn

/-- A walk passes each subject once. -/
theorem Subject.length_walkAll (enclosing : Option String) (subjects : List Subject) :
    (walkAll enclosing subjects).length = countAll subjects := by
  induction subjects using forest_induction generalizing enclosing with
  | nil => rfl
  | cons subject rest ihclosures ihrest =>
    have hcount : subject.count = countAll subject.closures + 1 := by
      obtain ⟨name, kind, declared, returnType, body, closures⟩ := subject
      rw [count]
    rw [walkAll_cons, List.length_append, List.length_cons, ihclosures, ihrest, countAll, hcount]
    omega

/-! ### The log of a session -/

namespace Session

/-- The log of a later session, if one is kept, has these messages after those it had before. -/
def Gains (session later : Session) (messages : List String) : Prop :=
  ∀ logger lines, session.log = some logger → logger.Holds session.files lines →
    ∃ logger', later.log = some logger' ∧ later.now = session.now ∧
      logger'.Holds later.files (lines ++ messages.map fun message => (session.now, message))

variable {session later latest : Session}

theorem gains_refl : session.Gains session [] := by
  intro logger lines hlog hlines
  exact ⟨logger, hlog, rfl, by simpa using hlines⟩

theorem Gains.trans {messages messages' : List String} (h : session.Gains later messages)
    (h' : later.Gains latest messages') : session.Gains latest (messages ++ messages') := by
  intro logger lines hlog hlines
  obtain ⟨logger', hlog', hnow', hlines'⟩ := h logger lines hlog hlines
  obtain ⟨logger'', hlog'', hnow'', hlines''⟩ := h' logger' _ hlog' hlines'
  refine ⟨logger'', hlog'', hnow''.trans hnow', ?_⟩
  rw [List.map_append, ← List.append_assoc, ← hnow']
  rw [hnow'] at hlines'' ⊢
  exact hlines''

theorem gains_recorded (session : Session) (event : Event) :
    session.Gains (session.recorded event) event.messages := by
  intro logger lines hlog hlines
  obtain ⟨offset, root, hrecord, hholds, -⟩ := Logger.record_spec hlines session.now event
  refine ⟨{ logger with offset }, ?_, ?_, ?_⟩ <;> simp only [recorded, hlog, hrecord]
  exact hholds

theorem gains_recordAll (session : Session) (events : List Event) :
    session.Gains (events.foldl recorded session) (events.flatMap Event.messages) := by
  induction events generalizing session with
  | nil => exact gains_refl
  | cons event events ih =>
    rw [List.foldl_cons, List.flatMap_cons]
    exact (gains_recorded session event).trans (ih _)

/-- Without a log nothing is recorded. -/
theorem foldl_recorded_of_no_log (h : session.log = none) (events : List Event) :
    events.foldl recorded session = session := by
  induction events with
  | nil => rfl
  | cons event events ih =>
    have hrecorded : session.recorded event = session := by rw [recorded, h]
    rw [List.foldl_cons, hrecorded, ih]

end Session

/-- What an analyzer finds if the check for missing returns is the one that runs. -/
theorem Analyzer.examine_missingReturn {analyzer : Analyzer}
    (h : analyzer.enabled = [missingReturn]) (unit : FlowUnit) :
    analyzer.examine unit = missingReturn.run unit unit.file := by
  have hexamine : analyzer.examine unit =
      Findings.collect (fun check => check.run unit unit.file) analyzer.enabled := rfl
  rw [hexamine, h]
  simp [Findings.collect]

namespace MissingReturn

/-- **The log accounts for every subject.**  The check logs of a unit exactly what there is to log
of its subjects, in post-order, one message for each event.  There are as many verdicts as subjects,
abstract methods apart, and as many issues as verdicts that a return is missing, dropped issues
apart.  If a log is kept then these messages are written to it, after those on the unit itself if it
comes from a file; the issues are the same with a log and without one. -/
theorem run_accounted (unit : FlowUnit) (file : Path) :
    (∀ events, (missingReturn.run unit file).events = events ↔ AccountsAll unit.subjects events) ∧
      (∀ event ∈ (missingReturn.run unit file).events, ∃ message, event.messages = [message]) ∧
      (missingReturn.run unit file).events.countP Event.isVerdict +
          unit.walk.countP (fun entry => entry.2.isAbstract) = unit.subjectCount ∧
      (missingReturn.run unit file).issues.length +
          (missingReturn.run unit file).events.countP Event.isNoAnchor =
        (missingReturn.run unit file).events.countP Event.isMissing ∧
      (∀ session : Session,
        session.Gains ((recordAll (missingReturn.run unit file).events).run session).2
          ((missingReturn.run unit file).events.flatMap Event.messages)) ∧
      ∀ (analyzer : Analyzer) (session : Session) (path : Path),
        analyzer.enabled = [missingReturn] → loadUnit session.files path = .ok unit →
          session.Gains ((analyzer.analyzeFile path).run session).2
            ((Event.unitLoaded path unit.file unit.subjectCount).messages ++
              (missingReturn.run unit unit.file).events.flatMap Event.messages) ∧
          ((analyzer.analyzeFile path).run session).1 =
            .ok ⟨(missingReturn.run unit unit.file).issues⟩ ∧
          (analyzer.analyzeFile path).run { session with log := none } =
            (.ok ⟨(missingReturn.run unit unit.file).issues⟩, { session with log := none }) := by
  have hwalk : unit.walk.length = unit.subjectCount := Subject.length_walkAll none unit.subjects
  have haccounts : AccountsAll unit.subjects (missingReturn.run unit file).events :=
    accountsAll_walkAll file none unit.subjects
  refine ⟨fun events => ⟨fun h => h ▸ haccounts, fun h => h.eq_logged file none⟩,
    haccounts.exists_message, hwalk ▸ countP_isVerdict_logged unit.walk,
    (countP_isMissing_logged unit.walk).symm, fun session => ?_, ?_⟩
  · rw [Session.run_recordAll]
    exact session.gains_recordAll _
  · intro analyzer session path henabled hload
    have hexamine := analyzer.examine_missingReturn henabled unit
    have hissues : analyzer.analyzeUnit unit = ⟨(missingReturn.run unit unit.file).issues⟩ := by
      rw [Analyzer.analyzeUnit, hexamine]
    rw [analyzer.run_analyzeFile, analyzer.run_analyzeFile]
    simp only [hload, hissues, Analyzer.analyzed, hexamine]
    refine ⟨?_, trivial, ?_⟩
    · exact (session.gains_recorded _).trans (Session.gains_recordAll _ _)
    · rw [← List.foldl_cons, Session.foldl_recorded_of_no_log rfl]

/-- A closure of a class type without a body, analyzed while a log is kept: its issue is dropped,
and the log tells so. -/
theorem run_accounted_dropped :
    let closure : Subject := { name := "c", kind := .closure, returnType := some ⟨"T", .concrete⟩ }
    let unit : FlowUnit := ⟨⟨"A"⟩, [closure]⟩
    let text := "[\"A\",[[\"c\",\"closure\",false,[\"T\",\"class\"]]]]"
    let files : FileTree :=
      ⟨.directory [("u.json", .file text.toUTF8), ("log", .file ByteArray.empty)], []⟩
    let session : Session := { files, log := some ⟨⟨"log"⟩, ["log"], 0⟩ }
    let verdict : Event := .verdict "c" .must 0 true
    Analyzer.enabled {} = [missingReturn] ∧ loadUnit files ⟨"u.json"⟩ = .ok unit ∧
      AccountsAll unit.subjects [verdict, .noAnchor "c"] ∧
      (missingReturn.run unit unit.file).issues.length + 1 = 1 ∧
      ∃ logger lines, ((Analyzer.analyzeFile {} ⟨"u.json"⟩).run session).2.log = some logger ∧
        logger.Holds ((Analyzer.analyzeFile {} ⟨"u.json"⟩).run session).2.files lines ∧
        lines.map Prod.snd = (Event.unitLoaded ⟨"u.json"⟩ ⟨"A"⟩ 1).messages ++
          ["c [must-return-value] exits=0 -> MISSING RETURN",
            "  No anchor for c, diagnostic dropped"] := by
  intro closure unit text files session verdict
  have henabled : Analyzer.enabled {} = [missingReturn] := rfl
  have hjson : FlowUnit.ofJson text = .ok unit := by
    dsimp only [text]
    rfl
  have hread : FlowUnit.ofBytes? text.toUTF8 = some unit := by
    rw [FlowUnit.ofBytes?, fromUTF8?_toUTF8, Option.bind_some, hjson]
    rfl
  have hload : loadUnit files ⟨"u.json"⟩ = .ok unit :=
    loadUnit_eq_ok.2 ⟨text.toUTF8, rfl, hread⟩
  obtain ⟨hevents, -, -, hissues, -, hlog⟩ := run_accounted unit unit.file
  obtain ⟨hgains, -, -⟩ := hlog {} session ⟨"u.json"⟩ henabled hload
  have hempty : Logger.Holds ⟨⟨"log"⟩, ["log"], 0⟩ files [] := ⟨rfl, rfl⟩
  obtain ⟨logger, hlogger, -, hholds⟩ := hgains _ [] rfl hempty
  exact ⟨henabled, hload, (hevents _).1 rfl, hissues, logger, _, hlogger, hholds, rfl⟩

end MissingReturn

end ReturnPaths
