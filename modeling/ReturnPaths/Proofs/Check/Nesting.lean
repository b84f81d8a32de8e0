import ReturnPaths.Proofs.Check.Reported
import Mathlib.Data.List.Forall2

/-!
# Nested closures

Each subject is reported for itself: what is found for it depends neither on the closures below it
nor, but for the wording of a message, on the subject it is written in.  So a unit has the same
issues as its subjects have when each of them stands alone, and a change of one subject is seen
nowhere else.

* `FlowUnit.flat` : the unit in which every subject stands alone.
* `MissingReturn.Counterparts` : an issue of a subject, and the issue it has when it stands alone.
* `Subject.Place` : a place for a subject in a list of subjects, at any depth.
* `MissingReturn.run_flat` : the issues of a unit and of its flat unit, of subjects one after the
  other, and of subjects of which one is changed.
-/

namespace ReturnPaths

theorem forall₂_flatMap {α β γ : Type} {relation : β → γ → Prop} {list : List α}
    {f : α → List β} {g : α → List γ} (h : ∀ a ∈ list, List.Forall₂ relation (f a) (g a)) :
    List.Forall₂ relation (list.flatMap f) (list.flatMap g) := by
  refine List.rel_flatten ?_
  rw [List.forall₂_map_left_iff, List.forall₂_map_right_iff, List.forall₂_same]
  exact h

/-! ### Lists of subjects -/

namespace Subject

/-- The subject without the closures below it. -/
def alone (subject : Subject) : Subject := { subject with closures := [] }

mutual

theorem closures_induction {motive : List Subject → Prop} (nil : motive [])
    (cons : ∀ subject rest, motive subject.closures → motive rest → motive (subject :: rest)) :
    (subject : Subject) → motive subject.closures
  | { closures, .. } => forest_induction nil cons closures

/-- Induction on subjects and the closures below them. -/
@[elab_as_elim]
theorem forest_induction {motive : List Subject → Prop} (nil : motive [])
    (cons : ∀ subject rest, motive subject.closures → motive rest → motive (subject :: rest)) :
    (subjects : List Subject) → motive subjects
  | [] => nil
  | subject :: rest =>
    cons subject rest (closures_induction nil cons subject) (forest_induction nil cons rest)

end

variable {enclosing : Option String}

theorem walkAll_cons (subject : Subject) (rest : List Subject) :
    walkAll enclosing (subject :: rest) =
      walkAll (some subject.name) subject.closures ++
        (enclosing, subject) :: walkAll enclosing rest := by
  obtain ⟨name, kind, declared, returnType, body, closures⟩ := subject
  simp [walkAll, walk]

theorem walkAll_append (subjects subjects' : List Subject) :
    walkAll enclosing (subjects ++ subjects') =
      walkAll enclosing subjects ++ walkAll enclosing subjects' := by
  induction subjects with
  | nil => simp [walkAll]
  | cons subject rest ih => rw [List.cons_append, walkAll, walkAll, ih, List.append_assoc]

/-- Subjects that stand alone are walked in their sequence. -/
theorem walkAll_alone (subjects : List Subject) :
    walkAll enclosing (subjects.map alone) =
      subjects.map fun subject => (enclosing, subject.alone) := by
  induction subjects with
  | nil => rfl
  | cons subject rest ih =>
    have hnone : walkAll (some subject.alone.name) subject.alone.closures = [] := rfl
    rw [List.map_cons, walkAll_cons, hnone, ih, List.nil_append, List.map_cons]

/-! ### Places -/

/-- A place for a subject in a list of subjects, at any depth. -/
inductive Place where
  /-- Between some of the subjects. -/
  | here (before after : List Subject)
  /-- Among the closures of one of the subjects, of which only the other fields count. -/
  | inside (before : List Subject) (outer : Subject) (inner : Place) (after : List Subject)

namespace Place

/-- The subjects with a subject at the place. -/
def fill : Place → Subject → List Subject
  | here before after, subject => before ++ subject :: after
  | inside before outer inner after, subject =>
    before ++ { outer with closures := inner.fill subject } :: after

/-- The name of the subject around the place, if all subjects are written in `enclosing`. -/
def around (enclosing : Option String) : Place → Option String
  | here _ _ => enclosing
  | inside _ outer inner _ => inner.around (some outer.name)

/-- The place behind one more subject. -/
def behind (first : Subject) : Place → Place
  | here before after => here (first :: before) after
  | inside before outer inner after => inside (first :: before) outer inner after

theorem fill_behind (first : Subject) (place : Place) (subject : Subject) :
    (place.behind first).fill subject = first :: place.fill subject := by
  cases place <;> rfl

theorem around_behind (first : Subject) (place : Place) :
    (place.behind first).around enclosing = place.around enclosing := by
  cases place <;> rfl

/-- Every subject of a walk stands at some place. -/
theorem exists_fill {subjects : List Subject} {entry : Option String × Subject}
    (h : entry ∈ walkAll enclosing subjects) :
    ∃ place : Place, place.fill entry.2 = subjects ∧ place.around enclosing = entry.1 := by
  induction subjects using forest_induction generalizing enclosing with
  | nil => simp [walkAll] at h
  | cons subject rest ihclosures ihrest =>
    rw [walkAll_cons, List.mem_append, List.mem_cons] at h
    rcases h with h | rfl | h
    · obtain ⟨inner, hfill, haround⟩ := ihclosures h
      refine ⟨inside [] subject inner rest, ?_, haround⟩
      rw [fill, hfill, List.nil_append]
      cases subject
      rfl
    · exact ⟨here [] rest, rfl, rfl⟩
    · obtain ⟨place, hfill, haround⟩ := ihrest h
      exact ⟨place.behind subject, by rw [fill_behind, hfill], by rw [around_behind, haround]⟩

end Place

end Subject

/-- The unit in which each subject of a unit stands alone, in the order of the walk. -/
def FlowUnit.flat (unit : FlowUnit) : FlowUnit :=
  ⟨unit.file, (unit.walk.map Prod.snd).map Subject.alone⟩

theorem FlowUnit.walk_flat (unit : FlowUnit) :
    unit.flat.walk = unit.walk.map fun entry => (none, entry.2.alone) := by
  rw [walk, flat, Subject.walkAll_alone, List.map_map]
  rfl

/-- Two issues have all but the message in common. -/
structure Issue.SameButMessage (issue issue' : Issue) : Prop where
  /-- The check is the same. -/
  check : issue.check = issue'.check
  /-- The severity is the same. -/
  severity : issue.severity = issue'.severity
  /-- The file is the same. -/
  file : issue.file = issue'.file
  /-- The line is the same. -/
  line : issue.line = issue'.line
  /-- The column is the same. -/
  column : issue.column = issue'.column
  /-- The subject is the same. -/
  subject : issue.subject = issue'.subject
  /-- The tip is the same. -/
  tip : issue.tip = issue'.tip

namespace MissingReturn

open Subject (Place walkAll)

variable {file : Path} {enclosing : Option String} {subject : Subject}

/-! ### One subject -/

/-- The issue of a subject, written in `enclosing`, and the issue it has when it stands alone.  Only
a closure is named differently. -/
structure Counterparts (file : Path) (enclosing : Option String) (subject : Subject)
    (issue issue' : Issue) : Prop where
  /-- The first issue is that of the subject where it stands. -/
  reported : Reports file enclosing subject issue
  /-- The second issue is that of the subject alone. -/
  reported_alone : Reports file none subject.alone issue'
  /-- They have all but the message in common. -/
  same : issue.SameButMessage issue'
  /-- A closure is named after the subject around it, and alone it has its own name. -/
  nested : subject.kind = .closure → ∀ outer, enclosing = some outer →
    issue.message = "Closure in " ++ outer ++ "(): Not all execution paths return a value" ∧
      issue'.message = "Closure " ++ subject.name ++ ": Not all execution paths return a value"
  /-- Any other subject has the same message. -/
  other : ¬ (subject.kind = .closure ∧ enclosing.isSome = true) → issue.message = issue'.message

theorem exists_reports (file : Path) (enclosing : Option String) (subject : Subject) :
    (∃ issue, Reports file enclosing subject issue) ↔
      ∃ body anchor, subject.body = some body ∧ body.anchor? = some anchor ∧
        body.misses subject.obligation = true := by
  constructor
  · rintro ⟨issue, hissue⟩
    obtain ⟨body, anchor, hbody, hanchor, hmisses, -⟩ := hissue.exists_anchor
    exact ⟨body, anchor, hbody, hanchor, hmisses⟩
  · rintro ⟨body, anchor, hbody, hanchor, hmisses⟩
    exact ⟨_, reports_issueAt hbody hanchor hmisses⟩

theorem message_nested {outer : String} (hkind : subject.kind = .closure) :
    message (some outer) subject =
      "Closure in " ++ outer ++ "(): Not all execution paths return a value" := by
  simp [message, label, hkind, toString, String.append_assoc]

theorem message_alone (hkind : subject.kind = .closure) :
    message none subject.alone =
      "Closure " ++ subject.name ++ ": Not all execution paths return a value" := by
  simp [message, label, Subject.alone, hkind, toString]

theorem message_eq_alone (h : ¬ (subject.kind = .closure ∧ enclosing.isSome = true)) :
    message enclosing subject = message none subject.alone := by
  cases hkind : subject.kind with
  | method => simp [message, label, Subject.alone, hkind]
  | closure =>
    cases enclosing with
    | none => simp [message, label, Subject.alone, hkind]
    | some outer => exact absurd ⟨hkind, rfl⟩ h
  | other => simp [message, label, Subject.alone, hkind]

/-- Where a subject stands makes no difference to whether it is reported. -/
theorem counterparts_examine (file : Path) (enclosing : Option String) (subject : Subject) :
    List.Forall₂ (Counterparts file enclosing subject) (examine file enclosing subject).issues
      (examine file none subject.alone).issues := by
  by_cases h : ∃ issue, Reports file enclosing subject issue
  · obtain ⟨body, anchor, hbody, hanchor, hmisses⟩ := (exists_reports _ _ _).1 h
    have hissue : Reports file enclosing subject (issueAt file enclosing subject anchor) :=
      reports_issueAt hbody hanchor hmisses
    have halone : Reports file none subject.alone (issueAt file none subject.alone anchor) :=
      reports_issueAt hbody hanchor hmisses
    rw [examine_of_reports hissue, examine_of_reports halone]
    refine .cons ⟨hissue, halone, ⟨rfl, rfl, rfl, rfl, rfl, rfl, rfl⟩, ?_, message_eq_alone⟩ .nil
    rintro hkind outer rfl
    exact ⟨message_nested hkind, message_alone hkind⟩
  · -- the conditions for an issue do not mention where the subject stands
    have halone : ¬ ∃ issue, Reports file none subject.alone issue := by
      rw [exists_reports] at h ⊢
      exact h
    rw [examine_of_silent (not_exists.1 h), examine_of_silent (not_exists.1 halone)]
    exact .nil

/-! ### All subjects -/

theorem found_append (walk walk' : List (Option String × Subject)) :
    found file (walk ++ walk') = found file walk ++ found file walk' :=
  List.flatMap_append

theorem found_cons (entry : Option String × Subject) (walk : List (Option String × Subject)) :
    found file (entry :: walk) = (examine file entry.1 entry.2).issues ++ found file walk := rfl

/-- What is found around a place does not depend on the subject at this place, but for its name and
the closures below it. -/
theorem found_fill (file : Path) (place : Place) (subject : Subject) :
    ∀ enclosing, ∃ before after, ∀ changed : Subject,
      changed.name = subject.name → changed.closures = subject.closures →
        found file (walkAll enclosing (place.fill changed)) =
          before ++ (examine file (place.around enclosing) changed).issues ++ after := by
  induction place with
  | here before after =>
    intro enclosing
    refine ⟨found file (walkAll enclosing before) ++
      found file (walkAll (some subject.name) subject.closures),
      found file (walkAll enclosing after), ?_⟩
    intro changed hname hclosures
    rw [Place.fill, Subject.walkAll_append, Subject.walkAll_cons, hname, hclosures]
    simp only [found_append, found_cons, Place.around, List.append_assoc]
  | inside before outer inner after ih =>
    intro enclosing
    obtain ⟨before', after', hinner⟩ := ih (some outer.name)
    -- of the subject around the place, only the closures change, and these are not looked at
    refine ⟨found file (walkAll enclosing before) ++ before',
      after' ++ ((examine file enclosing outer).issues ++ found file (walkAll enclosing after)), ?_⟩
    intro changed hname hclosures
    have houter : examine file enclosing { outer with closures := inner.fill changed } =
        examine file enclosing outer := rfl
    rw [Place.fill, Subject.walkAll_append, Subject.walkAll_cons]
    simp only [found_append, found_cons, hinner changed hname hclosures, houter, Place.around,
      List.append_assoc]

/-- **Nested closures are checked on their own.**  The issues of a unit and of its flat unit are
counterparts, one by one: they agree in all but the names that nested closures have in messages.
Subjects that stand one after the other have their issues one after the other.  And wherever in a
unit a subject stands, whatever becomes of its body, its type and its flag, all issues but its own
stay the same. -/
theorem run_flat (unit : FlowUnit) (file : Path) :
    List.Forall₂
        (fun issue issue' => ∃ entry ∈ unit.walk, Counterparts file entry.1 entry.2 issue issue')
        (missingReturn.run unit file).issues (missingReturn.run unit.flat file).issues ∧
      (∀ subjects subjects' : List Subject,
        (missingReturn.run ⟨unit.file, subjects ++ subjects'⟩ file).issues =
          (missingReturn.run ⟨unit.file, subjects⟩ file).issues ++
            (missingReturn.run ⟨unit.file, subjects'⟩ file).issues) ∧
      (∀ entry ∈ unit.walk, ∃ place : Place,
        place.fill entry.2 = unit.subjects ∧ place.around none = entry.1) ∧
      ∀ (place : Place) (subject : Subject), ∃ before after, ∀ body returnType declared,
        (missingReturn.run
            ⟨unit.file, place.fill { subject with body, returnType, declared }⟩ file).issues =
          before ++
            (examine file (place.around none) { subject with body, returnType, declared }).issues ++
              after := by
  refine ⟨?_, ?_, ?_, ?_⟩
  · show List.Forall₂ _ (found file unit.walk) (found file unit.flat.walk)
    rw [unit.walk_flat, found, found, List.flatMap_map]
    refine forall₂_flatMap fun entry hentry => ?_
    exact (counterparts_examine file entry.1 entry.2).imp fun _ _ h => ⟨entry, hentry, h⟩
  · intro subjects subjects'
    show found file (walkAll none (subjects ++ subjects')) = _
    rw [Subject.walkAll_append, found_append]
    rfl
  · intro entry hentry
    exact Place.exists_fill hentry
  · intro place subject
    obtain ⟨before, after, hfill⟩ := found_fill file place subject none
    exact ⟨before, after, fun body returnType declared => hfill _ rfl rfl⟩

/-- A closure in a method, both of which fall off their ends.  Alone the closure has its own
name. -/
theorem run_flat_closure :
    let body : Body := ⟨[⟨.fallThrough, none, false⟩], some { range := ⟨3, 9⟩ }⟩
    let closure : Subject := ⟨"c", .closure, false, some ⟨"A", .concrete⟩, some body, []⟩
    let method : Subject := ⟨"f", .method, true, some ⟨"A", .concrete⟩, some body, [closure]⟩
    let unit : FlowUnit := ⟨⟨"A"⟩, [method]⟩
    List.Forall₂
        (fun issue issue' => ∃ entry ∈ unit.walk,
          Counterparts unit.file entry.1 entry.2 issue issue')
        (missingReturn.run unit unit.file).issues (missingReturn.run unit.flat unit.file).issues ∧
      (missingReturn.run unit unit.file).issues.map Issue.message =
        ["Closure in f(): Not all execution paths return a value",
          "Method f(): Not all execution paths return a value"] ∧
      (missingReturn.run unit.flat unit.file).issues.map Issue.message =
        ["Closure c: Not all execution paths return a value",
          "Method f(): Not all execution paths return a value"] := by
  intro body closure method unit
  exact ⟨(run_flat unit unit.file).1, by decide, by decide⟩

end MissingReturn

end ReturnPaths
