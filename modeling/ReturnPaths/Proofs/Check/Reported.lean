import ReturnPaths.Analysis.Analyzer
import ReturnPaths.Proofs.Exit.Verdict

/-!
# What the check for missing returns reports

The check works in steps: it walks the subjects, classifies each of them, folds its exits into
flags, reads off the verdict and looks for an anchor.  Here its result is stated without these
steps, as a relation between a list of subjects and a list of issues.

* `Subject.OwesValue`, `Subject.OwesAgreement` : the hard and the soft obligation, in terms of what
  is recorded of the subject.
* `MissingReturn.Reports` : a subject is reported with an issue.
* `MissingReturn.ReportsAll` : subjects and the closures below them are reported with a list of
  issues, the closures of a subject before the subject itself.
* `MissingReturn.run_issues_iff` : the check gives exactly this list.
* `Analyzer.issues_analyzeUnit` : the issues of a unit are what the check gives, or none.
-/

namespace ReturnPaths

/-! ### Obligations -/

namespace Subject

/-- Every path has to give a value: the subject is a method with a written type that is not void,
or a closure whose type is a concrete class.  A type that was not recorded is not void. -/
def OwesValue (subject : Subject) : Prop :=
  (subject.kind = .method ∧ subject.declared = true ∧
      ∀ type ∈ subject.returnType, type.kind ≠ .void) ∨
    (subject.kind = .closure ∧ ∃ type ∈ subject.returnType, type.kind = .concrete)

/-- The paths have to agree: the subject is a closure whose type is recorded and neither void nor a
concrete class. -/
def OwesAgreement (subject : Subject) : Prop :=
  subject.kind = .closure ∧ ∃ type ∈ subject.returnType,
    type.kind = .primitive ∨ type.kind = .typeParameter ∨ type.kind = .unresolved

theorem obligation_eq_must (subject : Subject) :
    subject.obligation = .must ↔ subject.OwesValue := by
  obtain ⟨name, kind, declared, returnType, body, closures⟩ := subject
  rcases kind with _ | _ | _ <;> rcases returnType with _ | ⟨_, _ | _ | _ | _ | _⟩ <;>
    cases declared <;>
    simp [obligation, signature, Signature.obligation, TypeKind.traits, OwesValue]

theorem obligation_eq_should (subject : Subject) :
    subject.obligation = .should ↔ subject.OwesAgreement := by
  obtain ⟨name, kind, declared, returnType, body, closures⟩ := subject
  rcases kind with _ | _ | _ <;> rcases returnType with _ | ⟨_, _ | _ | _ | _ | _⟩ <;>
    cases declared <;>
    simp [obligation, signature, Signature.obligation, TypeKind.traits, OwesAgreement]

end Subject

/-- A diagnostic can be attached to the element: it is valid and physical and covers some text. -/
def Element.Anchors (element : Element) : Prop :=
  element.valid = true ∧ element.physical = true ∧ element.range.start < element.range.stop

theorem Element.canAnchor_iff (element : Element) : element.canAnchor = true ↔ element.Anchors := by
  have hlt : element.range.start < element.range.stop ↔
      element.range.start.toNat < element.range.stop.toNat := UInt32.lt_iff_toNat_lt
  simp only [canAnchor, TextRange.isEmpty, TextRange.length, Anchors, Bool.and_eq_true, and_assoc,
    Bool.not_eq_true', beq_eq_false_iff_ne, hlt]
  refine and_congr_right fun _ => and_congr_right fun _ => ?_
  omega

theorem Body.anchor?_eq_some (body : Body) (anchor : Element) :
    body.anchor? = some anchor ↔ body.lastChild = some anchor ∧ anchor.Anchors := by
  simp only [anchor?, Option.filter_eq_some_iff, Element.canAnchor_iff]

namespace MissingReturn

/-! ### What is reported -/

/-- How a message names a subject; a nested closure is named after the subject it is written in. -/
inductive Titled (enclosing : Option String) (subject : Subject) : String → Prop
  /-- A method has its own name. -/
  | method (hkind : subject.kind = .method) :
      Titled enclosing subject ("Method " ++ subject.name ++ "()")
  /-- A nested closure has the name of the subject around it. -/
  | nested {outer : String} (hkind : subject.kind = .closure) (houter : enclosing = some outer) :
      Titled enclosing subject ("Closure in " ++ outer ++ "()")
  /-- Another closure has its own name. -/
  | closure (hkind : subject.kind = .closure) (houter : enclosing = none) :
      Titled enclosing subject ("Closure " ++ subject.name)

/-- A subject, written in `enclosing`, is reported with an issue: it has a body that ends in an
element a diagnostic can be attached to, and its exits fail its obligation. -/
inductive Reports (file : Path) (enclosing : Option String) (subject : Subject) : Issue → Prop
  /-- No value on some path, or no exit at all, where a value is owed. -/
  | hard {body : Body} {anchor : Element} {title : String}
      (hbody : subject.body = some body) (hlast : body.lastChild = some anchor)
      (hanchor : anchor.Anchors) (howes : subject.OwesValue)
      (hexits : body.exits = [] ∨ ∃ exit ∈ body.exits, exit.IsPlain)
      (htitle : Titled enclosing subject title) :
      Reports file enclosing subject
        { check := "return.missing"
          severity := .error
          message := title ++ ": Not all execution paths return a value"
          file := file
          line := anchor.location.line
          column := anchor.location.column
          subject := some subject.name
          tip := some "Return a value or throw on every path" }
  /-- A value on one path and none on another, where the paths have to agree. -/
  | soft {body : Body} {anchor : Element} {title : String}
      (hbody : subject.body = some body) (hlast : body.lastChild = some anchor)
      (hanchor : anchor.Anchors) (howes : subject.OwesAgreement)
      (hexits : (∃ exit ∈ body.exits, exit.GivesValue) ∧ ∃ exit ∈ body.exits, exit.IsPlain)
      (htitle : Titled enclosing subject title) :
      Reports file enclosing subject
        { check := "return.missing"
          severity := .warning
          message := title ++ ": Not all execution paths return a value"
          file := file
          line := anchor.location.line
          column := anchor.location.column
          subject := some subject.name
          tip := some "Return a value on every path or on none" }

/-- A list of subjects, written in `enclosing`, and the closures below them are reported with a
list of issues, in post-order. -/
inductive ReportsAll (file : Path) : Option String → List Subject → List Issue → Prop
  /-- No subject, no issue. -/
  | nil {enclosing : Option String} : ReportsAll file enclosing [] []
  /-- A subject that is reported, after the closures below it and before the other subjects. -/
  | reported {enclosing : Option String} {subject : Subject} {rest : List Subject} {issue : Issue}
      {inner outer : List Issue}
      (hinner : ReportsAll file (some subject.name) subject.closures inner)
      (hissue : Reports file enclosing subject issue)
      (houter : ReportsAll file enclosing rest outer) :
      ReportsAll file enclosing (subject :: rest) (inner ++ issue :: outer)
  /-- A subject that is not reported. -/
  | silent {enclosing : Option String} {subject : Subject} {rest : List Subject}
      {inner outer : List Issue}
      (hinner : ReportsAll file (some subject.name) subject.closures inner)
      (hsilent : ∀ issue, ¬ Reports file enclosing subject issue)
      (houter : ReportsAll file enclosing rest outer) :
      ReportsAll file enclosing (subject :: rest) (inner ++ outer)

variable {file : Path} {enclosing : Option String} {subject : Subject}

/-! ### One subject -/

theorem titled_iff {title : String} :
    Titled enclosing subject title ↔ subject.kind ≠ .other ∧ title = label enclosing subject := by
  constructor
  · rintro (hkind | ⟨hkind, rfl⟩ | ⟨hkind, rfl⟩) <;>
      exact ⟨by rw [hkind]; decide, by simp only [label, hkind]; rfl⟩
  · rintro ⟨hother, rfl⟩
    cases hkind : subject.kind with
    | method =>
      have : label enclosing subject = "Method " ++ subject.name ++ "()" := by
        simp only [label, hkind]; rfl
      exact this ▸ .method hkind
    | closure =>
      cases enclosing with
      | none =>
        have : label none subject = "Closure " ++ subject.name := by simp only [label, hkind]; rfl
        exact this ▸ .closure hkind rfl
      | some outer =>
        have : label (some outer) subject = "Closure in " ++ outer ++ "()" := by
          simp only [label, hkind]; rfl
        exact this ▸ .nested hkind rfl
    | other => exact absurd hkind hother

theorem mem_examineBody {body : Body} {issue : Issue} :
    issue ∈ (examineBody file enclosing subject body).issues ↔
      body.misses subject.obligation = true ∧
        ∃ anchor, body.anchor? = some anchor ∧ issue = issueAt file enclosing subject anchor := by
  simp only [examineBody]
  split
  · rename_i hmiss
    cases hanchor : body.anchor? <;> simp [hmiss]
  · rename_i hmiss
    simp [hmiss]

theorem mem_examine {issue : Issue} :
    issue ∈ (examine file enclosing subject).issues ↔
      ∃ body anchor, subject.body = some body ∧ body.anchor? = some anchor ∧
        body.misses subject.obligation = true ∧
        issue = issueAt file enclosing subject anchor := by
  cases hbody : subject.body with
  | some body =>
    simp only [examine, bodyOf, hbody, mem_examineBody, Option.some.injEq]
    constructor
    · rintro ⟨hmiss, anchor, hanchor, rfl⟩
      exact ⟨body, anchor, rfl, hanchor, hmiss, rfl⟩
    · rintro ⟨_, anchor, rfl, hanchor, hmiss, rfl⟩
      exact ⟨hmiss, anchor, hanchor, rfl⟩
  | none =>
    -- the empty body that stands for a missing one has no anchor
    cases hkind : subject.kind <;>
      simp [examine, bodyOf, hbody, hkind, mem_examineBody, Body.anchor?]

theorem length_examine_le : (examine file enclosing subject).issues.length ≤ 1 := by
  rw [examine]
  cases bodyOf subject with
  | none => simp
  | some body =>
    simp only [examineBody]
    split
    · cases body.anchor? <;> simp
    · simp

theorem Reports.exists_anchor {issue : Issue} (h : Reports file enclosing subject issue) :
    ∃ body anchor, subject.body = some body ∧ body.anchor? = some anchor ∧
      body.misses subject.obligation = true ∧
      issue = issueAt file enclosing subject anchor := by
  obtain ⟨hbody, hlast, hanchor, howes, hexits, htitle⟩ |
    ⟨hbody, hlast, hanchor, howes, hexits, htitle⟩ := h
  all_goals
    refine ⟨_, _, hbody, (Body.anchor?_eq_some _ _).2 ⟨hlast, hanchor⟩, ?_⟩
    obtain ⟨-, rfl⟩ := titled_iff.1 htitle
  · rw [issueAt, (Subject.obligation_eq_must _).2 howes]
    exact ⟨(Body.misses_must _).2 hexits, rfl⟩
  · rw [issueAt, (Subject.obligation_eq_should _).2 howes]
    exact ⟨(Body.misses_should _).2 hexits, rfl⟩

theorem reports_issueAt {body : Body} {anchor : Element} (hbody : subject.body = some body)
    (hanchor : body.anchor? = some anchor) (hmiss : body.misses subject.obligation = true) :
    Reports file enclosing subject (issueAt file enclosing subject anchor) := by
  obtain ⟨hlast, hcan⟩ := (Body.anchor?_eq_some _ _).1 hanchor
  cases ho : subject.obligation with
  | must =>
    have howes := (Subject.obligation_eq_must _).1 ho
    have hkind : subject.kind ≠ .other := by
      rcases howes with ⟨hkind, -⟩ | ⟨hkind, -⟩ <;> rw [hkind] <;> decide
    rw [ho] at hmiss
    rw [issueAt, ho]
    exact .hard hbody hlast hcan howes ((Body.misses_must _).1 hmiss) (titled_iff.2 ⟨hkind, rfl⟩)
  | should =>
    have howes := (Subject.obligation_eq_should _).1 ho
    have hkind : subject.kind ≠ .other := by rw [howes.1]; decide
    rw [ho] at hmiss
    rw [issueAt, ho]
    exact .soft hbody hlast hcan howes ((Body.misses_should _).1 hmiss) (titled_iff.2 ⟨hkind, rfl⟩)
  | exempt =>
    rw [ho, Body.misses_eq, missesReturns_exempt] at hmiss
    exact absurd hmiss Bool.false_ne_true

theorem reports_iff {issue : Issue} :
    Reports file enclosing subject issue ↔ issue ∈ (examine file enclosing subject).issues := by
  rw [mem_examine]
  constructor
  · exact Reports.exists_anchor
  · rintro ⟨body, anchor, hbody, hanchor, hmiss, rfl⟩
    exact reports_issueAt hbody hanchor hmiss

theorem examine_of_reports {issue : Issue} (h : Reports file enclosing subject issue) :
    (examine file enclosing subject).issues = [issue] := by
  have hmem := reports_iff.1 h
  have hlen : (examine file enclosing subject).issues.length ≤ 1 := length_examine_le
  obtain ⟨other, hother⟩ := List.length_eq_one_iff.1
    (Nat.le_antisymm hlen (List.length_pos_of_mem hmem))
  rw [hother, List.mem_singleton] at hmem
  rw [hother, hmem]

theorem examine_of_silent (h : ∀ issue, ¬ Reports file enclosing subject issue) :
    (examine file enclosing subject).issues = [] :=
  List.eq_nil_iff_forall_not_mem.2 fun issue hmem => h issue (reports_iff.2 hmem)

/-! ### All subjects -/

/-- The issues found on a walk. -/
def found (file : Path) (walk : List (Option String × Subject)) : List Issue :=
  walk.flatMap fun (enclosing, subject) => (examine file enclosing subject).issues

theorem found_walkAll_cons (rest : List Subject) :
    found file (Subject.walkAll enclosing (subject :: rest)) =
      found file (Subject.walkAll (some subject.name) subject.closures) ++
        ((examine file enclosing subject).issues ++
          found file (Subject.walkAll enclosing rest)) := by
  obtain ⟨name, kind, declared, returnType, body, closures⟩ := subject
  simp [found, Subject.walkAll, Subject.walk]

mutual

theorem reportsAll_closures (file : Path) : (subject : Subject) →
    ReportsAll file (some subject.name) subject.closures
      (found file (Subject.walkAll (some subject.name) subject.closures))
  | { name, closures, .. } => reportsAll_walkAll file (some name) closures

theorem reportsAll_walkAll (file : Path) (enclosing : Option String) : (subjects : List Subject) →
    ReportsAll file enclosing subjects (found file (Subject.walkAll enclosing subjects))
  | [] => .nil
  | subject :: rest => by
    have hinner := reportsAll_closures file subject
    have houter := reportsAll_walkAll file enclosing rest
    rw [found_walkAll_cons]
    by_cases h : ∃ issue, Reports file enclosing subject issue
    · obtain ⟨issue, hissue⟩ := h
      rw [examine_of_reports hissue]
      exact .reported hinner hissue houter
    · have hsilent : ∀ issue, ¬ Reports file enclosing subject issue := not_exists.1 h
      rw [examine_of_silent hsilent]
      exact .silent hinner hsilent houter

end

theorem ReportsAll.eq_found {subjects : List Subject} {issues : List Issue}
    (h : ReportsAll file enclosing subjects issues) :
    issues = found file (Subject.walkAll enclosing subjects) := by
  induction h with
  | nil => rfl
  | reported _ hissue _ ihinner ihouter =>
    rw [found_walkAll_cons, ← ihinner, ← ihouter, examine_of_reports hissue, List.singleton_append]
  | silent _ hsilent _ ihinner ihouter =>
    rw [found_walkAll_cons, ← ihinner, ← ihouter, examine_of_silent hsilent, List.nil_append]

/-- A subject that owes nothing, or that has no body, is never reported. -/
theorem not_reports (h : ¬ subject.OwesValue ∧ ¬ subject.OwesAgreement ∨ subject.body = none)
    (issue : Issue) : ¬ Reports file enclosing subject issue := by
  rintro (⟨hbody, -, -, howes, -, -⟩ | ⟨hbody, -, -, howes, -, -⟩)
  · rcases h with ⟨h, -⟩ | h
    · exact h howes
    · rw [h] at hbody; cases hbody
  · rcases h with ⟨-, h⟩ | h
    · exact h howes
    · rw [h] at hbody; cases hbody

/-- **Exactness of the check.**  On every unit the check gives the one list of issues that the
subjects of the unit are reported with, closures before the subjects they are written in.  Subjects
of another kind, closures without a type or of type void, methods without a written type or of type
void, and subjects without a body are not among them. -/
theorem run_issues_iff (unit : FlowUnit) (file : Path) :
    (∀ issues : List Issue, (missingReturn.run unit file).issues = issues ↔
      ReportsAll file none unit.subjects issues) ∧
    ∀ (enclosing : Option String) (subject : Subject) (issue : Issue),
      (subject.kind = .other ∨
        (subject.kind = .closure ∧ ∀ type ∈ subject.returnType, type.kind = .void) ∨
        (subject.kind = .method ∧
          (subject.declared = false ∨ ∃ type ∈ subject.returnType, type.kind = .void)) ∨
        subject.body = none) → ¬ Reports file enclosing subject issue := by
  refine ⟨fun issues => ⟨fun h => h ▸ reportsAll_walkAll file none unit.subjects,
    fun h => h.eq_found.symm⟩, fun enclosing subject issue h => not_reports ?_ issue⟩
  rcases h with hkind | ⟨hkind, hvoid⟩ | ⟨hkind, hnone | ⟨type, htype, hvoid⟩⟩ | hbody
  · exact .inl ⟨by simp [Subject.OwesValue, hkind], by simp [Subject.OwesAgreement, hkind]⟩
  · refine .inl ⟨?_, ?_⟩
    · rintro (⟨hm, -, -⟩ | ⟨-, type, htype, hconcrete⟩)
      · rw [hkind] at hm; cases hm
      · rw [hvoid type htype] at hconcrete; cases hconcrete
    · rintro ⟨-, type, htype, hweak⟩
      rw [hvoid type htype] at hweak
      rcases hweak with h | h | h <;> cases h
  · exact .inl ⟨by simp [Subject.OwesValue, hkind, hnone], by simp [Subject.OwesAgreement, hkind]⟩
  · refine .inl ⟨?_, by simp [Subject.OwesAgreement, hkind]⟩
    rintro (⟨-, -, hall⟩ | ⟨hc, -⟩)
    · exact hall type htype hvoid
    · rw [hkind] at hc; cases hc
  · exact .inr hbody

end MissingReturn

/-! ### Analyzers -/

namespace Analyzer

/-- An analyzer with the checks of this library finds what the check for missing returns finds, or
nothing. -/
theorem issues_analyzeUnit (config : Config) (selected : List String) :
    (∀ unit, (analyzeUnit { config, selected } unit).toList = []) ∨
      ∀ unit, (analyzeUnit { config, selected } unit).toList =
        MissingReturn.found unit.file unit.walk := by
  have hbuiltin : Registry.builtin.checks = [missingReturn] := rfl
  have henabled : Registry.builtin.enabled config selected = [] ∨
      Registry.builtin.enabled config selected = [missingReturn] := by
    rw [Registry.enabled, hbuiltin]
    simp only [List.filter_cons, List.filter_nil]
    split_ifs <;> simp
  refine henabled.imp (fun h unit => ?_) fun h unit => ?_
  · simp [analyzeUnit, examine, Registry.run, h, Findings.collect]
  · simp [analyzeUnit, examine, Registry.run, h, Findings.collect, missingReturn,
      MissingReturn.run, MissingReturn.found]

end Analyzer

end ReturnPaths
