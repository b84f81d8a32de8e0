import ReturnPaths.Proofs.Check.Reported
import Mathlib.Data.Option.Defs

/-!
# What the issues of a unit do not depend on

Of a subject the check reads its name, its kind and its obligation, and of a body the kinds of exits
that occur in it and the position of its anchor.  Two units that agree in these, subject by subject,
have the same issues, whatever else differs.

* `SameShape` : two lists of subjects with the closures below them, related subject by subject.
* `Subject.Alike` : what the issues depend on is the same.
* `Subject.SameButDetails` : at most details of what is recorded differ: how often and in which
  order exits occur, the values they carry, the names of types and the extent of ranges.
* `Analyzer.analyzeUnit_congr` : in both cases the issues are the same.
-/

namespace ReturnPaths

/-! ### Exits and bodies -/

/-- The verdict depends on which kinds of exits occur, not on how often or in which order. -/
theorem missesReturns_congr {kinds kinds' : List ExitKind}
    (h : ∀ kind, kind ∈ kinds ↔ kind ∈ kinds') (obligation : Obligation) :
    missesReturns obligation kinds = missesReturns obligation kinds' := by
  have hnil : kinds = [] ↔ kinds' = [] := by
    simp only [List.eq_nil_iff_forall_not_mem, h]
  cases obligation with
  | must =>
    rw [Bool.eq_iff_iff, missesReturns_must, missesReturns_must, hnil, h]
  | should =>
    rw [Bool.eq_iff_iff, missesReturns_should, missesReturns_should]
    simp only [h]
  | exempt => rfl

/-- Two bodies with the same kinds of exits and with anchors at the same position, if any. -/
structure Body.Alike (body body' : Body) : Prop where
  /-- The anchors are missing in both bodies or have the same position. -/
  anchors : body.anchor?.map Element.location = body'.anchor?.map Element.location
  /-- The same kinds of exits occur. -/
  kinds : ∀ kind, kind ∈ body.kinds ↔ kind ∈ body'.kinds

theorem Body.Alike.misses_eq {body body' : Body} (h : body.Alike body') (obligation : Obligation) :
    body.misses obligation = body'.misses obligation := by
  rw [Body.misses_eq, Body.misses_eq]
  refine missesReturns_congr (fun kind => ?_) obligation
  simpa only [Body.kinds_eq] using h.kinds kind

/-! ### Subjects -/

/-- Two subjects that are alike in all that issues depend on, the closures below them apart. -/
structure Subject.Alike (subject subject' : Subject) : Prop where
  /-- They have the same name. -/
  name : subject.name = subject'.name
  /-- They are of the same kind. -/
  kind : subject.kind = subject'.kind
  /-- They have the same obligation. -/
  obligation : subject.obligation = subject'.obligation
  /-- Both have a body, and these are alike, or neither has one. -/
  body : Option.Rel Body.Alike subject.body subject'.body

/-- Two lists of subjects have the same shape, closures included, and subjects at the same place are
related. -/
inductive SameShape (R : Subject → Subject → Prop) : List Subject → List Subject → Prop
  /-- No subject in both. -/
  | nil : SameShape R [] []
  /-- Related subjects with closures of the same shape, in front of other subjects. -/
  | cons {subject subject' : Subject} {rest rest' : List Subject} (h : R subject subject')
      (hclosures : SameShape R subject.closures subject'.closures)
      (hrest : SameShape R rest rest') : SameShape R (subject :: rest) (subject' :: rest')

theorem SameShape.imp {R S : Subject → Subject → Prop} (hRS : ∀ {a b}, R a b → S a b)
    {subjects subjects' : List Subject} (h : SameShape R subjects subjects') :
    SameShape S subjects subjects' := by
  induction h with
  | nil => exact .nil
  | cons h _ _ ihclosures ihrest => exact .cons (hRS h) ihclosures ihrest

namespace MissingReturn

variable {file : Path} {enclosing : Option String}

theorem issueAt_congr {subject subject' : Subject} {anchor anchor' : Element}
    (h : subject.Alike subject') (hlocation : anchor.location = anchor'.location) :
    issueAt file enclosing subject anchor = issueAt file enclosing subject' anchor' := by
  simp only [issueAt, message, label, h.name, h.kind, h.obligation, hlocation]

theorem examineBody_congr {subject subject' : Subject} {body body' : Body}
    (h : subject.Alike subject') (hbody : body.Alike body') :
    (examineBody file enclosing subject body).issues =
      (examineBody file enclosing subject' body').issues := by
  have hmisses : body.misses subject.obligation = body'.misses subject'.obligation := by
    rw [hbody.misses_eq, h.obligation]
  have hanchors := hbody.anchors
  simp only [examineBody, hmisses]
  split
  · cases hanchor : body.anchor? with
    | none =>
      rw [hanchor, Option.map_none] at hanchors
      rw [Option.map_eq_none_iff.1 hanchors.symm]
    | some anchor =>
      rw [hanchor, Option.map_some] at hanchors
      obtain ⟨anchor', hanchor', hlocation⟩ := Option.map_eq_some_iff.1 hanchors.symm
      simp only [hanchor', issueAt_congr h hlocation.symm]
  · rfl

theorem examine_congr {subject subject' : Subject} (h : subject.Alike subject') :
    (examine file enclosing subject).issues = (examine file enclosing subject').issues := by
  have hbody := h.body
  have hempty : Body.Alike {} {} := ⟨rfl, fun _ => Iff.rfl⟩
  simp only [examine, bodyOf, ← h.kind]
  generalize subject.body = body at hbody
  generalize subject'.body = body' at hbody
  cases hbody with
  | some hbody => exact examineBody_congr h hbody
  | none =>
    cases subject.kind with
    | method => rfl
    | closure => exact examineBody_congr h hempty
    | other => exact examineBody_congr h hempty

/-- Subjects that are alike all the way down are reported with the same issues. -/
theorem found_congr {subjects subjects' : List Subject}
    (h : SameShape Subject.Alike subjects subjects') (enclosing : Option String) :
    found file (Subject.walkAll enclosing subjects) =
      found file (Subject.walkAll enclosing subjects') := by
  induction h generalizing enclosing with
  | nil => rfl
  | cons h _ _ ihclosures ihrest =>
    rw [found_walkAll_cons, found_walkAll_cons, ihclosures, ihrest, examine_congr h, h.name]

end MissingReturn

/-! ### Details -/

/-- Two exits of the same kind of instruction.  A written return has a value in both or in neither,
and a trailing expression may give one in both or in neither; all else is free. -/
structure Exit.SameButDetails (exit exit' : Exit) : Prop where
  /-- The instructions are the same. -/
  instruction : exit.instruction = exit'.instruction
  /-- Written returns have a value in both or in neither. -/
  value : exit.instruction = .explicitReturn → exit.value.isSome = exit'.value.isSome
  /-- Trailing expressions may give a value in both or in neither. -/
  mayReturnValue : exit.instruction = .maybeReturn → exit.mayReturnValue = exit'.mayReturnValue

/-- Two elements at the same position that both cover some text or both cover none. -/
structure Element.SameButDetails (element element' : Element) : Prop where
  /-- The positions are the same. -/
  location : element.location = element'.location
  /-- Both are attached to a syntax tree or neither is. -/
  valid : element.valid = element'.valid
  /-- Both are present in the source or neither is. -/
  physical : element.physical = element'.physical
  /-- The ranges are empty in both or in neither. -/
  isEmpty : element.range.isEmpty = element'.range.isEmpty

/-- Two bodies with the same exits up to details, in any order and any number of times. -/
structure Body.SameButDetails (body body' : Body) : Prop where
  /-- Each exit of the first body occurs in the second one. -/
  exits : ∀ exit ∈ body.exits, ∃ exit' ∈ body'.exits, exit.SameButDetails exit'
  /-- Each exit of the second body occurs in the first one. -/
  exits' : ∀ exit' ∈ body'.exits, ∃ exit ∈ body.exits, exit.SameButDetails exit'
  /-- The trailing elements are the same up to details. -/
  lastChild : Option.Rel Element.SameButDetails body.lastChild body'.lastChild

/-- Two subjects that differ in details at most, the closures below them apart.  The names of their
types are free. -/
structure Subject.SameButDetails (subject subject' : Subject) : Prop where
  /-- They have the same name. -/
  name : subject.name = subject'.name
  /-- They are of the same kind. -/
  kind : subject.kind = subject'.kind
  /-- A type is written in both or in neither. -/
  declared : subject.declared = subject'.declared
  /-- The same is known of their types. -/
  returnType : subject.returnType.map TypeInfo.kind = subject'.returnType.map TypeInfo.kind
  /-- Their bodies are the same up to details. -/
  body : Option.Rel Body.SameButDetails subject.body subject'.body

theorem Exit.SameButDetails.kind_eq {exit exit' : Exit} (h : exit.SameButDetails exit') :
    exit.kind = exit'.kind := by
  obtain ⟨instruction, value, mayReturnValue⟩ := exit
  obtain ⟨instruction', value', mayReturnValue'⟩ := exit'
  obtain ⟨rfl, hvalue, hmay⟩ := h
  cases instruction <;>
    simp_all [kind, point, traits, ExitPoint.kind, ExitTraits.kind]

theorem Element.SameButDetails.canAnchor_eq {element element' : Element}
    (h : element.SameButDetails element') : element.canAnchor = element'.canAnchor := by
  simp only [canAnchor, h.valid, h.physical, h.isEmpty]

theorem Body.SameButDetails.alike {body body' : Body} (h : body.SameButDetails body') :
    body.Alike body' where
  anchors := by
    obtain ⟨exits, lastChild⟩ := body
    obtain ⟨exits', lastChild'⟩ := body'
    obtain ⟨-, -, hlast⟩ := h
    cases hlast with
    | none => rfl
    | some hlast =>
      simp only [anchor?, Option.filter_some, hlast.canAnchor_eq]
      split
      · simp only [Option.map_some, hlast.location]
      · rfl
  kinds kind := by
    simp only [Body.kinds_eq, List.mem_map]
    constructor
    · rintro ⟨exit, hexit, rfl⟩
      obtain ⟨exit', hexit', hsame⟩ := h.exits exit hexit
      exact ⟨exit', hexit', hsame.kind_eq.symm⟩
    · rintro ⟨exit', hexit', rfl⟩
      obtain ⟨exit, hexit, hsame⟩ := h.exits' exit' hexit'
      exact ⟨exit, hexit, hsame.kind_eq⟩

theorem Subject.SameButDetails.obligation_eq {subject subject' : Subject}
    (h : subject.SameButDetails subject') : subject.obligation = subject'.obligation := by
  have htraits : subject.returnType.map (·.kind.traits) =
      subject'.returnType.map (·.kind.traits) := by
    have := congrArg (Option.map TypeKind.traits) h.returnType
    simpa only [Option.map_map, Function.comp_def] using this
  have hsignature : subject.signature = subject'.signature := by
    simp only [signature, h.kind, h.declared, h.returnType, htraits]
  rw [obligation, hsignature, obligation]

theorem Subject.SameButDetails.alike {subject subject' : Subject}
    (h : subject.SameButDetails subject') : subject.Alike subject' where
  name := h.name
  kind := h.kind
  obligation := h.obligation_eq
  body := by
    have hbody := h.body
    generalize subject.body = body at hbody
    generalize subject'.body = body' at hbody
    cases hbody with
    | none => exact .none
    | some hbody => exact .some hbody.alike

/-! ### Units -/

namespace Analyzer

/-- **Details do not matter.**  Two units of the same file and of the same shape have the same
issues, under the same configuration and selection, if their subjects are alike: in name, kind and
obligation, in whether there is a body, in the position of its anchor, and in the kinds of exits
that occur.  So the order and the number of exits, returned values, values that are raised, names of
types and the extent of ranges that are not empty have no influence. -/
theorem analyzeUnit_congr (config : Config) (selected : List String) {unit unit' : FlowUnit}
    (hfile : unit.file = unit'.file) :
    (SameShape Subject.Alike unit.subjects unit'.subjects →
        analyzeUnit { config, selected } unit = analyzeUnit { config, selected } unit') ∧
      (SameShape Subject.SameButDetails unit.subjects unit'.subjects →
        analyzeUnit { config, selected } unit = analyzeUnit { config, selected } unit') := by
  have hcongr (h : SameShape Subject.Alike unit.subjects unit'.subjects) :
      analyzeUnit { config, selected } unit = analyzeUnit { config, selected } unit' := by
    have hfound : MissingReturn.found unit.file unit.walk =
        MissingReturn.found unit'.file unit'.walk := by
      rw [hfile]
      exact MissingReturn.found_congr h none
    refine congrArg IssueCollection.mk ?_
    rcases issues_analyzeUnit config selected with hissues | hissues
    · exact (hissues unit).trans (hissues unit').symm
    · exact (hissues unit).trans (hfound.trans (hissues unit').symm)
  exact ⟨hcongr, fun h => hcongr (h.imp Subject.SameButDetails.alike)⟩

/-- A method that returns a value or falls off its end, recorded twice: with other exits of the same
kinds, another name for its type, and another range for its last element. -/
theorem analyzeUnit_congr_rerecorded :
    let anchor : Element := { range := ⟨3, 9⟩, location := ⟨2, 5⟩ }
    let exits : List Exit := [⟨.explicitReturn, some "1", false⟩, ⟨.fallThrough, none, false⟩]
    let exits' : List Exit := [⟨.fallThrough, some "x", true⟩, ⟨.explicitReturn, some "2", true⟩,
      ⟨.fallThrough, none, false⟩]
    let method : Subject :=
      ⟨"f", .method, true, some ⟨"int", .primitive⟩, some ⟨exits, some anchor⟩, []⟩
    let method' : Subject :=
      ⟨"f", .method, true, some ⟨"long", .primitive⟩,
        some ⟨exits', some { anchor with range := ⟨4, 5⟩ }⟩, []⟩
    SameShape Subject.Alike [method] [method'] ∧
      SameShape Subject.SameButDetails [method] [method'] ∧
      analyzeUnit {} ⟨⟨"A"⟩, [method]⟩ = analyzeUnit {} ⟨⟨"A"⟩, [method']⟩ ∧
      (analyzeUnit {} ⟨⟨"A"⟩, [method]⟩).size = 1 := by
  intro anchor exits exits' method method'
  have hexits : ∀ exit ∈ exits, ∃ exit' ∈ exits', exit.SameButDetails exit' := by
    intro exit hexit
    simp only [exits, List.mem_cons, List.not_mem_nil, or_false] at hexit
    rcases hexit with rfl | rfl
    · exact ⟨⟨.explicitReturn, some "2", true⟩, by decide, ⟨rfl, fun _ => rfl, nofun⟩⟩
    · exact ⟨⟨.fallThrough, none, false⟩, by decide, ⟨rfl, nofun, nofun⟩⟩
  have hexits' : ∀ exit' ∈ exits', ∃ exit ∈ exits, exit.SameButDetails exit' := by
    intro exit' hexit'
    simp only [exits', List.mem_cons, List.not_mem_nil, or_false] at hexit'
    rcases hexit' with rfl | rfl | rfl
    · exact ⟨⟨.fallThrough, none, false⟩, by decide, ⟨rfl, nofun, nofun⟩⟩
    · exact ⟨⟨.explicitReturn, some "1", false⟩, by decide, ⟨rfl, fun _ => rfl, nofun⟩⟩
    · exact ⟨⟨.fallThrough, none, false⟩, by decide, ⟨rfl, nofun, nofun⟩⟩
  have hsame : method.SameButDetails method' :=
    ⟨rfl, rfl, rfl, rfl, .some ⟨hexits, hexits', .some ⟨rfl, rfl, rfl, by decide⟩⟩⟩
  have hdetails : SameShape Subject.SameButDetails [method] [method'] := .cons hsame .nil .nil
  have halike : SameShape Subject.Alike [method] [method'] := .cons hsame.alike .nil .nil
  have hfile : FlowUnit.file ⟨⟨"A"⟩, [method]⟩ = FlowUnit.file ⟨⟨"A"⟩, [method']⟩ := rfl
  exact ⟨halike, hdetails, (analyzeUnit_congr {} [] hfile).1 halike, by decide⟩

end Analyzer

end ReturnPaths
