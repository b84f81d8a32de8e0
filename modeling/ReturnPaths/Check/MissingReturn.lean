import ReturnPaths.Check.Basic

/-!
# The check for missing returns

Every subject of a unit is looked at on its own, closures before the subject they are written in.
A subject whose body misses some returns under its obligation gets an issue at the trailing element
of the body: an error if it must return a value, a warning if it should.  Without an element that a
diagnostic can be attached to, the issue is dropped.  Methods without a body are abstract and are
not looked at.

* `MissingReturn.examine` : the findings for one subject.
* `missingReturn` : the check.
-/

namespace ReturnPaths

namespace MissingReturn

/-- The identifier of the check. -/
def id : String := "return.missing"

/-- How a message names a subject that is written in `enclosing`. -/
def label (enclosing : Option String) (subject : Subject) : String :=
  match subject.kind, enclosing with
  | .method, _ => s!"Method {subject.name}()"
  | .closure, some outer => s!"Closure in {outer}()"
  | .closure, none => s!"Closure {subject.name}"
  | .other, _ => subject.name

/-- The message for a subject. -/
def message (enclosing : Option String) (subject : Subject) : String :=
  label enclosing subject ++ ": Not all execution paths return a value"

/-- The severity of a missing return under an obligation. -/
def severity : Obligation → Severity
  | .must => .error
  | _ => .warning

/-- The tip that goes with an obligation. -/
def tip : Obligation → String
  | .must => "Return a value or throw on every path"
  | _ => "Return a value on every path or on none"

/-- The issue for a subject that misses returns, at its anchor. -/
def issueAt (file : BytePath) (enclosing : Option String) (subject : Subject) (anchor : Element) :
    Issue where
  check := id
  severity := severity subject.obligation
  message := message enclosing subject
  file := file
  line := anchor.location.line
  column := anchor.location.column
  subject := some subject.name
  tip := some (tip subject.obligation)

/-- The body that is looked at; only a method without a body has none. -/
def bodyOf (subject : Subject) : Option Body :=
  match subject.body, subject.kind with
  | some body, _ => some body
  | none, .method => none
  | none, _ => some {}

/-- The findings for a subject with a body. -/
def examineBody (file : BytePath) (enclosing : Option String) (subject : Subject) (body : Body) :
    Findings :=
  let missing := body.misses subject.obligation
  let verdict := Event.verdict subject.name subject.obligation body.exits.length missing
  if missing then
    match body.anchor? with
    | some anchor => ⟨[issueAt file enclosing subject anchor], [verdict]⟩
    | none => ⟨[], [verdict, .noAnchor subject.name]⟩
  else ⟨[], [verdict]⟩

/-- The findings for one subject, written in `enclosing`. -/
def examine (file : BytePath) (enclosing : Option String) (subject : Subject) : Findings :=
  match bodyOf subject with
  | some body => examineBody file enclosing subject body
  | none => {}

/-- The findings for all subjects of a unit. -/
def run (unit : FlowUnit) (file : BytePath) : Findings :=
  Findings.collect (fun (enclosing, subject) => examine file enclosing subject) unit.walk

end MissingReturn

/-- The check for missing returns. -/
def missingReturn : Check where
  id := MissingReturn.id
  shortName := "MissingReturnStatement"
  displayName := "Missing return statement"
  description :=
    "Detects methods and closures where some execution path completes without a value"
  groupPath := ["Control flow", "Data flow issues"]
  run := MissingReturn.run

end ReturnPaths
