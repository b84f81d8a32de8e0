import ReturnPaths.Path.Basic
import ReturnPaths.Exit.Enumeration

/-!
# Flow units

A flow unit describes one source file: its methods, closures and other owners of a body, what is
known of their return types, and the exit points of their bodies as a front end enumerated them.
Closures are listed below the subject they are written in and own their exits themselves.

* `Body.visitExits` : the enumeration of the exits of a body, which the analysis builds on.
* `Subject.obligation` : the obligation of a subject, from the types recorded in the unit.
* `Body.anchor?` : the trailing element of a body, if a diagnostic can be attached to it.
* `Subject.walk` : a subject and the closures below it in post-order, each with the name of the
  subject it is written in.
* `FlowUnit.outline` : all subjects in pre-order, each with its depth.
-/

namespace ReturnPaths

/-- A half-open range of bytes of a source file. -/
structure TextRange where
  /-- The first byte. -/
  start : UInt32
  /-- The byte after the last one. -/
  stop : UInt32
  deriving DecidableEq, Repr

namespace TextRange

/-- The number of bytes covered; an inverted range covers none. -/
def length (range : TextRange) : Nat :=
  range.stop.toNat - range.start.toNat

/-- Whether the range covers no text. -/
def isEmpty (range : TextRange) : Bool :=
  range.length == 0

end TextRange

/-- A position in a source file, counted from 1. -/
structure Location where
  /-- The line. -/
  line : UInt64
  /-- The column. -/
  column : UInt64
  deriving DecidableEq, Repr

/-- The start of a file, which stands for a position that was not recorded. -/
def Location.start : Location := ⟨1, 1⟩

/-- A syntax element recorded by the front end. -/
structure Element where
  /-- The text it covers. -/
  range : TextRange
  /-- Where it is shown to the user. -/
  location : Location := .start
  /-- It is still attached to a syntax tree. -/
  valid : Bool := true
  /-- It is present in the source, not made up by the front end. -/
  physical : Bool := true
  deriving DecidableEq, Repr

/-- A diagnostic needs an element that is attached, present in the source and not of zero width. -/
def Element.canAnchor (element : Element) : Bool :=
  element.valid && element.physical && !element.range.isEmpty

/-- The kind of an exit instruction. -/
inductive Instruction where
  /-- A written return statement. -/
  | explicitReturn
  /-- A trailing expression that may serve as the implicit result. -/
  | maybeReturn
  /-- Raising. -/
  | raise
  /-- Falling off the end of the body. -/
  | fallThrough
  deriving DecidableEq, Repr

/-- One recorded exit of a body. -/
structure Exit where
  /-- The instruction. -/
  instruction : Instruction
  /-- The source text of the returned value. -/
  value : Option String := none
  /-- The trailing expression may carry a value. -/
  mayReturnValue : Bool := false
  deriving DecidableEq, Repr

namespace Exit

/-- The traits of a recorded exit. -/
def traits (exit : Exit) : ExitTraits where
  isFailure := exit.instruction = .raise
  isConditional := exit.instruction = .maybeReturn && exit.mayReturnValue
  isExplicit := exit.instruction = .explicitReturn

/-- The recorded exit as an exit point. -/
def point (exit : Exit) : ExitPoint String :=
  ⟨exit.traits, exit.value⟩

/-- The kind of a recorded exit. -/
def kind (exit : Exit) : ExitKind :=
  exit.point.kind

end Exit

/-- The body of a subject. -/
structure Body where
  /-- The exits, in the order of their enumeration. -/
  exits : List Exit := []
  /-- The trailing element, where a diagnostic is shown. -/
  lastChild : Option Element := none
  deriving DecidableEq, Repr

/-- Hands the exits of a body to a visitor, each together with the value it returns. -/
def Body.visitExits {σ : Type} (body : Body)
    (visitor : σ → Exit × Option String → σ × Visit) (state : σ) : σ :=
  visitAll (fun state exit => visitor state (exit, exit.value)) state body.exits

/-- The analysis is handed the traits of a recorded exit in the place of the exit. -/
instance {m : Type → Type} [Monad m] : ExitOwner m Body String where
  visitExits body visitor state :=
    pure (body.visitExits (fun state (exit, value) => visitor state ⟨exit.traits, value⟩) state)

namespace Body

/-- The element a diagnostic for this body is attached to, if there is one. -/
def anchor? (body : Body) : Option Element :=
  body.lastChild.filter Element.canAnchor

/-- The kinds of the exits of a recorded body. -/
def kinds (body : Body) : List ExitKind :=
  Id.run (exitKinds body)

/-- Whether a recorded body misses some returns under an obligation. -/
def misses (body : Body) (obligation : Obligation) : Bool :=
  Id.run (bodyMisses body obligation)

end Body

/-- What is known of a return type. -/
inductive TypeKind where
  /-- No value. -/
  | void
  /-- A primitive type. -/
  | primitive
  /-- A type that resolves to a concrete class. -/
  | concrete
  /-- A generic parameter. -/
  | typeParameter
  /-- A class type whose declaration was not found. -/
  | unresolved
  deriving DecidableEq, Repr

/-- The traits of a recorded type. -/
def TypeKind.traits (kind : TypeKind) : TypeTraits where
  isVoid := kind = .void
  isConcreteClass := kind = .concrete
  isTypeParameter := kind = .typeParameter

/-- A recorded return type. -/
structure TypeInfo where
  /-- Its name. -/
  name : String
  /-- What is known of it. -/
  kind : TypeKind
  deriving DecidableEq, Repr

/-- The kind of a subject. -/
inductive SubjectKind where
  /-- A method. -/
  | method
  /-- A closure. -/
  | closure
  /-- A script body, an initializer or another owner without a return type. -/
  | other
  deriving DecidableEq, Repr

/-- A method, a closure or another owner of a body. -/
structure Subject where
  /-- Its name. -/
  name : String
  /-- Its kind. -/
  kind : SubjectKind
  /-- Of a method: a return type is written in its source. -/
  declared : Bool := false
  /-- The declared type of a method, or the inferred type of a closure. -/
  returnType : Option TypeInfo := none
  /-- The body; an abstract method has none. -/
  body : Option Body := none
  /-- The closures written in this subject. -/
  closures : List Subject := []

namespace Subject

/-- The part of the subject that its obligation depends on.  A method whose type was not recorded
has an unresolved one. -/
def signature (subject : Subject) : Signature :=
  match subject.kind with
  | .method =>
    .method subject.declared ((subject.returnType.map TypeInfo.kind).getD .unresolved).traits
  | .closure => .closure (subject.returnType.map (·.kind.traits))
  | .other => .other

/-- The obligation of a subject. -/
def obligation (subject : Subject) : Obligation :=
  subject.signature.obligation

mutual

/-- The number of subjects here: the subject itself and the closures below it. -/
def count : Subject → Nat
  | { closures, .. } => countAll closures + 1

/-- The number of subjects in a list of subjects and below. -/
def countAll : List Subject → Nat
  | [] => 0
  | subject :: subjects => subject.count + countAll subjects

end

mutual

/-- The closures below a subject in post-order and then the subject, each with the name of the
subject it is written in. -/
def walk (enclosing : Option String) : Subject → List (Option String × Subject)
  | subject@{ name, closures, .. } => walkAll (some name) closures ++ [(enclosing, subject)]

/-- The walks of a list of subjects that are written in the same place, one after the other. -/
def walkAll (enclosing : Option String) : List Subject → List (Option String × Subject)
  | [] => []
  | subject :: subjects => subject.walk enclosing ++ walkAll enclosing subjects

end

mutual

/-- A subject at some depth, followed by the closures below it. -/
def outline (depth : Nat) : Subject → List (Nat × Subject)
  | subject@{ closures, .. } => (depth, subject) :: outlineAll (depth + 1) closures

/-- The outlines of a list of subjects at some depth, one after the other. -/
def outlineAll (depth : Nat) : List Subject → List (Nat × Subject)
  | [] => []
  | subject :: subjects => subject.outline depth ++ outlineAll depth subjects

end

end Subject

/-- One analyzed source file. -/
structure FlowUnit where
  /-- The source file. -/
  file : Path
  /-- The subjects of the file that are not closures of another subject. -/
  subjects : List Subject := []

namespace FlowUnit

/-- The number of subjects, closures included. -/
def subjectCount (unit : FlowUnit) : Nat :=
  Subject.countAll unit.subjects

/-- All subjects in post-order, each with the name of the subject it is written in. -/
def walk (unit : FlowUnit) : List (Option String × Subject) :=
  Subject.walkAll none unit.subjects

/-- All subjects with their depths, each before the closures below it. -/
def outline (unit : FlowUnit) : List (Nat × Subject) :=
  Subject.outlineAll 0 unit.subjects

end FlowUnit

end ReturnPaths
