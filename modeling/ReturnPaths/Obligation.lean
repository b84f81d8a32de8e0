/-!
# Return obligations

How strongly a function-like construct is expected to produce a value on completion.

Declared method types are authoritative: either a value is required on every path or nothing is
asked.  Closure types are inferred, so only a type that resolves to a concrete class is trusted
enough to demand a value everywhere; any other inferred type that is not void asks only that the
paths agree with each other.

The rules read three yes/no answers about a type (`TypeTraits`) and the part of a subject that its
obligation depends on (`Signature`), so they apply to any host that can give these answers.
-/

namespace ReturnPaths

/-- How strongly a subject is expected to produce a value on completion. -/
inductive Obligation where
  /-- Completing without a value is always a defect. -/
  | must
  /-- Completing without a value is a defect only where other paths do produce one. -/
  | should
  /-- No value is expected, and nothing is asked of the exits. -/
  | exempt
  deriving DecidableEq, Repr

namespace Obligation

/-- Whether the exits of a subject have to be looked at. -/
def requiresValue : Obligation → Bool
  | must | should => true
  | exempt => false

/-- The name of an obligation in logs. -/
def label : Obligation → String
  | must => "must-return-value"
  | should => "should-return-value"
  | exempt => "should-not-return-value"

end Obligation

/-- What a type system answers about a return type. -/
structure TypeTraits where
  /-- The type produces no value. -/
  isVoid : Bool
  /-- The type resolves to the declaration of a concrete class. -/
  isConcreteClass : Bool
  /-- The type names a generic parameter. -/
  isTypeParameter : Bool
  deriving DecidableEq, Repr

/-- The part of a subject that decides its obligation. -/
inductive Signature where
  /-- A closure, with the return type inferred from its context, if any. -/
  | closure (inferred : Option TypeTraits)
  /-- A method: whether a return type is written in its source, and the type it resolves to. -/
  | method (annotated : Bool) (resolved : TypeTraits)
  /-- Any other owner of a body, such as a script or an initializer. -/
  | other
  deriving DecidableEq, Repr

/-- A closure is held to a concrete class strictly and to any other non-void type softly; a method
is held to its written non-void type; nothing else owes a value. -/
def Signature.obligation : Signature → Obligation
  | closure none => .exempt
  | closure (some type) =>
    if type.isConcreteClass && !type.isTypeParameter then .must
    else if type.isVoid then .exempt
    else .should
  | method annotated resolved => if annotated && !resolved.isVoid then .must else .exempt
  | other => .exempt

end ReturnPaths
