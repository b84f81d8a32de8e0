/-!
# Kinds of exit points

An exit point is an instruction through which control leaves a body, together with the value it
returns, if any.  The host answers three questions about the instruction (`ExitTraits`); the
analysis only ever sees the resulting `ExitKind`.

The questions are asked in a fixed order: an instruction that raises is never a return, whatever
value is attached to it, and an implicit result counts as one whether or not its value is known.
-/

namespace ReturnPaths

/-- What a host answers about an exit instruction. -/
structure ExitTraits where
  /-- The path raises instead of completing. -/
  isFailure : Bool
  /-- An implicit result, such as a trailing expression, that may carry a value. -/
  isConditional : Bool
  /-- The instruction belongs to a written return statement. -/
  isExplicit : Bool
  deriving DecidableEq, Repr

/-- The way in which one exit point leaves a body. -/
inductive ExitKind where
  /-- The path raises instead of completing. -/
  | failure
  /-- An implicit result that may carry a value. -/
  | implicitValue
  /-- A written return with a value. -/
  | explicitValue
  /-- A return without a value, or falling off the end of the body. -/
  | plain
  deriving DecidableEq, Repr

/-- The kind of an exit, from the traits of its instruction and whether it returns a value. -/
def ExitTraits.kind (traits : ExitTraits) (hasValue : Bool) : ExitKind :=
  if traits.isFailure then .failure
  else if traits.isConditional then .implicitValue
  else if traits.isExplicit && hasValue then .explicitValue
  else .plain

/-- An exit point as its owner hands it out. -/
structure ExitPoint (ν : Type) where
  /-- What the host answers about the instruction. -/
  traits : ExitTraits
  /-- The returned value, if there is one. -/
  value : Option ν

/-- The kind of an exit point. -/
def ExitPoint.kind {ν : Type} (point : ExitPoint ν) : ExitKind :=
  point.traits.kind point.value.isSome

end ReturnPaths
