import ReturnPaths.Exit.Tally

/-!
# Enumerating exit points

An owner of exit points hands them, one after another, to a visitor that carries a state and may
stop the enumeration.  `visitAll` is the enumeration every owner follows: the points in order, each
at most once, up to and including the first at which the visitor stops.

An enumeration may have effects of its own (`ExitOwner m`); `CountedExits` uses this to count the
points it hands out, which shows how much of a body a question looks at.

* `exitKinds` : the kinds of all exit points, in order.
* `bodyMisses` : the verdict on a body, which is not enumerated when no value is asked for.
-/

namespace ReturnPaths

/-- What a visitor answers to the point it was handed. -/
inductive Visit where
  /-- Go on with the next point. -/
  | next
  /-- Hand out no further point. -/
  | stop
  deriving DecidableEq, Repr

/-- Hands the members of a list to a visitor, in order, until it stops. -/
def visitAll {σ ε : Type} (visitor : σ → ε → σ × Visit) : σ → List ε → σ
  | state, [] => state
  | state, point :: points =>
    match visitor state point with
    | (state, .next) => visitAll visitor state points
    | (state, .stop) => state

/-- Bodies of type `β` enumerate exit points with values of type `ν`, with effects in `m`. -/
class ExitOwner (m : Type → Type) (β : Type) (ν : outParam Type) where
  /-- Hands the exit points of a body to a visitor and gives its last state. -/
  visitExits {σ : Type} (body : β) (visitor : σ → ExitPoint ν → σ × Visit) (state : σ) : m σ

section

variable {m : Type → Type} [Monad m] {β ν : Type} [ExitOwner m β ν]

/-- The kinds of the exit points of a body, in the order of their enumeration. -/
def exitKinds (body : β) : m (List ExitKind) := do
  let kinds ← ExitOwner.visitExits body
    (fun (kinds : Array ExitKind) (point : ExitPoint ν) => (kinds.push point.kind, .next)) #[]
  return kinds.toList

/-- Whether some execution path of a body completes without the value the obligation asks for.
The body is not enumerated when no value is asked for. -/
def bodyMisses (body : β) (obligation : Obligation) : m Bool :=
  if obligation.requiresValue then missesReturns obligation <$> exitKinds body
  else pure false

end

/-- A body that counts the points it hands out. -/
structure CountedExits (ν : Type) where
  /-- The exit points, in order. -/
  points : List (ExitPoint ν)

instance {ν : Type} : ExitOwner (StateM Nat) (CountedExits ν) ν where
  visitExits body visitor state := fun count =>
    visitAll (fun (state, count) point =>
      let (state, answer) := visitor state point
      ((state, count + 1), answer)) (state, count) body.points

end ReturnPaths
