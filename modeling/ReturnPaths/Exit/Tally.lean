import ReturnPaths.Obligation
import ReturnPaths.Exit.Kind

/-!
# Completeness of the exits of a body

The kinds of the exits of a body are folded into three flags, and the verdict is read off the
flags alone.

* `ExitTally.add` : folds in one exit.
* `ExitTally.misses` : the verdict.  Under a hard obligation some exit has to satisfy it and none
  may be plain; under a soft one only a mixture of value and plain exits is a defect.
* `missesReturns` : the verdict on a list of exits.
-/

namespace ReturnPaths

/-- What is known about the exits seen so far. -/
structure ExitTally where
  /-- No plain exit has been seen. -/
  always : Bool := true
  /-- Some exit satisfies the obligation. -/
  sometimes : Bool := false
  /-- Some written return carries a value.  Recorded for reports; the verdict does not read it. -/
  explicit : Bool := false
  deriving DecidableEq, Repr

namespace ExitTally

/-- Folds in one exit.  Raising satisfies a hard obligation; under a soft one it counts neither as
a value nor as a missing one. -/
def add (obligation : Obligation) (tally : ExitTally) : ExitKind → ExitTally
  | .failure => if obligation = .must then { tally with sometimes := true } else tally
  | .implicitValue => { tally with sometimes := true }
  | .explicitValue => { tally with sometimes := true, explicit := true }
  | .plain => { tally with always := false }

/-- Whether a body with these exits misses some returns. -/
def misses (obligation : Obligation) (tally : ExitTally) : Bool :=
  match obligation with
  | .exempt => false
  | .must => !tally.sometimes || !tally.always
  | .should => tally.sometimes && !tally.always

/-- The flags of a list of exits. -/
def ofKinds (obligation : Obligation) (kinds : List ExitKind) : ExitTally :=
  kinds.foldl (add obligation) {}

end ExitTally

/-- Whether a body with exits of these kinds misses some returns under an obligation. -/
def missesReturns (obligation : Obligation) (kinds : List ExitKind) : Bool :=
  obligation.requiresValue && (ExitTally.ofKinds obligation kinds).misses obligation

end ReturnPaths
