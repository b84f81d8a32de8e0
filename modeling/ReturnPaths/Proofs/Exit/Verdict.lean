import ReturnPaths.Proofs.Exit.Enumeration
import Mathlib.Data.List.Basic

/-!
# What the verdict says about the exits

The verdict on a body is read off three flags.  Here the flags are given in closed form, and from
them the verdict is given as a condition on the exits themselves.

* `ExitTally.ofKinds_always`, `ExitTally.ofKinds_sometimes`, `ExitTally.ofKinds_explicit` : the
  flags of a list of exits.
* `missesReturns_must`, `missesReturns_should` : the verdict under a hard and a soft obligation.
  Raising satisfies the hard one, so it is missed by no exit at all or by a plain one; the soft one
  is missed only where a plain exit stands beside one that gives a value.
* `Body.misses_must`, `Body.misses_should` : the same for a recorded body, in terms of what is
  recorded of its exits.
-/

namespace ReturnPaths

/-! ### The flags -/

namespace ExitKind

/-- Whether an exit of this kind counts as one that satisfies the obligation. -/
def satisfies (obligation : Obligation) : ExitKind → Bool
  | failure => obligation = .must
  | implicitValue | explicitValue => true
  | plain => false

/-- Whether an exit of this kind gives a value. -/
def givesValue : ExitKind → Bool
  | implicitValue | explicitValue => true
  | failure | plain => false

theorem satisfies_must (kind : ExitKind) : kind.satisfies .must = !decide (kind = plain) := by
  cases kind <;> rfl

theorem satisfies_should (kind : ExitKind) : kind.satisfies .should = kind.givesValue := by
  cases kind <;> rfl

end ExitKind

namespace ExitTally

variable (obligation : Obligation)

theorem add_eq (tally : ExitTally) (kind : ExitKind) :
    tally.add obligation kind =
      { always := tally.always && !decide (kind = .plain)
        sometimes := tally.sometimes || kind.satisfies obligation
        explicit := tally.explicit || decide (kind = .explicitValue) } := by
  cases kind <;> by_cases h : obligation = .must <;> simp [add, ExitKind.satisfies, h]

theorem foldl_add (kinds : List ExitKind) (tally : ExitTally) :
    kinds.foldl (add obligation) tally =
      { always := tally.always && !kinds.contains .plain
        sometimes := tally.sometimes || kinds.any (·.satisfies obligation)
        explicit := tally.explicit || kinds.contains .explicitValue } := by
  induction kinds generalizing tally with
  | nil => simp
  | cons kind kinds ih =>
    rw [List.foldl_cons, ih, add_eq]
    simp only [List.contains_cons, List.any_cons, Bool.or_assoc, Bool.and_assoc, Bool.not_or,
      Bool.beq_eq_decide_eq, eq_comm (a := kind)]

theorem ofKinds_always (kinds : List ExitKind) :
    (ofKinds obligation kinds).always = true ↔ .plain ∉ kinds := by
  simp [ofKinds, foldl_add]

theorem ofKinds_sometimes (kinds : List ExitKind) :
    (ofKinds obligation kinds).sometimes = true ↔
      ∃ kind ∈ kinds, kind.satisfies obligation = true := by
  simp [ofKinds, foldl_add]

theorem ofKinds_explicit (kinds : List ExitKind) :
    (ofKinds obligation kinds).explicit = true ↔ .explicitValue ∈ kinds := by
  simp [ofKinds, foldl_add]

end ExitTally

/-! ### The verdict -/

theorem missesReturns_exempt (kinds : List ExitKind) : missesReturns .exempt kinds = false := rfl

theorem missesReturns_must (kinds : List ExitKind) :
    missesReturns .must kinds = true ↔ kinds = [] ∨ .plain ∈ kinds := by
  have hs := ExitTally.ofKinds_sometimes .must kinds
  have ha := ExitTally.ofKinds_always .must kinds
  simp only [ExitKind.satisfies_must, Bool.not_eq_true', decide_eq_false_iff_not] at hs
  simp only [missesReturns, Obligation.requiresValue, ExitTally.misses, Bool.true_and,
    Bool.or_eq_true, Bool.not_eq_true', ← Bool.not_eq_true, hs, ha, not_not]
  constructor
  · rintro (h | h)
    · -- no exit satisfies the obligation: there is none, or the first one is plain
      cases kinds with
      | nil => exact .inl rfl
      | cons kind kinds =>
        by_cases hk : kind = .plain
        · exact .inr (hk ▸ List.mem_cons_self)
        · exact absurd ⟨kind, List.mem_cons_self, hk⟩ h
    · exact .inr h
  · rintro (rfl | h)
    · exact .inl (by simp)
    · exact .inr h

theorem missesReturns_should (kinds : List ExitKind) :
    missesReturns .should kinds = true ↔
      (∃ kind ∈ kinds, kind.givesValue = true) ∧ .plain ∈ kinds := by
  have hs := ExitTally.ofKinds_sometimes .should kinds
  have ha := ExitTally.ofKinds_always .should kinds
  simp only [ExitKind.satisfies_should] at hs
  simp only [missesReturns, Obligation.requiresValue, ExitTally.misses, Bool.true_and,
    Bool.and_eq_true, Bool.not_eq_true', ← Bool.not_eq_true, hs, ha, not_not]

/-! ### Recorded bodies -/

namespace Exit

/-- The exit gives a value: it is an implicit result that may carry one, or a written return with
one. -/
def GivesValue (exit : Exit) : Prop :=
  (exit.instruction = .maybeReturn ∧ exit.mayReturnValue = true) ∨
    (exit.instruction = .explicitReturn ∧ exit.value.isSome = true)

/-- The exit neither raises nor gives a value. -/
def IsPlain (exit : Exit) : Prop := exit.instruction ≠ .raise ∧ ¬ exit.GivesValue

theorem kind_givesValue (exit : Exit) : exit.kind.givesValue = true ↔ exit.GivesValue := by
  obtain ⟨instruction, value, mayReturnValue⟩ := exit
  cases instruction <;> cases value <;> cases mayReturnValue <;>
    simp [kind, point, traits, ExitPoint.kind, ExitTraits.kind, ExitKind.givesValue, GivesValue]

theorem kind_eq_plain (exit : Exit) : exit.kind = .plain ↔ exit.IsPlain := by
  obtain ⟨instruction, value, mayReturnValue⟩ := exit
  cases instruction <;> cases value <;> cases mayReturnValue <;>
    simp [kind, point, traits, ExitPoint.kind, ExitTraits.kind, IsPlain, GivesValue]

end Exit

namespace Body

theorem kinds_eq (body : Body) : body.kinds = body.exits.map Exit.kind := by
  rw [kinds, body.enumerates.exitKinds_eq, pure_bind, Id.run_pure, List.map_map]
  rfl

theorem misses_eq (body : Body) (obligation : Obligation) :
    body.misses obligation = missesReturns obligation (body.exits.map Exit.kind) := by
  rw [← kinds_eq, misses, bodyMisses]
  cases obligation <;> rfl

theorem misses_must (body : Body) :
    body.misses .must = true ↔ body.exits = [] ∨ ∃ exit ∈ body.exits, exit.IsPlain := by
  simp only [misses_eq, missesReturns_must, List.map_eq_nil_iff, List.mem_map, Exit.kind_eq_plain]

theorem misses_should (body : Body) :
    body.misses .should = true ↔
      (∃ exit ∈ body.exits, exit.GivesValue) ∧ ∃ exit ∈ body.exits, exit.IsPlain := by
  simp only [misses_eq, missesReturns_should, List.mem_map, exists_exists_and_eq_and,
    Exit.kind_givesValue, Exit.kind_eq_plain]

end Body

end ReturnPaths
