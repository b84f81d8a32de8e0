import ReturnPaths.Proofs.Exit.Verdict

/-!
# Verdicts on lists put together

The flags of a list of exits are those of its parts, combined flag by flag.  A verdict compares
flags, so more exits can only add to a finding, with one exception: under a hard obligation a body
without any exit misses its return, and does so no longer once an exit raises or gives a value.

* `ExitTally.combine` : the flags of two lists put together (`ExitTally.ofKinds_append`).
* `ofKinds_and_missesReturns` : the flags and the verdict, by the kinds of exits that occur.
* `missesReturns_of_sublist` : more exits keep a finding on some.
* `missesReturns_composition` : how verdicts on several lists, and under several obligations, go
  together.
-/

namespace ReturnPaths

variable {obligation : Obligation} {kinds more : List ExitKind}

/-! ### By the kinds that occur -/

theorem exists_givesValue :
    (∃ kind ∈ kinds, kind.givesValue = true) ↔
      .implicitValue ∈ kinds ∨ .explicitValue ∈ kinds := by
  constructor
  · rintro ⟨kind, hkind, hvalue⟩
    cases kind with
    | implicitValue => exact .inl hkind
    | explicitValue => exact .inr hkind
    | failure => cases hvalue
    | plain => cases hvalue
  · rintro (hkind | hkind)
    · exact ⟨_, hkind, rfl⟩
    · exact ⟨_, hkind, rfl⟩

theorem exists_satisfies :
    (∃ kind ∈ kinds, kind.satisfies obligation = true) ↔
      .implicitValue ∈ kinds ∨ .explicitValue ∈ kinds ∨
        obligation = .must ∧ .failure ∈ kinds := by
  constructor
  · rintro ⟨kind, hkind, hsatisfies⟩
    cases kind with
    | implicitValue => exact .inl hkind
    | explicitValue => exact .inr (.inl hkind)
    | failure => exact .inr (.inr ⟨of_decide_eq_true hsatisfies, hkind⟩)
    | plain => cases hsatisfies
  · rintro (hkind | hkind | ⟨hmust, hkind⟩)
    · exact ⟨_, hkind, rfl⟩
    · exact ⟨_, hkind, rfl⟩
    · exact ⟨_, hkind, decide_eq_true hmust⟩

/-- **The flags and the verdict** of every list of exits, by the kinds of exits that occur in it.
Raising counts as a return under a hard obligation alone. -/
theorem ofKinds_and_missesReturns (obligation : Obligation) (kinds : List ExitKind) :
    ((ExitTally.ofKinds obligation kinds).always = true ↔ .plain ∉ kinds) ∧
      ((ExitTally.ofKinds obligation kinds).sometimes = true ↔
        .implicitValue ∈ kinds ∨ .explicitValue ∈ kinds ∨
          obligation = .must ∧ .failure ∈ kinds) ∧
      ((ExitTally.ofKinds obligation kinds).explicit = true ↔ .explicitValue ∈ kinds) ∧
      (missesReturns .must kinds = true ↔ kinds = [] ∨ .plain ∈ kinds) ∧
      (missesReturns .should kinds = true ↔
        .plain ∈ kinds ∧ (.implicitValue ∈ kinds ∨ .explicitValue ∈ kinds)) ∧
      missesReturns .exempt kinds = false := by
  refine ⟨ExitTally.ofKinds_always obligation kinds, ?_,
    ExitTally.ofKinds_explicit obligation kinds, missesReturns_must kinds, ?_,
    missesReturns_exempt kinds⟩
  · rw [ExitTally.ofKinds_sometimes, exists_satisfies]
  · rw [missesReturns_should, exists_givesValue, and_comm]

/-- Raising alone satisfies a hard obligation, and no exit at all does not. -/
example : missesReturns .must [.failure] = false ∧ missesReturns .must [] = true := by decide

/-! ### Flags -/

namespace ExitTally

/-- The flags of two lists of exits together: a plain exit in either list, a return in either. -/
def combine (tally tally' : ExitTally) : ExitTally where
  always := tally.always && tally'.always
  sometimes := tally.sometimes || tally'.sometimes
  explicit := tally.explicit || tally'.explicit

theorem ofKinds_append (obligation : Obligation) (kinds more : List ExitKind) :
    ofKinds obligation (kinds ++ more) =
      (ofKinds obligation kinds).combine (ofKinds obligation more) := by
  have hmore : ofKinds obligation more =
      { always := !more.contains .plain
        sometimes := more.any (·.satisfies obligation)
        explicit := more.contains .explicitValue } := by
    simp only [ofKinds, foldl_add, Bool.true_and, Bool.false_or]
  rw [ofKinds, List.foldl_append, foldl_add, ← ofKinds, hmore, combine]

end ExitTally

/-! ### More exits -/

theorem missesReturns_of_sublist (hmore : kinds.Sublist more) (hne : kinds ≠ [])
    (h : missesReturns obligation kinds = true) : missesReturns obligation more = true := by
  cases obligation with
  | must =>
    rcases (missesReturns_must kinds).1 h with hnil | hplain
    · exact absurd hnil hne
    · exact (missesReturns_must more).2 (.inr (hmore.subset hplain))
  | should =>
    obtain ⟨⟨kind, hkind, hvalue⟩, hplain⟩ := (missesReturns_should kinds).1 h
    exact (missesReturns_should more).2
      ⟨⟨kind, hmore.subset hkind, hvalue⟩, hmore.subset hplain⟩
  | exempt => cases h

/-- The one finding that more exits can clear is the one on no exit under a hard obligation. -/
theorem exists_sublist_clears :
    (∃ more, kinds.Sublist more ∧ missesReturns obligation kinds = true ∧
        missesReturns obligation more = false) ↔ obligation = .must ∧ kinds = [] := by
  constructor
  · rintro ⟨more, hmore, hmisses, hclear⟩
    have hnil : kinds = [] := by
      by_contra hne
      rw [missesReturns_of_sublist hmore hne hmisses] at hclear
      cases hclear
    subst hnil
    cases obligation with
    | must => exact ⟨rfl, rfl⟩
    | should => cases hmisses
    | exempt => cases hmisses
  · rintro ⟨rfl, rfl⟩
    exact ⟨[.failure], List.nil_sublist _, rfl, rfl⟩

/-! ### Two obligations -/

theorem missesReturns_must_of_should (h : missesReturns .should kinds = true) :
    missesReturns .must kinds = true :=
  (missesReturns_must kinds).2 (.inr ((missesReturns_should kinds).1 h).2)

/-- The verdicts differ where nothing gives a value: on no exit at all, and on plain ones. -/
theorem missesReturns_should_ne_must :
    missesReturns .should kinds ≠ missesReturns .must kinds ↔
      (∀ kind ∈ kinds, kind.givesValue = false) ∧ (kinds = [] ∨ .plain ∈ kinds) := by
  have hvalue : (∀ kind ∈ kinds, kind.givesValue = false) ↔
      ¬ ∃ kind ∈ kinds, kind.givesValue = true := by simp
  rw [Ne, Bool.eq_iff_iff, missesReturns_should, missesReturns_must, hvalue]
  constructor
  · intro hdiffer
    by_cases hplain : .plain ∈ kinds
    · exact ⟨fun hgives => hdiffer (by simp [hgives, hplain]), .inr hplain⟩
    · have hnil : kinds = [] := by
        by_contra hne
        exact hdiffer (by simp [hne, hplain])
      exact ⟨by simp [hnil], .inl hnil⟩
  · rintro ⟨hnone, hmust⟩ hsame
    exact hnone (hsame.2 hmust).1

/-- **How verdicts go together.**  The flags of two lists in sequence are combined flag by flag.  A
finding on a list that is not empty stays when further exits are put in anywhere, and the finding on
no exit under a hard obligation is the only one that can be cleared so.  What the soft obligation
finds is also found under the hard one, and the two verdicts differ exactly where no exit gives a
value and there is none at all or a plain one. -/
theorem missesReturns_composition (obligation : Obligation) (kinds more : List ExitKind) :
    ExitTally.ofKinds obligation (kinds ++ more) =
        (ExitTally.ofKinds obligation kinds).combine (ExitTally.ofKinds obligation more) ∧
      (kinds ≠ [] → missesReturns obligation kinds = true →
        ∀ longer, kinds.Sublist longer → missesReturns obligation longer = true) ∧
      ((∃ longer, kinds.Sublist longer ∧ missesReturns obligation kinds = true ∧
        missesReturns obligation longer = false) ↔ obligation = .must ∧ kinds = []) ∧
      (missesReturns .should kinds = true → missesReturns .must kinds = true) ∧
      (missesReturns .should kinds ≠ missesReturns .must kinds ↔
        (∀ kind ∈ kinds, kind ≠ .implicitValue ∧ kind ≠ .explicitValue) ∧
          (kinds = [] ∨ .plain ∈ kinds)) := by
  have hvalue : (∀ kind ∈ kinds, kind ≠ .implicitValue ∧ kind ≠ .explicitValue) ↔
      ∀ kind ∈ kinds, kind.givesValue = false := by
    refine forall₂_congr fun kind _ => ?_
    cases kind <;> decide
  refine ⟨ExitTally.ofKinds_append obligation kinds more,
    fun hne h longer hlonger => missesReturns_of_sublist hlonger hne h, exists_sublist_clears,
    missesReturns_must_of_should, ?_⟩
  rw [hvalue, missesReturns_should_ne_must]

theorem missesReturns_composition_raising :
    let kinds : List ExitKind := [.explicitValue, .plain]
    let longer : List ExitKind := [.explicitValue, .failure, .plain]
    kinds ≠ [] ∧ missesReturns .should kinds = true ∧ kinds.Sublist longer ∧
      missesReturns .should longer = true ∧ missesReturns .must kinds = true := by
  intro kinds longer
  obtain ⟨-, hkeeps, -, himplies, -⟩ := missesReturns_composition .should kinds [.failure]
  have hne : kinds ≠ [] := List.cons_ne_nil _ _
  have hmisses : missesReturns .should kinds = true := by decide
  have hlonger : kinds.Sublist longer := by decide
  exact ⟨hne, hmisses, hlonger, hkeeps hne hmisses longer hlonger, himplies hmisses⟩

end ReturnPaths
