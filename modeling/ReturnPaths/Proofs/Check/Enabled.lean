import ReturnPaths.Analysis.Analyzer
import Mathlib.Data.List.FinRange

/-!
# Which checks run

The checks that run are picked out of the registry where they stand, so they keep the order of
their registration, and a registration is never picked twice, even if identifiers repeat.  Whether
a registration is picked depends on its own identifier and default alone, and on which of the
registered identifiers the lists in question contain.

* `Registry.Runs` : when a check runs.
* `Registry.NamesSame` : two lists contain the same registered identifiers.
* `Registry.enabled_exact` : the checks that run, for every sequence of registrations.
-/

namespace ReturnPaths

/-! ### Registrations -/

namespace Registry

/-- The registry after some checks were registered, one after the other. -/
def ofChecks (checks : List Check) : Registry := checks.foldl register {}

theorem checks_foldl_register (registry : Registry) (checks : List Check) :
    (checks.foldl register registry).checks = registry.checks ++ checks := by
  induction checks generalizing registry with
  | nil => simp
  | cons check checks ih => rw [List.foldl_cons, ih, register, List.append_assoc]; rfl

@[simp] theorem checks_ofChecks (checks : List Check) : (ofChecks checks).checks = checks :=
  checks_foldl_register {} checks

/-! ### When a check runs -/

/-- When a check runs, under a configuration and a list of selected identifiers. -/
inductive Runs (config : Config) (selected : List String) (check : Check) : Prop where
  /-- It is selected. -/
  | selected (hselected : check.id ∈ selected)
  /-- Nothing is selected, it is in the allow-list, and it is not disabled. -/
  | allowed {ids : List String} (hnone : selected = []) (hallowed : config.enabled = some ids)
      (hid : check.id ∈ ids) (hdisabled : check.id ∉ config.disabled)
  /-- Nothing is selected and there is no allow-list; it runs by default, and is not disabled. -/
  | standard (hnone : selected = []) (hallowed : config.enabled = none)
      (hdefault : check.enabledByDefault = true) (hdisabled : check.id ∉ config.disabled)

variable {registry : Registry} {config config' : Config} {selected selected' : List String}
  {check : Check}

theorem runs_of_selected (hne : selected ≠ []) :
    Runs config selected check ↔ check.id ∈ selected := by
  constructor
  · intro h
    cases h with
    | selected hselected => exact hselected
    | allowed hnone => exact absurd hnone hne
    | standard hnone => exact absurd hnone hne
  · exact .selected

theorem runs_nil : Runs config [] check ↔ allows config check = true := by
  rw [allows, Bool.and_eq_true, Bool.not_eq_true', List.contains_eq_mem, decide_eq_false_iff_not]
  constructor
  · intro h
    cases h with
    | selected hselected => cases hselected
    | allowed _ hallowed hid hdisabled => exact ⟨by simpa [hallowed] using hid, hdisabled⟩
    | standard _ hallowed hdefault hdisabled =>
      exact ⟨by simpa [hallowed] using hdefault, hdisabled⟩
  · rintro ⟨hwanted, hdisabled⟩
    cases hallowed : config.enabled with
    | none => exact .standard rfl hallowed (by simpa [hallowed] using hwanted) hdisabled
    | some ids => exact .allowed rfl hallowed (by simpa [hallowed] using hwanted) hdisabled

instance (config : Config) (selected : List String) (check : Check) :
    Decidable (Runs config selected check) :=
  if h : selected = [] then
    decidable_of_iff (allows config check = true) (h ▸ runs_nil.symm)
  else decidable_of_iff (check.id ∈ selected) (runs_of_selected h).symm

theorem enabled_eq (registry : Registry) (config : Config) (selected : List String) :
    registry.enabled config selected =
      registry.checks.filter fun check => decide (Runs config selected check) := by
  rw [enabled]
  split
  · rename_i hnone
    obtain rfl : selected = [] := List.isEmpty_iff.1 hnone
    refine List.filter_congr fun check _ => ?_
    rw [Bool.eq_iff_iff, decide_eq_true_iff, runs_nil]
  · rename_i hne
    refine List.filter_congr fun check _ => ?_
    rw [Bool.eq_iff_iff, decide_eq_true_iff, runs_of_selected (mt List.isEmpty_iff.2 hne),
      List.contains_eq_mem, decide_eq_true_iff]

theorem mem_enabled :
    check ∈ registry.enabled config selected ↔
      check ∈ registry.checks ∧ Runs config selected check := by
  rw [enabled_eq, List.mem_filter, decide_eq_true_iff]

theorem enabled_congr
    (h : ∀ check ∈ registry.checks, Runs config selected check ↔ Runs config' selected' check) :
    registry.enabled config selected = registry.enabled config' selected' := by
  rw [enabled_eq, enabled_eq]
  exact List.filter_congr fun check hcheck => decide_eq_decide.2 (h check hcheck)

/-- The checks that run, by the places where they were registered, and what they find. -/
theorem exists_places (registered : List Check) (config : Config) (selected : List String) :
    ∃ places : List (Fin registered.length), places.Pairwise (· < ·) ∧
      (∀ place, place ∈ places ↔ Runs config selected (registered.get place)) ∧
      (ofChecks registered).enabled config selected = places.map registered.get ∧
      ∀ unit file, ((ofChecks registered).run config selected unit file).issues =
        places.flatMap fun place => ((registered.get place).run unit file).issues := by
  have hplaces : (ofChecks registered).enabled config selected =
      ((List.finRange registered.length).filter fun place =>
        decide (Runs config selected (registered.get place))).map registered.get := by
    rw [enabled_eq, checks_ofChecks]
    conv_lhs => rw [← List.map_get_finRange registered, List.filter_map]
    rfl
  refine ⟨_, (List.pairwise_lt_finRange _).filter _, fun place => ?_, hplaces, fun unit file => ?_⟩
  · rw [List.mem_filter, decide_eq_true_iff]
    exact and_iff_right (List.mem_finRange place)
  · rw [run, Findings.collect, hplaces, List.flatMap_map]

/-! ### Lists of identifiers -/

/-- Two lists contain the same identifiers of registered checks.  So it is when one is the other in
another order, with repetitions, or with identifiers that are not registered. -/
def NamesSame (registry : Registry) (ids ids' : List String) : Prop :=
  ∀ id ∈ registry.ids, id ∈ ids ↔ id ∈ ids'

instance (registry : Registry) (ids ids' : List String) :
    Decidable (registry.NamesSame ids ids') :=
  inferInstanceAs (Decidable (∀ id ∈ registry.ids, id ∈ ids ↔ id ∈ ids'))

theorem NamesSame.mem_iff {ids ids' : List String} (h : registry.NamesSame ids ids')
    (hcheck : check ∈ registry.checks) : check.id ∈ ids ↔ check.id ∈ ids' :=
  h check.id (List.mem_map_of_mem hcheck)

theorem NamesSame.contains_eq {ids ids' : List String} (h : registry.NamesSame ids ids')
    (hcheck : check ∈ registry.checks) : ids.contains check.id = ids'.contains check.id := by
  rw [List.contains_eq_mem, List.contains_eq_mem, decide_eq_decide]
  exact h.mem_iff hcheck

/-- A selection wins over every configuration. -/
theorem enabled_of_selected (config config' : Config) (hne : selected ≠ []) (hne' : selected' ≠ [])
    (h : registry.NamesSame selected selected') :
    registry.enabled config selected = registry.enabled config' selected' :=
  enabled_congr fun check hcheck => by
    rw [runs_of_selected hne, runs_of_selected hne', h.mem_iff hcheck]

theorem allows_congr (henabled : Option.Rel registry.NamesSame config.enabled config'.enabled)
    (hdisabled : registry.NamesSame config.disabled config'.disabled)
    (hcheck : check ∈ registry.checks) : allows config check = allows config' check := by
  obtain ⟨enabled, disabled, exclude, format⟩ := config
  obtain ⟨enabled', disabled', exclude', format'⟩ := config'
  rw [allows, allows, hdisabled.contains_eq hcheck]
  cases henabled with
  | none => rfl
  | some hids => simp only [hids.contains_eq hcheck]

/-- Of the lists of a configuration only the registered identifiers in them count. -/
theorem enabled_of_lists (henabled : Option.Rel registry.NamesSame config.enabled config'.enabled)
    (hdisabled : registry.NamesSame config.disabled config'.disabled) (selected : List String) :
    registry.enabled config selected = registry.enabled config' selected := by
  by_cases hne : selected = []
  · subst hne
    refine enabled_congr fun check hcheck => ?_
    rw [runs_nil, runs_nil, allows_congr henabled hdisabled hcheck]
  · exact enabled_of_selected config config' hne hne fun _ _ => Iff.rfl

/-- A check that runs although more is disabled runs if less is disabled. -/
theorem Runs.of_subset {disabled : List String} (hdisabled : config.disabled ⊆ disabled)
    (h : Runs { config with disabled } selected check) : Runs config selected check := by
  cases h with
  | selected hselected => exact .selected hselected
  | allowed hnone hallowed hid hnot => exact .allowed hnone hallowed hid (mt (@hdisabled _) hnot)
  | standard hnone hallowed hdefault hnot =>
    exact .standard hnone hallowed hdefault (mt (@hdisabled _) hnot)

/-- Disabling more only removes checks. -/
theorem enabled_disabled_sublist (registry : Registry) (selected : List String)
    {disabled : List String} (hdisabled : config.disabled ⊆ disabled) :
    (registry.enabled { config with disabled } selected).Sublist
      (registry.enabled config selected) := by
  rw [enabled_eq, enabled_eq]
  refine List.monotone_filter_right _ fun check hruns => ?_
  exact decide_eq_true (Runs.of_subset hdisabled (of_decide_eq_true hruns))

/-! ### All together -/

/-- **Which checks run.**  After any sequence of registrations, under every configuration and
selection:

* the checks that run stand at increasing places of the registry, which are the places of the
  registrations that are to run, and what is found in a unit is what the checks at these places
  find, one after the other;
* of a selection only the registered identifiers in it count, and the configuration does not;
* so it is with the allow-list and the list of disabled checks of a configuration, and disabling
  more only removes checks;
* one more registration keeps the checks that ran before, in front of the new one. -/
theorem enabled_exact (registered : List Check) (config : Config) (selected : List String) :
    (∃ places : List (Fin registered.length), places.Pairwise (· < ·) ∧
        (∀ place, place ∈ places ↔ Runs config selected (registered.get place)) ∧
        (ofChecks registered).enabled config selected = places.map registered.get ∧
        (∀ unit file, ((ofChecks registered).run config selected unit file).issues =
          places.flatMap fun place => ((registered.get place).run unit file).issues) ∧
        ∀ unit, (Analyzer.analyzeUnit ⟨config, ofChecks registered, selected⟩ unit).toList =
          places.flatMap fun place => ((registered.get place).run unit unit.file).issues) ∧
      (∀ config' selected', selected ≠ [] → selected' ≠ [] →
        (ofChecks registered).NamesSame selected selected' →
        (ofChecks registered).enabled config' selected' =
          (ofChecks registered).enabled config selected) ∧
      (∀ config', Option.Rel (ofChecks registered).NamesSame config.enabled config'.enabled →
        (ofChecks registered).NamesSame config.disabled config'.disabled →
        (ofChecks registered).enabled config' selected =
          (ofChecks registered).enabled config selected) ∧
      (∀ disabled, config.disabled ⊆ disabled →
        ((ofChecks registered).enabled { config with disabled } selected).Sublist
          ((ofChecks registered).enabled config selected)) ∧
      ∀ check, (ofChecks registered).enabled config selected <+:
        (ofChecks (registered ++ [check])).enabled config selected := by
  obtain ⟨places, hincreasing, hmem, hplaces, hfound⟩ := exists_places registered config selected
  refine ⟨⟨places, hincreasing, hmem, hplaces, hfound, fun unit => hfound unit unit.file⟩,
    fun config' selected' hne hne' h => ?_, fun config' henabled hdisabled => ?_,
    fun disabled => ?_, fun check => ?_⟩
  · exact (enabled_of_selected config config' hne hne' h).symm
  · exact (enabled_of_lists henabled hdisabled selected).symm
  · exact enabled_disabled_sublist _ selected
  · rw [enabled_eq, enabled_eq, checks_ofChecks, checks_ofChecks, List.filter_append]
    exact List.prefix_append _ _

/-- Two checks of one name, of which one runs by default, and another one between them. -/
theorem enabled_exact_repeated :
    let named (id : String) (enabledByDefault : Bool) : Check :=
      ⟨id, "", "", "", [], enabledByDefault, fun _ _ => {}⟩
    let registered := [named "a" true, named "b" false, named "a" false]
    let registry := ofChecks registered
    let config : Config := { enabled := some ["b", "a"], disabled := ["b"] }
    let config' : Config := { enabled := some ["a", "x", "b", "a"], disabled := ["x", "b", "b"] }
    registry.NamesSame ["b", "a"] ["a", "x", "b", "a"] ∧
      Option.Rel registry.NamesSame config.enabled config'.enabled ∧
      registry.NamesSame config.disabled config'.disabled ∧ config.disabled ⊆ ["b", "a"] ∧
      registry.enabled config' ["a", "x", "b", "a"] = registry.enabled config ["b", "a"] ∧
      (registry.enabled config ["b", "a"]).map (·.id) = ["a", "b", "a"] ∧
      registry.enabled config' [] = registry.enabled config [] ∧
      (registry.enabled config []).map (·.id) = ["a", "a"] ∧
      (registry.enabled { config with disabled := ["b", "a"] } []).Sublist
        (registry.enabled config []) := by
  intro named registered registry config config'
  obtain ⟨-, hselected, -, -, -⟩ := enabled_exact registered config ["b", "a"]
  obtain ⟨-, -, hlists, hdisabled, -⟩ := enabled_exact registered config []
  have hnames : registry.NamesSame ["b", "a"] ["a", "x", "b", "a"] := by decide
  have hnot : registry.NamesSame config.disabled config'.disabled := by decide
  have hmore : config.disabled ⊆ ["b", "a"] := by decide
  exact ⟨hnames, .some hnames, hnot, hmore,
    hselected config' _ (List.cons_ne_nil _ _) (List.cons_ne_nil _ _) hnames, rfl,
    hlists config' (.some hnames) hnot, rfl, hdisabled _ hmore⟩

end Registry

end ReturnPaths
