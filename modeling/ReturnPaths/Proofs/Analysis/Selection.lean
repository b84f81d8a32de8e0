import ReturnPaths.Proofs.Check.Enabled

/-!
# Selecting checks again and again

The checks of an analyzer can be selected any number of times.  A call with an identifier that is
not registered is refused and changes nothing, so the selection in force is that of the last call
that was accepted, and it never contains an identifier that is not registered.

* `Analyzer.reselectAll` : calls one after the other.
* `Registry.Answers` : the answer to a call.
* `Registry.InForce` : the selection in force after some calls.
* `Analyzer.reselectAll_exact` : what a sequence of calls answers and leaves behind.
-/

namespace ReturnPaths

namespace Registry

/-! ### Answers -/

variable {registry : Registry} {before ids selected : List String} {calls : List (List String)}

/-- The answer to a call: the first identifier that is not registered is an error. -/
inductive Answers (registry : Registry) : List String → Except AnalysisError Unit → Prop where
  /-- All identifiers are registered. -/
  | accepted {ids : List String} (hids : ids ⊆ registry.ids) : Answers registry ids (.ok ())
  /-- Some identifier is not registered, and those in front of it are. -/
  | refused {front : List String} {id : String} {rest : List String}
      (hfront : front ⊆ registry.ids) (hid : id ∉ registry.ids) :
      Answers registry (front ++ id :: rest) (.error (.unknownCheck id))

theorem Answers.eq_ok_iff {answer : Except AnalysisError Unit} (h : registry.Answers ids answer) :
    answer = .ok () ↔ ids ⊆ registry.ids := by
  cases h with
  | accepted hids => exact iff_of_true rfl hids
  | refused hfront hid => exact iff_of_false nofun fun hids => hid (hids (by simp))

theorem isSome_find? {id : String} : (registry.find? id).isSome = true ↔ id ∈ registry.ids := by
  simp [find?, ids]

theorem isNone_find? {id : String} : (registry.find? id).isNone = true ↔ id ∉ registry.ids := by
  simp [find?, ids]

/-! ### The selection in force -/

/-- The selection in force after some calls, if there was one before. -/
inductive InForce (registry : Registry) (before : List String) (calls : List (List String)) :
    List String → Prop where
  /-- All calls were refused. -/
  | before (hcalls : ∀ ids ∈ calls, ¬ ids ⊆ registry.ids) : InForce registry before calls before
  /-- This call was accepted, and all later ones were refused. -/
  | last (earlier : List (List String)) {ids : List String} {later : List (List String)}
      (hcalls : calls = earlier ++ ids :: later) (hids : ids ⊆ registry.ids)
      (hlater : ∀ ids ∈ later, ¬ ids ⊆ registry.ids) : InForce registry before calls ids

theorem InForce.cons_accepted (hids : ids ⊆ registry.ids)
    (h : registry.InForce ids calls selected) :
    registry.InForce before (ids :: calls) selected := by
  cases h with
  | before hcalls => exact .last [] rfl hids hcalls
  | last earlier hcalls hselected hlater =>
    exact .last (ids :: earlier) (congrArg (ids :: ·) hcalls) hselected hlater

theorem InForce.cons_refused (hids : ¬ ids ⊆ registry.ids)
    (h : registry.InForce before calls selected) :
    registry.InForce before (ids :: calls) selected := by
  cases h with
  | before hcalls => exact .before (List.forall_mem_cons.2 ⟨hids, hcalls⟩)
  | last earlier hcalls hselected hlater =>
    exact .last (ids :: earlier) (congrArg (ids :: ·) hcalls) hselected hlater

/-- A selection of registered identifiers stays one. -/
theorem InForce.subset (h : registry.InForce before calls selected)
    (hbefore : before ⊆ registry.ids) : selected ⊆ registry.ids := by
  cases h with
  | before => exact hbefore
  | last _ _ hids => exact hids

/-- What is selected and registered runs. -/
theorem exists_enabled (config : Config) (hne : selected ≠ [])
    (hselected : selected ⊆ registry.ids) :
    ∃ check ∈ registry.enabled config selected, check.id ∈ selected := by
  obtain ⟨id, rest, rfl⟩ := List.exists_cons_of_ne_nil hne
  obtain ⟨check, hcheck, rfl⟩ := List.mem_map.1 (hselected List.mem_cons_self)
  exact ⟨check, mem_enabled.2 ⟨hcheck, .selected List.mem_cons_self⟩, List.mem_cons_self⟩

end Registry

namespace Analyzer

/-! ### One call -/

/-- Selects checks in place; the analyzer is left as it is if this fails. -/
def reselect (ids : List String) : StateM Analyzer (Except AnalysisError Unit) := do
  match (← get).select ids with
  | .ok analyzer =>
    set analyzer
    return .ok ()
  | .error error => return .error error

theorem select_cases (analyzer : Analyzer) (ids : List String) :
    (ids ⊆ analyzer.registry.ids ∧ analyzer.select ids = .ok { analyzer with selected := ids }) ∨
      ∃ front id rest, ids = front ++ id :: rest ∧ front ⊆ analyzer.registry.ids ∧
        id ∉ analyzer.registry.ids ∧ analyzer.select ids = .error (.unknownCheck id) := by
  rw [select]
  cases hunknown : ids.find? fun id => (analyzer.registry.find? id).isNone with
  | none =>
    refine .inl ⟨fun id hid => ?_, rfl⟩
    have hknown := List.find?_eq_none.1 hunknown id hid
    rwa [Registry.isNone_find?, not_not] at hknown
  | some id =>
    obtain ⟨hid, front, rest, hids, hfront⟩ := List.find?_eq_some_iff_append.1 hunknown
    refine .inr ⟨front, id, rest, hids, fun other hother => ?_, Registry.isNone_find?.1 hid, rfl⟩
    have hknown := hfront other hother
    rwa [Bool.not_eq_true', ← Bool.not_eq_true, Registry.isNone_find?, not_not] at hknown

/-- A call is answered, and changes the selection exactly if it is accepted. -/
theorem run_reselect (analyzer : Analyzer) (ids : List String) :
    ∃ answer, analyzer.registry.Answers ids answer ∧ (reselect ids).run analyzer =
      (answer, if ids ⊆ analyzer.registry.ids then { analyzer with selected := ids }
        else analyzer) := by
  have hrun : (reselect ids).run analyzer =
      match analyzer.select ids with
      | .ok next => (.ok (), next)
      | .error error => (.error error, analyzer) := by
    rw [reselect]
    simp only [StateT.run_bind, StateT.run_get, pure_bind]
    cases analyzer.select ids <;> rfl
  rcases analyzer.select_cases ids with
    ⟨hids, hselect⟩ | ⟨front, id, rest, rfl, hfront, hid, hselect⟩
  · refine ⟨_, .accepted hids, ?_⟩
    rw [hrun, hselect, if_pos hids]
  · refine ⟨_, .refused hfront hid, ?_⟩
    rw [hrun, hselect, if_neg fun hids => hid (hids (by simp))]

/-! ### All calls -/

/-- Selects checks again and again, and gives the answers. -/
def reselectAll : List (List String) → StateM Analyzer (List (Except AnalysisError Unit))
  | [] => return []
  | ids :: calls => do
    let answer ← reselect ids
    return answer :: (← reselectAll calls)

variable {analyzer : Analyzer}

theorem run_reselectAll_cons {ids : List String} {answer : Except AnalysisError Unit}
    {next : Analyzer} (h : (reselect ids).run analyzer = (answer, next))
    (calls : List (List String)) : (reselectAll (ids :: calls)).run analyzer =
      (answer :: ((reselectAll calls).run next).1, ((reselectAll calls).run next).2) := by
  rw [reselectAll]
  simp only [StateT.run_bind, h]
  rfl

theorem run_reselectAll_append (analyzer : Analyzer) (calls calls' : List (List String)) :
    ((reselectAll (calls ++ calls')).run analyzer).2 =
      ((reselectAll calls').run ((reselectAll calls).run analyzer).2).2 := by
  induction calls generalizing analyzer with
  | nil => rfl
  | cons ids calls ih =>
    obtain ⟨answer, -, hrun⟩ := analyzer.run_reselect ids
    rw [List.cons_append, run_reselectAll_cons hrun, run_reselectAll_cons hrun, ih]

/-- Calls change nothing but the selection, to that of the last one that was accepted. -/
theorem run_reselectAll (analyzer : Analyzer) (calls : List (List String)) :
    ∃ answers selected,
      (reselectAll calls).run analyzer = (answers, { analyzer with selected }) ∧
        List.Forall₂ analyzer.registry.Answers calls answers ∧
        analyzer.registry.InForce analyzer.selected calls selected := by
  induction calls generalizing analyzer with
  | nil => exact ⟨[], analyzer.selected, rfl, .nil, .before nofun⟩
  | cons ids calls ih =>
    obtain ⟨answer, hanswer, hrun⟩ := analyzer.run_reselect ids
    rw [run_reselectAll_cons hrun]
    by_cases hids : ids ⊆ analyzer.registry.ids
    · rw [if_pos hids]
      obtain ⟨answers, selected, hcalls, hanswers, hforce⟩ := ih { analyzer with selected := ids }
      rw [hcalls]
      exact ⟨_, selected, rfl, .cons hanswer hanswers, hforce.cons_accepted hids⟩
    · rw [if_neg hids]
      obtain ⟨answers, selected, hcalls, hanswers, hforce⟩ := ih analyzer
      rw [hcalls]
      exact ⟨_, selected, rfl, .cons hanswer hanswers, hforce.cons_refused hids⟩

/-- A call that is refused could as well not have been made. -/
theorem run_reselectAll_refused {ids : List String} (hids : ¬ ids ⊆ analyzer.registry.ids)
    (earlier later : List (List String)) :
    ((reselectAll (earlier ++ ids :: later)).run analyzer).2 =
      ((reselectAll (earlier ++ later)).run analyzer).2 := by
  obtain ⟨answers, selected, hearlier, -, -⟩ := analyzer.run_reselectAll earlier
  obtain ⟨answer, -, hrun⟩ := run_reselect { analyzer with selected } ids
  -- after the earlier calls the registry is still the one that refuses this call
  rw [if_neg hids] at hrun
  rw [run_reselectAll_append, run_reselectAll_append, hearlier, run_reselectAll_cons hrun]

theorem infix_flatMap {α β : Type} {a : α} {as : List α} (ha : a ∈ as) (f : α → List β) :
    f a <:+: as.flatMap f := by
  obtain ⟨front, back, rfl⟩ := List.append_of_mem ha
  exact ⟨front.flatMap f, back.flatMap f, by simp⟩

/-- What an enabled check finds in a unit is among the findings. -/
theorem infix_examine {check : Check} (hcheck : check ∈ analyzer.enabled) (unit : FlowUnit) :
    (check.run unit unit.file).issues <:+: (analyzer.analyzeUnit unit).toList ∧
      (check.run unit unit.file).events <:+: (analyzer.examine unit).events :=
  ⟨infix_flatMap hcheck fun check => (check.run unit unit.file).issues,
    infix_flatMap hcheck fun check => (check.run unit unit.file).events⟩

/-- **Selecting checks again and again** on a new analyzer, with any configuration.  Each call is
accepted if all its identifiers are registered, and else complains about the first one that is not.
A call that is refused could as well not have been made, so the checks that run and the issues of
every unit stay as they were, also after later calls.  In the end nothing but the selection has
changed; it is that of the last call that was accepted, and there is none if all calls were
refused.  If there is one it contains registered identifiers only, and some selected check looks at
every unit. -/
theorem reselectAll_exact (config : Config) (registry : Registry) (calls : List (List String)) :
    ∃ answers selected, (reselectAll calls).run { config, registry } =
        (answers, { config, registry, selected }) ∧
      List.Forall₂ (fun ids answer => registry.Answers ids answer ∧
        (answer = .ok () ↔ ids ⊆ registry.ids)) calls answers ∧
      (∀ earlier ids later, calls = earlier ++ ids :: later → ¬ ids ⊆ registry.ids →
        ((reselectAll (earlier ++ later)).run { config, registry }).2 =
          { config, registry, selected }) ∧
      registry.InForce [] calls selected ∧
      (selected ≠ [] → selected ⊆ registry.ids ∧
        ∃ check ∈ enabled { config, registry, selected }, check.id ∈ selected ∧ ∀ unit,
          (check.run unit unit.file).issues <:+:
            (analyzeUnit { config, registry, selected } unit).toList ∧
          (check.run unit unit.file).events <:+:
            (examine { config, registry, selected } unit).events) := by
  obtain ⟨answers, selected, hrun, hanswers, hforce⟩ := run_reselectAll { config, registry } calls
  refine ⟨answers, selected, hrun, hanswers.imp fun ids answer h => ⟨h, h.eq_ok_iff⟩, ?_, hforce,
    fun hne => ?_⟩
  · rintro earlier ids later rfl hids
    rw [← run_reselectAll_refused hids, hrun]
  · have hselected : selected ⊆ registry.ids := hforce.subset (List.nil_subset _)
    obtain ⟨check, hcheck, hid⟩ := registry.exists_enabled config hne hselected
    exact ⟨hselected, check, hcheck, hid, infix_examine hcheck⟩

/-- No checks, the check for missing returns, and then one that does not exist in front of it. -/
theorem reselectAll_exact_mixed :
    let calls := [[], ["return.missing"], ["nope", "return.missing"]]
    let last : Analyzer := { selected := ["return.missing"] }
    (reselectAll calls).run {} = ([.ok (), .ok (), .error (.unknownCheck "nope")], last) ∧
      ¬ ["nope", "return.missing"] ⊆ Registry.builtin.ids ∧
      ((reselectAll ([[], ["return.missing"]] ++ [])).run {}).2 = last ∧
      ["return.missing"] ≠ [] ∧ ["return.missing"] ⊆ Registry.builtin.ids ∧
      ∃ check ∈ last.enabled, check.id ∈ ["return.missing"] ∧ ∀ unit,
        (check.run unit unit.file).issues <:+: (last.analyzeUnit unit).toList ∧
          (check.run unit unit.file).events <:+: (last.examine unit).events := by
  intro calls last
  have hcalls : (reselectAll calls).run {} =
      ([.ok (), .ok (), .error (.unknownCheck "nope")], last) := rfl
  have hnope : ¬ ["nope", "return.missing"] ⊆ Registry.builtin.ids := by decide
  obtain ⟨answers, selected, hrun, -, hrefused, -, hselected⟩ :=
    reselectAll_exact {} Registry.builtin calls
  obtain ⟨-, hlast⟩ := Prod.mk.inj (hrun.symm.trans hcalls)
  obtain rfl : selected = ["return.missing"] := congrArg Analyzer.selected hlast
  exact ⟨hcalls, hnope, hrefused [[], ["return.missing"]] _ [] rfl hnope, List.cons_ne_nil _ _,
    hselected (List.cons_ne_nil _ _)⟩

end Analyzer

end ReturnPaths
