import ReturnPaths.FlowUnit.Basic
import ReturnPaths.Proofs.Exit.Visiting

/-!
# Enumerating the exits of a body

A body hands its exit points to any visitor, in order, until the visitor stops, and may do something
of its own with what it hands out, such as counting it.  The analysis sees of a body only what its
visitor is handed, so its result, and what the body does meanwhile, follow from the list of exit
points alone.

* `ExitOwner.Enumerates` : a body enumerates a list of exit points.
* `Body.enumerates`, `CountedExits.enumerates` : recorded bodies do, and bodies that count.
* `ExitOwner.Enumerates.exitKinds_eq`, `ExitOwner.Enumerates.bodyMisses_eq` : what the analysis
  makes of the list.
* `Observed` : a body under observation, which shows how much of the list is handed out.
* `visitExits_and_bodyMisses` : the visitors of a recorded body, and the analysis of any body that
  enumerates its exit points.
-/

namespace ReturnPaths

/-! ### Bodies that enumerate a list -/

section

variable {m : Type → Type} [Monad m] {β ν : Type} [ExitOwner m β ν]

/-- The body hands these exit points to every visitor, in order, until the visitor stops.  `effect`
is what the body does itself with the points it hands out: nothing, or counting them. -/
def ExitOwner.Enumerates (body : β) (points : List (ExitPoint ν))
    (effect : List (ExitPoint ν) → m Unit) : Prop :=
  ∀ ⦃σ : Type⦄ (visitor : σ → ExitPoint ν → σ × Visit) (state : σ),
    ∃ calls, Visited visitor state points calls ∧
      visitExits body visitor state = (do effect calls; return stateAfter visitor state calls)

namespace ExitOwner.Enumerates

variable [LawfulMonad m] {body : β} {points : List (ExitPoint ν)}
  {effect : List (ExitPoint ν) → m Unit}

theorem exitKinds_eq (h : Enumerates body points effect) :
    exitKinds body = (do effect points; return points.map ExitPoint.kind) := by
  obtain ⟨calls, hcalls, hvisit⟩ :=
    h (fun (kinds : Array ExitKind) point => (kinds.push point.kind, .next)) #[]
  obtain rfl : calls = points := hcalls.eq_of_next fun _ _ => rfl
  rw [exitKinds, hvisit]
  simp [stateAfter]

theorem bodyMisses_eq (h : Enumerates body points effect) (obligation : Obligation) :
    bodyMisses body obligation = (do
      if obligation.requiresValue then effect points
      return missesReturns obligation (points.map ExitPoint.kind)) := by
  cases hrequires : obligation.requiresValue with
  | true => simp [bodyMisses, hrequires, h.exitKinds_eq]
  | false => simp [bodyMisses, hrequires, missesReturns]

end ExitOwner.Enumerates

end

/-! ### Recorded bodies and bodies that count -/

theorem Body.visitExits_eq {σ : Type} (body : Body)
    (visitor : σ → Exit × Option String → σ × Visit) (state : σ) :
    body.visitExits visitor state =
      visitAll visitor state (body.exits.map fun exit => (exit, exit.value)) :=
  (visitAll_map visitor _ state body.exits).symm

theorem Body.enumerates {m : Type → Type} [Monad m] [LawfulMonad m] (body : Body) :
    ExitOwner.Enumerates (m := m) body (body.exits.map Exit.point) fun _ => pure () := by
  intro σ visitor state
  refine ⟨_, visited_spec visitor state _, ?_⟩
  rw [← visitAll_eq, visitAll_map, pure_bind]
  rfl

/-- A body that counts does so for each point that it hands out. -/
theorem CountedExits.enumerates {ν : Type} (points : List (ExitPoint ν)) :
    ExitOwner.Enumerates (m := StateM Nat) (⟨points⟩ : CountedExits ν) points fun calls =>
      modify (· + calls.length) := by
  intro σ visitor state
  refine ⟨_, visited_spec visitor state _, ?_⟩
  funext count
  calc visitAll (recording visitor fun count _ => count + 1) (state, count) points
      = (visitAll visitor state points,
          (visited visitor state points).foldl (fun count _ => count + 1) count) :=
        visitAll_recording visitor _ state count points
    _ = (stateAfter visitor state (visited visitor state points),
          count + (visited visitor state points).length) := by
        rw [visitAll_eq, List.foldl_add_const, Nat.one_mul]

/-! ### Bodies under observation -/

/-- A body under observation: the exit points that it hands out are put on record. -/
structure Observed (β : Type) where
  /-- The body. -/
  body : β

instance {m : Type → Type} {β ν : Type} [ExitOwner m β ν] :
    ExitOwner (StateT (List (ExitPoint ν)) m) (Observed β) ν where
  visitExits observed visitor state := fun record =>
    ExitOwner.visitExits observed.body (noting visitor) (state, record)

section

variable {m : Type → Type} [Monad m] [LawfulMonad m] {β ν : Type} [ExitOwner m β ν] {body : β}
  {points : List (ExitPoint ν)} {effect : List (ExitPoint ν) → m Unit}

theorem Observed.enumerates (h : ExitOwner.Enumerates body points effect) :
    ExitOwner.Enumerates (m := StateT (List (ExitPoint ν)) m) (⟨body⟩ : Observed β) points
      (fun calls => do monadLift (effect calls); modify (· ++ calls)) := by
  intro σ visitor state
  refine ⟨_, visited_spec visitor state points, StateT.ext fun record => ?_⟩
  -- what is handed out does not depend on what is already on record
  obtain ⟨calls, hcalls, hvisit⟩ := h (noting visitor) (state, record)
  have heq : calls = visited visitor state points :=
    (hcalls.unique (visited_spec _ _ points)).trans visited_recording
  subst heq
  refine hvisit.trans ?_
  rw [stateAfter_noting]
  simp

/-- To find the verdict, every exit point is handed out once, or none. -/
theorem Observed.run_bodyMisses (h : ExitOwner.Enumerates body points effect)
    (obligation : Obligation) :
    (bodyMisses (⟨body⟩ : Observed β) obligation : StateT (List (ExitPoint ν)) m Bool).run [] =
      (fun misses => (misses, if obligation.requiresValue then points else [])) <$>
        bodyMisses body obligation := by
  rw [(Observed.enumerates h).bodyMisses_eq, h.bodyMisses_eq]
  cases hrequires : obligation.requiresValue with
  | true => simp
  | false => simp

end

/-! ### Enumeration and verdict -/

/-- **Enumeration obeys the visitor.**  A recorded body hands its exits to a visitor in order, each
together with its own value: the shortest front at whose end the visitor stops, or all exits if it
never stops, as a visitor that notes them down will find.  For every body that enumerates its exit
points in this way, the kinds are those of the exit points, one for each in order, and the verdict
is the one on these kinds.  To find it, every exit point is handed out once if the obligation asks
for a value, and none otherwise. -/
theorem visitExits_and_bodyMisses :
    (∀ (body : Body) {σ : Type} (visitor : σ → Exit × Option String → σ × Visit) (state : σ),
      ∃ calls, Visited visitor state (body.exits.map fun exit => (exit, exit.value)) calls ∧
        body.visitExits visitor state = stateAfter visitor state calls ∧
        body.visitExits (noting visitor) (state, []) = (stateAfter visitor state calls, calls)) ∧
      (∀ {m : Type → Type} [Monad m] [LawfulMonad m] (body : Body),
        ExitOwner.Enumerates (m := m) body (body.exits.map Exit.point) fun _ => pure ()) ∧
      ∀ {m : Type → Type} [Monad m] [LawfulMonad m] {β ν : Type} [ExitOwner m β ν] (body : β)
        (points : List (ExitPoint ν)) (effect : List (ExitPoint ν) → m Unit),
        ExitOwner.Enumerates body points effect →
          exitKinds body = (do effect points; return points.map ExitPoint.kind) ∧
          ∀ obligation : Obligation,
            bodyMisses body obligation = (do
              if obligation.requiresValue then effect points
              return missesReturns obligation (points.map ExitPoint.kind)) ∧
            (bodyMisses (⟨body⟩ : Observed β) obligation :
                StateT (List (ExitPoint ν)) m Bool).run [] =
              (fun misses => (misses, if obligation.requiresValue then points else [])) <$>
                bodyMisses body obligation := by
  refine ⟨fun body σ visitor state => ?_, fun body => body.enumerates, fun body points effect h =>
    ⟨h.exitKinds_eq, fun obligation =>
      ⟨h.bodyMisses_eq obligation, Observed.run_bodyMisses h obligation⟩⟩⟩
  refine ⟨_, visited_spec visitor state _, ?_, ?_⟩
  · rw [body.visitExits_eq, visitAll_eq]
  · rw [body.visitExits_eq, visitAll_noting, visitAll_eq]

/-- A body with three exits that counts what it hands out: three to find that a value is missing on
some path, and none if no value is asked for. -/
theorem visitExits_and_bodyMisses_counted :
    let points : List (ExitPoint Unit) :=
      [⟨⟨false, false, true⟩, some ()⟩, ⟨⟨true, false, false⟩, none⟩, ⟨⟨false, false, false⟩, none⟩]
    let body : CountedExits Unit := ⟨points⟩
    ExitOwner.Enumerates (m := StateM Nat) body points (fun calls => modify (· + calls.length)) ∧
      (exitKinds body : StateM Nat (List ExitKind)).run 0 =
        ([.explicitValue, .failure, .plain], 3) ∧
      (bodyMisses body .should : StateM Nat Bool).run 0 = (true, 3) ∧
      (bodyMisses body .exempt : StateM Nat Bool).run 0 = (false, 0) ∧
      ((bodyMisses (⟨body⟩ : Observed (CountedExits Unit)) .should :
        StateT (List (ExitPoint Unit)) (StateM Nat) Bool).run []).run 0 = ((true, points), 3) := by
  intro points body
  have hbody := CountedExits.enumerates points
  obtain ⟨hkinds, hmisses⟩ := visitExits_and_bodyMisses.2.2 body points _ hbody
  refine ⟨hbody, ?_, ?_, ?_, ?_⟩
  · rw [hkinds]; rfl
  · rw [(hmisses .should).1]; rfl
  · rw [(hmisses .exempt).1]; rfl
  · rw [(hmisses .should).2, (hmisses .should).1]; rfl

/-- A visitor that counts the exits and stops at one that raises sees no exit after it. -/
example :
    let body : Body := { exits := [⟨.fallThrough, none, false⟩, ⟨.raise, none, false⟩,
      ⟨.fallThrough, none, false⟩] }
    body.visitExits (fun seen (exit, _) =>
      (seen + 1, if exit.instruction = .raise then .stop else .next)) 0 = 2 := by decide

end ReturnPaths
