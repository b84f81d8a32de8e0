import ReturnPaths.Exit.Enumeration
import Mathlib.Data.List.Infix

/-!
# What a visitor is handed

`visitAll` threads the state of a visitor through the members of a list.  Which members the visitor
is handed depends on its answers, and these on its state: it is handed the shortest front of the
list at whose end it stops, or the whole list if it never stops.

* `Visited` : the members of a list that a visitor is handed.
* `visited` : the same as a function that follows the visitor (`visited_spec`).
* `visitAll_eq` : the last state is the one after these members.
* `visitAll_recording`, `visitAll_noting` : a visitor that keeps a record of what it is handed has
  these members in it.
-/

namespace ReturnPaths

variable {σ ρ ε α : Type}

/-- The state of a visitor after it was handed these members, one after the other. -/
def stateAfter (visitor : σ → ε → σ × Visit) (state : σ) (calls : List ε) : σ :=
  calls.foldl (fun state point => (visitor state point).1) state

/-- Handed these members one after the other, the visitor stops at the last of them. -/
def StopsAt (visitor : σ → ε → σ × Visit) (state : σ) (calls : List ε) : Prop :=
  ∃ before last, calls = before ++ [last] ∧
    (visitor (stateAfter visitor state before) last).2 = .stop

/-- Of the members of a list, those that a visitor is handed, in order. -/
inductive Visited (visitor : σ → ε → σ × Visit) (state : σ) (points : List ε) :
    List ε → Prop where
  /-- The members up to and including the first at which the visitor stops. -/
  | stopped {calls : List ε} (front : calls <+: points) (stops : StopsAt visitor state calls)
      (shortest : ∀ front, front <+: points → StopsAt visitor state front →
        calls.length ≤ front.length) :
      Visited visitor state points calls
  /-- All members, if there is none at which the visitor stops. -/
  | exhausted (never : ∀ front, front <+: points → ¬ StopsAt visitor state front) :
      Visited visitor state points points

/-- The members of a list that a visitor is handed. -/
def visited (visitor : σ → ε → σ × Visit) : σ → List ε → List ε
  | _, [] => []
  | state, point :: points =>
    point ::
      match visitor state point with
      | (state, .next) => visited visitor state points
      | (_, .stop) => []

/-- The visitor that keeps a record of what it is handed, and does otherwise as the given one. -/
def recording (visitor : σ → ε → σ × Visit) (note : ρ → ε → ρ) : σ × ρ → ε → (σ × ρ) × Visit :=
  fun (state, record) point =>
    let (state, answer) := visitor state point
    ((state, note record point), answer)

/-- The visitor that notes down, one after the other, the members it is handed. -/
def noting (visitor : σ → ε → σ × Visit) : σ × List ε → ε → (σ × List ε) × Visit :=
  recording visitor fun calls point => calls ++ [point]

variable {visitor : σ → ε → σ × Visit} {state : σ} {point : ε} {points calls calls' front : List ε}

/-! ### Stopping -/

theorem not_stopsAt_nil : ¬ StopsAt visitor state [] := by
  rintro ⟨before, last, h, -⟩
  exact List.append_ne_nil_of_right_ne_nil before (List.cons_ne_nil last []) h.symm

theorem stopsAt_cons :
    StopsAt visitor state (point :: calls) ↔
      calls = [] ∧ (visitor state point).2 = .stop ∨
        StopsAt visitor (visitor state point).1 calls := by
  constructor
  · rintro ⟨before, last, h, hstop⟩
    cases before with
    | nil =>
      cases h
      exact .inl ⟨rfl, hstop⟩
    | cons point' before =>
      cases h
      exact .inr ⟨before, last, rfl, hstop⟩
  · rintro (⟨rfl, hstop⟩ | ⟨before, last, rfl, hstop⟩)
    · exact ⟨[], point, rfl, hstop⟩
    · exact ⟨point :: before, last, rfl, hstop⟩

theorem StopsAt.length_pos (h : StopsAt visitor state calls) : 0 < calls.length := by
  cases calls with
  | nil => exact absurd h not_stopsAt_nil
  | cons point calls => exact Nat.succ_pos _

/-- A front at whose end the visitor stops goes on where the visitor does. -/
theorem StopsAt.exists_cons (hnext : (visitor state point).2 = .next)
    (hfront : front <+: point :: points) (h : StopsAt visitor state front) :
    ∃ rest, front = point :: rest ∧ rest <+: points ∧
      StopsAt visitor (visitor state point).1 rest := by
  cases front with
  | nil => exact absurd h not_stopsAt_nil
  | cons point' rest =>
    obtain ⟨rfl, hrest⟩ := List.cons_prefix_cons.1 hfront
    refine ⟨rest, rfl, hrest, ?_⟩
    rcases stopsAt_cons.1 h with ⟨-, hstop⟩ | hrests
    · rw [hnext] at hstop
      cases hstop
    · exact hrests

/-! ### The members that a visitor is handed -/

theorem Visited.nil : Visited visitor state [] [] := by
  refine .exhausted fun front hfront hstops => ?_
  rw [List.prefix_nil.1 hfront] at hstops
  exact not_stopsAt_nil hstops

theorem Visited.cons_stop (hstop : (visitor state point).2 = .stop) :
    Visited visitor state (point :: points) [point] := by
  refine .stopped ?_ (stopsAt_cons.2 (.inl ⟨rfl, hstop⟩)) fun front _ hstops => hstops.length_pos
  exact List.cons_prefix_cons.2 ⟨rfl, List.nil_prefix⟩

theorem Visited.cons_next (hnext : (visitor state point).2 = .next)
    (h : Visited visitor (visitor state point).1 points calls) :
    Visited visitor state (point :: points) (point :: calls) := by
  cases h with
  | stopped hfront hstops hshortest =>
    refine .stopped (List.cons_prefix_cons.2 ⟨rfl, hfront⟩) (stopsAt_cons.2 (.inr hstops)) ?_
    intro front hfront' hstops'
    obtain ⟨rest, rfl, hrest, hstops'⟩ := hstops'.exists_cons hnext hfront'
    exact Nat.succ_le_succ (hshortest rest hrest hstops')
  | exhausted hnever =>
    refine .exhausted fun front hfront hstops => ?_
    obtain ⟨rest, rfl, hrest, hstops⟩ := hstops.exists_cons hnext hfront
    exact hnever rest hrest hstops

/-- A visitor that never stops is handed all members. -/
theorem Visited.eq_of_next (hnext : ∀ state point, (visitor state point).2 = .next)
    (h : Visited visitor state points calls) : calls = points := by
  cases h with
  | stopped _ hstops _ =>
    obtain ⟨before, last, -, hstop⟩ := hstops
    rw [hnext] at hstop
    cases hstop
  | exhausted _ => rfl

/-- There is just one list of members that a visitor is handed. -/
theorem Visited.unique (h : Visited visitor state points calls)
    (h' : Visited visitor state points calls') : calls = calls' := by
  cases h with
  | stopped hfront hstops hshortest =>
    cases h' with
    | stopped hfront' hstops' hshortest' =>
      -- of two shortest fronts none is longer, and fronts of one list differ in length alone
      have hlength : calls.length = calls'.length :=
        Nat.le_antisymm (hshortest calls' hfront' hstops') (hshortest' calls hfront hstops)
      exact (List.prefix_of_prefix_length_le hfront hfront' hlength.le).eq_of_length hlength
    | exhausted hnever => exact absurd hstops (hnever calls hfront)
  | exhausted hnever =>
    cases h' with
    | stopped hfront' hstops' _ => exact absurd hstops' (hnever calls' hfront')
    | exhausted _ => rfl

theorem visited_cons_stop (hstop : (visitor state point).2 = .stop) :
    visited visitor state (point :: points) = [point] := by
  rw [visited]
  split
  next h => rw [h] at hstop; cases hstop
  next => rfl

theorem visited_cons_next (hnext : (visitor state point).2 = .next) :
    visited visitor state (point :: points) =
      point :: visited visitor (visitor state point).1 points := by
  rw [visited]
  split
  next h => rw [h]
  next h => rw [h] at hnext; cases hnext

theorem visitAll_cons_stop (hstop : (visitor state point).2 = .stop) :
    visitAll visitor state (point :: points) = (visitor state point).1 := by
  rw [visitAll]
  split
  next h => rw [h] at hstop; cases hstop
  next h => rw [h]

theorem visitAll_cons_next (hnext : (visitor state point).2 = .next) :
    visitAll visitor state (point :: points) =
      visitAll visitor (visitor state point).1 points := by
  rw [visitAll]
  split
  next h => rw [h]
  next h => rw [h] at hnext; cases hnext

/-- **What a visitor is handed**, step by step, is the shortest front at whose end it stops, or the
whole list. -/
theorem visited_spec (visitor : σ → ε → σ × Visit) (state : σ) (points : List ε) :
    Visited visitor state points (visited visitor state points) := by
  induction points generalizing state with
  | nil => exact .nil
  | cons point points ih =>
    cases hanswer : (visitor state point).2 with
    | next =>
      rw [visited_cons_next hanswer]
      exact .cons_next hanswer (ih _)
    | stop =>
      rw [visited_cons_stop hanswer]
      exact .cons_stop hanswer

/-- The visitor is left as it is after what it was handed. -/
theorem visitAll_eq (visitor : σ → ε → σ × Visit) (state : σ) (points : List ε) :
    visitAll visitor state points = stateAfter visitor state (visited visitor state points) := by
  induction points generalizing state with
  | nil => rfl
  | cons point points ih =>
    cases hanswer : (visitor state point).2 with
    | next =>
      rw [visitAll_cons_next hanswer, visited_cons_next hanswer]
      exact ih _
    | stop =>
      rw [visitAll_cons_stop hanswer, visited_cons_stop hanswer]
      rfl

theorem visitAll_map (visitor : σ → ε → σ × Visit) (f : α → ε) (state : σ) (points : List α) :
    visitAll visitor state (points.map f) =
      visitAll (fun state point => visitor state (f point)) state points := by
  induction points generalizing state with
  | nil => rfl
  | cons point points ih => simp only [List.map_cons, visitAll, ih]

/-! ### Keeping a record -/

variable {note : ρ → ε → ρ} {record : ρ}

theorem recording_answer :
    (recording visitor note (state, record) point).2 = (visitor state point).2 := rfl

/-- A record does not change what a visitor is handed. -/
theorem visited_recording :
    visited (recording visitor note) (state, record) points = visited visitor state points := by
  induction points generalizing state record with
  | nil => rfl
  | cons point points ih =>
    cases hanswer : (visitor state point).2 with
    | next =>
      rw [visited_cons_next hanswer, visited_cons_next (recording_answer.trans hanswer)]
      exact congrArg _ ih
    | stop => rw [visited_cons_stop hanswer, visited_cons_stop (recording_answer.trans hanswer)]

theorem stateAfter_recording :
    stateAfter (recording visitor note) (state, record) calls =
      (stateAfter visitor state calls, calls.foldl note record) := by
  induction calls generalizing state record with
  | nil => rfl
  | cons point calls ih => exact ih

/-- A visitor that keeps a record has in it what it was handed. -/
theorem visitAll_recording (visitor : σ → ε → σ × Visit) (note : ρ → ε → ρ) (state : σ)
    (record : ρ) (points : List ε) :
    visitAll (recording visitor note) (state, record) points =
      (visitAll visitor state points, (visited visitor state points).foldl note record) := by
  rw [visitAll_eq, visited_recording, stateAfter_recording, visitAll_eq]

theorem stateAfter_noting :
    stateAfter (noting visitor) (state, calls) calls' =
      (stateAfter visitor state calls', calls ++ calls') := by
  rw [noting, stateAfter_recording, List.foldl_append_eq_append, ← List.flatMap_def,
    List.flatMap_singleton']

theorem visitAll_noting (visitor : σ → ε → σ × Visit) (state : σ) (points : List ε) :
    visitAll (noting visitor) (state, []) points =
      (visitAll visitor state points, visited visitor state points) := by
  rw [visitAll_eq, noting, visited_recording, ← noting, stateAfter_noting, visitAll_eq,
    List.nil_append]

end ReturnPaths
