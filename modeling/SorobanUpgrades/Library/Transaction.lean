/-
Module: SorobanUpgrades.Library.Transaction
Purpose: Machines whose calls commit a new state with a response or are rolled back,
  with the rules for an invariant, a total and a simulation over whole runs.
Trusted boundary: none
Main exports: Transaction.Machine, Transaction.runs, Transaction.answers,
  Transaction.total, runs_invariant, runs_frozen, runs_measure, Simulates.answers_eq
-/
import Mathlib

namespace SorobanUpgrades.Transaction

/-- Every call fails or commits a response with a new state. -/
abbrev Machine (σ ι ρ ε : Type) := ι → σ → Except ε (ρ × σ)

section Runs

variable {σ ι ρ ε : Type} (machine : Machine σ ι ρ ε)

/-- The state after a call. A failed call is rolled back. -/
def after (call : ι) (state : σ) : σ :=
  match machine call state with
  | .ok result => result.2
  | .error _ => state

/-- The response to a call, or its failure. -/
def answer (call : ι) (state : σ) : Except ε ρ :=
  (machine call state).map (·.1)

/-- The state after all the calls. -/
def runs (calls : List ι) (state : σ) : σ :=
  calls.foldl (fun state call => after machine call state) state

/-- The answers to the calls, in order. -/
def answers : List ι → σ → List (Except ε ρ)
  | [], _ => []
  | call :: calls, state => answer machine call state :: answers calls (after machine call state)

/-- What the answered calls of a run add up to. -/
def total {M : Type} [AddMonoid M] (weight : ι → ρ → M) : List ι → σ → M
  | [], _ => 0
  | call :: calls, state =>
      (match answer machine call state with
        | .ok response => weight call response
        | .error _ => 0) + total weight calls (after machine call state)

variable {machine} {call : ι} {calls later : List ι} {state : σ}

theorem after_ok {result : ρ × σ} (committed : machine call state = .ok result) :
    after machine call state = result.2 := by
  rw [after, committed]

theorem after_error {failure : ε} (failed : machine call state = .error failure) :
    after machine call state = state := by
  rw [after, failed]

@[simp] theorem runs_nil : runs machine [] state = state := rfl

@[simp] theorem runs_cons :
    runs machine (call :: calls) state = runs machine calls (after machine call state) := rfl

theorem runs_append :
    runs machine (calls ++ later) state = runs machine later (runs machine calls state) :=
  List.foldl_append

/-! ### Invariants -/

/-- What holds at the start and survives every committed call holds at the end. -/
theorem runs_invariant (invariant : σ → Prop)
    (preserved : ∀ call ∈ calls, ∀ state result, invariant state →
      machine call state = .ok result → invariant result.2)
    (initial : invariant state) : invariant (runs machine calls state) := by
  induction calls generalizing state with
  | nil => exact initial
  | cons call calls inductionHypothesis =>
      rw [List.forall_mem_cons] at preserved
      rw [runs_cons]
      apply inductionHypothesis preserved.2
      cases outcome : machine call state with
      | error failure =>
          rw [after_error outcome]
          exact initial
      | ok result =>
          rw [after_ok outcome]
          exact preserved.1 state result initial outcome

/-- A state in which no call commits is final. -/
theorem runs_frozen (stuck : ∀ call ∈ calls, ∀ result, machine call state ≠ .ok result) :
    runs machine calls state = state := by
  refine runs_invariant (fun reached => reached = state) ?_ rfl
  intro call listed reached result same committed
  rw [same] at committed
  exact absurd committed (stuck call listed result)

/-- In a state in which no call commits every answer is a failure. -/
theorem answers_frozen (stuck : ∀ call ∈ calls, ∀ result, machine call state ≠ .ok result) :
    ∀ given ∈ answers machine calls state, ∃ failure, given = .error failure := by
  induction calls with
  | nil =>
      intro given listed
      cases listed
  | cons call calls inductionHypothesis =>
      rw [List.forall_mem_cons] at stuck
      cases outcome : machine call state with
      | ok result => exact absurd outcome (stuck.1 result)
      | error failure =>
          rw [answers, answer, after_error outcome, List.forall_mem_cons]
          refine ⟨⟨failure, ?_⟩, inductionHypothesis stuck.2⟩
          rw [outcome]
          rfl

/-- A measure that every committed call raises by its weight is raised by the total. -/
theorem runs_measure {M : Type} [AddMonoid M] {weight : ι → ρ → M} (measure : σ → M)
    (invariant : σ → Prop)
    (preserved : ∀ call ∈ calls, ∀ state result, invariant state →
      machine call state = .ok result → invariant result.2)
    (raised : ∀ call ∈ calls, ∀ state result, invariant state →
      machine call state = .ok result → measure result.2 = measure state + weight call result.1)
    (initial : invariant state) :
    measure (runs machine calls state) = measure state + total machine weight calls state := by
  induction calls generalizing state with
  | nil => exact (add_zero _).symm
  | cons call calls inductionHypothesis =>
      rw [List.forall_mem_cons] at preserved raised
      rw [runs_cons, total, answer]
      cases outcome : machine call state with
      | error failure =>
          rw [after_error outcome, inductionHypothesis preserved.2 raised.2 initial]
          exact congrArg _ (zero_add _).symm
      | ok result =>
          have kept := preserved.1 state result initial outcome
          rw [after_ok outcome, inductionHypothesis preserved.2 raised.2 kept,
            raised.1 state result initial outcome, add_assoc]
          rfl

end Runs

/-! ### Simulation -/

section Simulation

variable {σ τ ι ρ ε : Type}

/-- Both calls fail alike, or both commit the same response in related states. -/
inductive Outcomes (relation : σ → τ → Prop) :
    Except ε (ρ × σ) → Except ε (ρ × τ) → Prop where
  | failed (failure : ε) : Outcomes relation (.error failure) (.error failure)
  | committed {response : ρ} {left : σ} {right : τ} (related : relation left right) :
      Outcomes relation (.ok (response, left)) (.ok (response, right))

/-- In related states the allowed calls have the same outcomes. -/
def Simulates (relation : σ → τ → Prop) (allowed : ι → Prop) (machine : Machine σ ι ρ ε)
    (specification : Machine τ ι ρ ε) : Prop :=
  ∀ call, allowed call → ∀ left right, relation left right →
    Outcomes relation (machine call left) (specification call right)

variable {relation : σ → τ → Prop} {allowed : ι → Prop} {machine : Machine σ ι ρ ε}
  {specification : Machine τ ι ρ ε} {call : ι} {calls : List ι} {left : σ} {right : τ}

/-- A machine that acts on representations as its specification acts on what they
represent is simulated by it. -/
theorem simulates_of_eq {represent : τ → σ}
    (agrees : ∀ call state, machine call (represent state) =
      (specification call state).map fun result => (result.1, represent result.2)) :
    Simulates (fun concrete state => concrete = represent state) (fun _ => True) machine
      specification := by
  intro call _ concrete state same
  rw [same, agrees]
  cases specification call state with
  | error failure => exact .failed failure
  | ok result => exact .committed rfl

theorem Simulates.step (simulates : Simulates relation allowed machine specification)
    (permitted : allowed call) (related : relation left right) :
    answer machine call left = answer specification call right ∧
      relation (after machine call left) (after specification call right) := by
  have outcomes := simulates call permitted left right related
  rw [answer, answer, after, after]
  generalize machine call left = first at outcomes
  generalize specification call right = second at outcomes
  cases outcomes with
  | failed failure => exact ⟨rfl, related⟩
  | committed next => exact ⟨rfl, next⟩

/-- Runs of allowed calls from related states end in related states. -/
theorem Simulates.runs (simulates : Simulates relation allowed machine specification)
    (permitted : ∀ call ∈ calls, allowed call) (related : relation left right) :
    relation (runs machine calls left) (runs specification calls right) := by
  induction calls generalizing left right with
  | nil => exact related
  | cons call calls inductionHypothesis =>
      rw [List.forall_mem_cons] at permitted
      exact inductionHypothesis permitted.2 (simulates.step permitted.1 related).2

/-- Runs of allowed calls from related states are answered alike. -/
theorem Simulates.answers_eq (simulates : Simulates relation allowed machine specification)
    (permitted : ∀ call ∈ calls, allowed call) (related : relation left right) :
    answers machine calls left = answers specification calls right := by
  induction calls generalizing left right with
  | nil => rfl
  | cons call calls inductionHypothesis =>
      rw [List.forall_mem_cons] at permitted
      obtain ⟨same, next⟩ := simulates.step permitted.1 related
      rw [answers, answers, same, inductionHypothesis permitted.2 next]

/-- Runs of allowed calls from related states add up alike. -/
theorem Simulates.total_eq {M : Type} [AddMonoid M] {weight : ι → ρ → M}
    (simulates : Simulates relation allowed machine specification)
    (permitted : ∀ call ∈ calls, allowed call) (related : relation left right) :
    total machine weight calls left = total specification weight calls right := by
  induction calls generalizing left right with
  | nil => rfl
  | cons call calls inductionHypothesis =>
      rw [List.forall_mem_cons] at permitted
      obtain ⟨same, next⟩ := simulates.step permitted.1 related
      rw [total, total, same, inductionHypothesis permitted.2 next]

end Simulation

end SorobanUpgrades.Transaction
