/-
Module: SorobanUpgrades.Library.Loop
Purpose: Loops that step a state until it halts, run on fuel, with the rules for
  an invariant, for the states on the way, and for a measure that shows the fuel
  is enough.
Trusted boundary: none
Main exports: runLoop, runLoop_invariant, halted_runLoop, LoopRun, loopRun_runLoop,
  runLoop_backwards
-/
import Mathlib

namespace SorobanUpgrades

section Loop

variable {σ : Type} (halted : σ → Bool) (step : σ → σ)

/-- Step the state until it halts or the fuel is spent. -/
def runLoop : Nat → σ → σ
  | 0, state => state
  | fuel + 1, state => if halted state then state else runLoop fuel (step state)

variable {halted step} {invariant : σ → Prop}

/-- What holds at the start and survives every step holds at the end. -/
theorem runLoop_invariant
    (preserved : ∀ state, invariant state → halted state = false → invariant (step state))
    (fuel : Nat) {state : σ} (initial : invariant state) :
    invariant (runLoop halted step fuel state) := by
  induction fuel generalizing state with
  | zero => exact initial
  | succ fuel inductionHypothesis =>
      rw [runLoop]
      cases stopped : halted state with
      | true => exact initial
      | false => exact inductionHypothesis (preserved state initial stopped)

/-- A measure that every step lowers bounds the number of steps. -/
theorem halted_runLoop (measure : σ → Nat)
    (preserved : ∀ state, invariant state → halted state = false → invariant (step state))
    (decreases : ∀ state, invariant state → halted state = false →
      measure (step state) < measure state)
    (fuel : Nat) {state : σ} (initial : invariant state) (enough : measure state < fuel) :
    halted (runLoop halted step fuel state) = true := by
  induction fuel generalizing state with
  | zero => exact absurd enough (Nat.not_lt_zero _)
  | succ fuel inductionHypothesis =>
      rw [runLoop]
      cases stopped : halted state with
      | true => exact stopped
      | false =>
          have lower := decreases state initial stopped
          exact inductionHypothesis (preserved state initial stopped) (by omega)

/-- What holds where the loop stops, and before a step if it holds after it, relates
the state to the end of its run. -/
theorem runLoop_backwards (relation : σ → σ → Prop)
    (stops : ∀ state, halted state = true → relation state state)
    (steps : ∀ state last, halted state = false → relation (step state) last →
      relation state last)
    (fuel : Nat) {state : σ} (finished : halted (runLoop halted step fuel state) = true) :
    relation state (runLoop halted step fuel state) := by
  induction fuel generalizing state with
  | zero => exact stops state finished
  | succ fuel inductionHypothesis =>
      rw [runLoop] at finished ⊢
      cases stopped : halted state with
      | true => exact stops state stopped
      | false =>
          rw [stopped] at finished
          exact steps state _ stopped (inductionHypothesis finished)

end Loop

section Runs

variable {σ : Type} (halted : σ → Bool) (step : σ → σ)

/-- The states a loop goes through, with the number of turns before each. -/
inductive LoopRun (start : σ) : Nat → σ → Prop where
  | start : LoopRun start 0 start
  | turn {turns : Nat} {state : σ} (earlier : LoopRun start turns state)
      (running : halted state = false) : LoopRun start (turns + 1) (step state)

variable {halted step} {start state : σ} {turns : Nat}

/-- What holds at the start and survives every step holds in every state. -/
theorem LoopRun.preserves {invariant : σ → Prop}
    (preserved : ∀ state, invariant state → halted state = false → invariant (step state))
    (initial : invariant start) (run : LoopRun halted step start turns state) :
    invariant state := by
  induction run with
  | start => exact initial
  | turn _ running inductionHypothesis => exact preserved _ inductionHypothesis running

/-- What the loop returns is a state it went through. -/
theorem loopRun_runLoop (fuel : Nat) (run : LoopRun halted step start turns state) :
    ∃ later, LoopRun halted step start later (runLoop halted step fuel state) := by
  induction fuel generalizing turns state with
  | zero => exact ⟨turns, run⟩
  | succ fuel inductionHypothesis =>
      rw [runLoop]
      cases stopped : halted state with
      | true => exact ⟨turns, run⟩
      | false => exact inductionHypothesis (run.turn stopped)

end Runs

end SorobanUpgrades
