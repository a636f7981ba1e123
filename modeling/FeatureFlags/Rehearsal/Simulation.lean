/-!
# Simulated time

A simulation has a state, and an activity in the foreground. Both do what they can at the present
time, the foreground first. When neither can go on, time moves to the next moment at which
something is due. Nothing happens between such moments, so no real time is taken.
-/

namespace FeatureFlags

/-- How a state `σ` and a foreground activity `φ` behave in time. -/
structure Simulation (σ φ : Type) where
  /-- The foreground does what it can at a time. -/
  poll : Nat → φ → σ → σ × φ
  /-- Has the foreground ended? -/
  hasEnded : φ → Bool
  /-- The background does what it can at a time, and tells whether it did anything. -/
  background : Nat → σ → σ × Bool
  /-- When something is due. -/
  dueTimes : σ → φ → List Nat

namespace Simulation

variable {σ φ : Type}

/-- The first of some times that is later than a given one. -/
def nextAfter (time : Nat) (times : List Nat) : Option Nat :=
  (times.filter (time < ·)).min?

/-- Go on until the foreground has ended or nothing is due, at most so many rounds. -/
def runWithin (sim : Simulation σ φ) : Nat → Nat → σ → φ → Nat × σ × φ
  | 0, time, s, f => (time, s, f)
  | rounds + 1, time, s, f =>
    match sim.poll time f s with
    | (s, f) =>
      if sim.hasEnded f then (time, s, f)
      else
        match sim.background time s with
        | (s, true) => runWithin sim rounds time s f
        | (s, false) =>
          match nextAfter time (sim.dueTimes s f) with
          | some later => runWithin sim rounds later s f
          | none => (time, s, f)

/-- More rounds than a simulation ever takes. -/
def roundLimit : Nat := Nat.pow 2 40

/-- Go on until the foreground has ended or nothing is due. -/
def run (sim : Simulation σ φ) (time : Nat) (s : σ) (f : φ) : Nat × σ × φ :=
  sim.runWithin roundLimit time s f

end Simulation

end FeatureFlags
