/-
Trying again until it works.

`untilSuccess` repeats a step until it succeeds, pausing for the same time after
each failure and never after the success. There is no limit to the failures;
`patience` says how many of them are watched, so a result is either that of
the successful attempt or not there yet.
-/

import ComposeDeploy.Engine.Basic

namespace ComposeDeploy

/-- What a repeated step came to. -/
structure Attempted (α : Type) where
  /-- The value of the successful attempt. -/
  value : α
  /-- The number of attempts, the successful one included. -/
  calls : Nat
  /-- The milliseconds of all pauses. -/
  slept : Nat
  deriving DecidableEq, Repr

/-- The pause between attempts unless another is set, in milliseconds. -/
def usualPause : Nat := 5000

/-- One more failed attempt and the pause after it, before the others. -/
def Attempted.afterFailure {α : Type} (interval : Nat) (run : Attempted α) : Attempted α :=
  { run with calls := run.calls + 1, slept := run.slept + interval }

/-- Repeats a step until it succeeds or has failed more than `patience`
times. -/
def untilSuccess {W α : Type} (interval : Nat) (step : Act W α) :
    (patience : Nat) → W → Option (Attempted α) × W
  | patience, world =>
    match step.on world with
    | (.ok value, world) => (some ⟨value, 1, 0⟩, world)
    | (.error _, world) =>
      match patience with
      | 0 => (none, world)
      | patience + 1 =>
        let (run, world) := untilSuccess interval step patience world
        (run.map (Attempted.afterFailure interval), world)

end ComposeDeploy
