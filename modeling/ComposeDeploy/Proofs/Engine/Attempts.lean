import ComposeDeploy.Engine.Attempted
import Mathlib.Data.List.Basic

/-!
Steps that are repeated until they succeed.

`Act.Repeats` is repetition as such, without a limit and with every pause in its
place. `untilSuccess` watches it for a number of failures: what it tells is what the
repetition does (`untilSuccess_eq_some_iff`), and as long as the step has only failed
it tells nothing (`untilSuccess_eq_none_iff`). So a step that fails `n` times and then
succeeds is called `n + 1` times, with a pause after each failure and none after the
success (`Act.isRetried`).
-/

namespace ComposeDeploy

variable {W α : Type}

/-! ### Failures -/

/-- The step fails `n` times in a row, each time in the world that the failure before it
has left. -/
inductive Act.FailsTimes (step : Act W α) : Nat → W → W → Prop where
  | never {w : W} : FailsTimes step 0 w w
  | again {n : Nat} {w between after : W} {e : Error} : step.on w = (.error e, between) →
      FailsTimes step n between after → FailsTimes step (n + 1) w after

/-- A step fails as often as is asked, or it succeeds before that. -/
theorem Act.failsTimes_or_succeeds (step : Act W α) (times : Nat) (w : W) :
    (∃ after, step.FailsTimes times w after) ∨
      ∃ n between value after, n < times ∧ step.FailsTimes n w between ∧
        step.on between = (.ok value, after) := by
  induction times generalizing w with
  | zero => exact .inl ⟨w, .never⟩
  | succ times ih =>
    rcases run : step.on w with ⟨e | value, between⟩
    · rcases ih between with ⟨after, fails⟩ | ⟨n, last, value, after, early, fails, succeeds⟩
      · exact .inl ⟨after, .again run fails⟩
      · exact .inr ⟨n + 1, last, value, after, Nat.succ_lt_succ early, .again run fails, succeeds⟩
    · exact .inr ⟨0, w, value, between, Nat.succ_pos times, .never, run⟩

/-! ### Moments -/

/-- What is seen of a step that is repeated: its calls and the pauses. -/
inductive Moment where
  | failure
  | pause (milliseconds : Nat)
  | success
  deriving DecidableEq

namespace Moment

/-- Whether the step is called. -/
def isCall : Moment → Bool
  | .pause _ => false
  | _ => true

/-- The time that passes in a pause. -/
def milliseconds : Moment → Nat
  | .pause milliseconds => milliseconds
  | _ => 0

/-- So many failures, each with a pause after it, and then a success. -/
def tries (n interval : Nat) : List Moment :=
  (List.replicate n [.failure, .pause interval]).flatten ++ [.success]

theorem tries_succ (n interval : Nat) :
    tries (n + 1) interval = .failure :: .pause interval :: tries n interval := rfl

theorem count_failure_again (interval : Nat) (moments : List Moment) :
    (.failure :: .pause interval :: moments).count .failure = moments.count .failure + 1 := by
  rw [List.count_cons_self, List.count_cons_of_ne (by simp)]

end Moment

/-- The run that is seen at these moments. -/
def Attempted.ofMoments (value : α) (moments : List Moment) : Attempted α where
  value
  calls := moments.countP Moment.isCall
  slept := moments.foldr (fun moment total => total + moment.milliseconds) 0

theorem Attempted.ofMoments_again (value : α) (interval : Nat) (moments : List Moment) :
    ofMoments value (.failure :: .pause interval :: moments) =
      (ofMoments value moments).afterFailure interval := by
  have calls : (Moment.failure :: .pause interval :: moments).countP Moment.isCall =
      moments.countP Moment.isCall + 1 := by
    rw [List.countP_cons_of_pos rfl, List.countP_cons_of_neg (by simp [Moment.isCall])]
  rw [ofMoments, calls]
  rfl

theorem Attempted.ofMoments_tries (value : α) (n interval : Nat) :
    ofMoments value (Moment.tries n interval) = ⟨value, n + 1, n * interval⟩ := by
  induction n with
  | zero => rw [Nat.zero_mul]; rfl
  | succ n ih =>
    rw [Moment.tries_succ, ofMoments_again, ih, afterFailure, Nat.succ_mul]

theorem Moment.count_failure_tries (n interval : Nat) :
    (tries n interval).count .failure = n := by
  induction n with
  | zero => rfl
  | succ n ih => rw [tries_succ, count_failure_again, ih]

/-! ### Repetition -/

/-- The step is repeated until it succeeds, with a pause after each failure. -/
inductive Act.Repeats (step : Act W α) (interval : Nat) : W → List Moment → α → W → Prop where
  | success {w after : W} {value : α} : step.on w = (.ok value, after) →
      Repeats step interval w [.success] value after
  | failure {w between after : W} {e : Error} {moments : List Moment} {value : α} :
      step.on w = (.error e, between) → Repeats step interval between moments value after →
      Repeats step interval w (.failure :: .pause interval :: moments) value after

section Repetition

variable {step : Act W α} {interval patience n : Nat} {w between after last : W} {value other : α}
  {moments others : List Moment}

/-- There is one way only to repeat a step. -/
theorem Act.Repeats.unique (repeats : step.Repeats interval w moments value after)
    (again : step.Repeats interval w others other last) :
    others = moments ∧ other = value ∧ last = after := by
  induction repeats generalizing others with
  | success tried =>
    cases again with
    | success tried' =>
      cases tried.symm.trans tried'
      exact ⟨rfl, rfl, rfl⟩
    | failure tried' _ => cases tried.symm.trans tried'
  | failure tried _ ih =>
    cases again with
    | success tried' => cases tried.symm.trans tried'
    | failure tried' rest =>
      cases tried.symm.trans tried'
      obtain ⟨rfl, rfl, rfl⟩ := ih rest
      exact ⟨rfl, rfl, rfl⟩

theorem Act.FailsTimes.repeats (fails : step.FailsTimes n w between)
    (succeeds : step.on between = (.ok value, after)) :
    step.Repeats interval w (Moment.tries n interval) value after := by
  induction fails with
  | never => exact .success succeeds
  | again tried _ ih => exact .failure tried (ih succeeds)

/-- A repetition ends with the first success. -/
theorem Act.Repeats.exists_failsTimes (repeats : step.Repeats interval w moments value after) :
    ∃ n between, step.FailsTimes n w between ∧ step.on between = (.ok value, after) ∧
      moments = Moment.tries n interval := by
  induction repeats with
  | success tried => exact ⟨0, _, .never, tried, rfl⟩
  | failure tried _ ih =>
    obtain ⟨n, between, fails, succeeds, rfl⟩ := ih
    exact ⟨n + 1, between, .again tried fails, succeeds, rfl⟩

/-! ### Watching -/

theorem untilSuccess_succ_of_error {e : Error} (tried : step.on w = (.error e, between)) :
    untilSuccess interval step (patience + 1) w =
      ((untilSuccess interval step patience between).1.map (Attempted.afterFailure interval),
        (untilSuccess interval step patience between).2) := by
  rw [untilSuccess, tried]

/-- A success is told if all failures before it are watched. -/
theorem Act.FailsTimes.told (fails : step.FailsTimes n w between)
    (succeeds : step.on between = (.ok value, after)) (watched : n ≤ patience) :
    untilSuccess interval step patience w = (some ⟨value, n + 1, n * interval⟩, after) := by
  induction fails generalizing patience with
  | never =>
    unfold untilSuccess
    rw [succeeds, Nat.zero_mul]
  | again tried _ ih =>
    obtain ⟨patience, rfl⟩ := Nat.exists_eq_succ_of_ne_zero (Nat.ne_zero_of_lt watched)
    rw [untilSuccess_succ_of_error tried, ih succeeds (Nat.le_of_succ_le_succ watched),
      Nat.succ_mul]
    rfl

/-- Nothing is told if the step fails more often than is watched. -/
theorem Act.FailsTimes.untold (fails : step.FailsTimes (patience + 1) w after) :
    untilSuccess interval step patience w = (none, after) := by
  induction patience generalizing w with
  | zero =>
    cases fails with
    | again tried rest =>
      cases rest
      unfold untilSuccess
      rw [tried]
  | succ patience ih =>
    cases fails with
    | again tried rest =>
      rw [untilSuccess_succ_of_error tried, ih rest]
      rfl

/-- A run is told if the repetition makes it before the patience ends. -/
theorem untilSuccess_eq_some_iff {run : Attempted α} :
    untilSuccess interval step patience w = (some run, after) ↔
      ∃ value moments, step.Repeats interval w moments value after ∧
        run = .ofMoments value moments ∧ moments.count .failure ≤ patience := by
  constructor
  · intro told
    rcases step.failsTimes_or_succeeds (patience + 1) w with
      ⟨last, fails⟩ | ⟨n, between, value, last, early, fails, succeeds⟩
    · rw [fails.untold] at told
      cases told
    · rw [fails.told succeeds (Nat.le_of_lt_succ early)] at told
      cases told
      refine ⟨value, Moment.tries n interval, fails.repeats succeeds,
        (Attempted.ofMoments_tries value n interval).symm, ?_⟩
      rw [Moment.count_failure_tries]
      exact Nat.le_of_lt_succ early
  · rintro ⟨value, moments, repeats, rfl, watched⟩
    obtain ⟨n, between, fails, succeeds, rfl⟩ := repeats.exists_failsTimes
    rw [Moment.count_failure_tries] at watched
    rw [Attempted.ofMoments_tries]
    exact fails.told succeeds watched

theorem untilSuccess_eq_none_iff : untilSuccess interval step patience w = (none, after) ↔
    step.FailsTimes (patience + 1) w after := by
  constructor
  · intro untold
    rcases step.failsTimes_or_succeeds (patience + 1) w with
      ⟨last, fails⟩ | ⟨n, between, value, last, early, fails, succeeds⟩
    · rw [fails.untold] at untold
      cases untold
      exact fails
    · rw [fails.told succeeds (Nat.le_of_lt_succ early)] at untold
      cases untold
  · exact Act.FailsTimes.untold

end Repetition

/-! ### Retrying -/

/-- What becomes of a step that is repeated from the world `w`. -/
structure Act.IsRetried (step : Act W α) (interval : Nat) (w : W) : Prop where
  /-- If it fails `n` times and then succeeds, these calls are made and no other, with a
  pause after each failure and none after the success, and the value is that of the
  success. -/
  repeats {n : Nat} {between after last : W} {value other : α} {moments : List Moment} :
    step.FailsTimes n w between → step.on between = (.ok value, after) →
    (step.Repeats interval w moments other last ↔
      moments = Moment.tries n interval ∧ other = value ∧ last = after)
  /-- Then this is told as soon as so many failures are watched. -/
  told {n patience : Nat} {between after : W} {value : α} :
    step.FailsTimes n w between → step.on between = (.ok value, after) → n ≤ patience →
    untilSuccess interval step patience w = (some ⟨value, n + 1, n * interval⟩, after)
  /-- Whatever is told is what the repetition does. -/
  adequate {patience : Nat} {after : W} {run : Attempted α} :
    untilSuccess interval step patience w = (some run, after) ↔
      ∃ value moments, step.Repeats interval w moments value after ∧
        run = .ofMoments value moments ∧ moments.count .failure ≤ patience
  /-- There is nothing to tell as long as it has only failed. -/
  untold {patience : Nat} {after : W} :
    untilSuccess interval step patience w = (none, after) ↔ step.FailsTimes (patience + 1) w after

theorem Act.isRetried (step : Act W α) (interval : Nat) (w : W) : step.IsRetried interval w where
  repeats fails succeeds := by
    constructor
    · exact (fails.repeats succeeds).unique
    · rintro ⟨rfl, rfl, rfl⟩
      exact fails.repeats succeeds
  told fails succeeds watched := fails.told succeeds watched
  adequate := untilSuccess_eq_some_iff
  untold := untilSuccess_eq_none_iff

end ComposeDeploy
