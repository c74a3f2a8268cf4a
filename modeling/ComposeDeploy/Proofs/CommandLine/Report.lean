import ComposeDeploy.CommandLine.Program
import ComposeDeploy.Proofs.Deployment.Independence

/-!
The report of a run tells every outcome once.

What is told of outcomes is a relation that follows them one after another
(`Report.Tells`): a success adds one block to standard output and a failure one
message to standard error, so neither can hide the other. A report says at the end
how many of the outcomes are failures, and the exit status of the run depends on
that number alone (`Report.IsOf`, `Report.tellsEveryOutcome`).
-/

namespace ComposeDeploy.CommandLine

namespace Report

/-- The block of a success: the answer without the blanks at its end, and before it,
if the run has several outcomes, the name of the engine and a colon. -/
inductive IsBlock (total : Nat) (endpoint : String) (answer : Answer) : String → Prop where
  | alone : total ≤ 1 → IsBlock total endpoint answer (Text.trimRight answer.render ++ "\n")
  | named : 1 < total →
      IsBlock total endpoint answer (endpoint ++ ":\n" ++ Text.trimRight answer.render ++ "\n")

/-- Outcomes of a run that has `total` of them are told in order: a success by one
block, a failure by one message with the name of the engine and the text of the
error. -/
inductive Tells (total : Nat) : List Outcome → (blocks messages : List String) → Prop where
  | nil : Tells total [] [] []
  | success {endpoint block : String} {answer : Answer} {outcomes : List Outcome}
      {blocks messages : List String} :
      IsBlock total endpoint answer block → Tells total outcomes blocks messages →
      Tells total (⟨endpoint, .ok answer⟩ :: outcomes) (block :: blocks) messages
  | failure {endpoint : String} {e : Error} {outcomes : List Outcome}
      {blocks messages : List String} : Tells total outcomes blocks messages →
      Tells total (⟨endpoint, .error e⟩ :: outcomes) blocks
        ((endpoint ++ ": " ++ e.message ++ "\n") :: messages)

/-- How many of the outcomes are failures. -/
def failures (outcomes : List Outcome) : Nat :=
  outcomes.countP fun outcome => !outcome.result.isOk

/-- What stands at the end of standard error. -/
inductive Verdict (outcomes : List Outcome) : String → Prop where
  | success : failures outcomes = 0 → Verdict outcomes ""
  | failure : failures outcomes ≠ 0 → Verdict outcomes ("Error: " ++ toString (failures outcomes) ++
      " of " ++ toString outcomes.length ++ " endpoint(s) failed\n")

/-- The report tells these outcomes, and the exit status shows whether one of them is
a failure. -/
structure IsOf (report : Report) (outcomes : List Outcome) : Prop where
  told : ∃ blocks messages verdict, Tells outcomes.length outcomes blocks messages ∧
    blocks.length + messages.length = outcomes.length ∧ messages.length = failures outcomes ∧
    Verdict outcomes verdict ∧
    report.stdout = String.join blocks ∧ report.stderr = String.join messages ++ verdict
  status : report.status ≠ 0 ↔ ∃ outcome ∈ outcomes, ∃ e, outcome.result = .error e

/-! ### Lists of outcomes -/

theorem isBlock_block (total : Nat) (endpoint : String) (answer : Answer) :
    IsBlock total endpoint answer (block (1 < total) endpoint answer) := by
  unfold block
  by_cases several : 1 < total
  · simpa [several] using IsBlock.named several
  · simpa [several] using IsBlock.alone (Nat.le_of_not_lt several)

/-- What is printed of outcomes tells them, however many there are besides. -/
theorem exists_tells (total : Nat) (outcomes : List Outcome) :
    ∃ blocks messages, Tells total outcomes blocks messages ∧
      String.join (outcomes.map (stdoutOf (1 < total))) = String.join blocks ∧
      String.join (outcomes.map stderrOf) = String.join messages := by
  induction outcomes with
  | nil => exact ⟨[], [], .nil, rfl, rfl⟩
  | cons outcome outcomes ih =>
    obtain ⟨blocks, messages, tells, stdout, stderr⟩ := ih
    obtain ⟨endpoint, e | answer⟩ := outcome
    · refine ⟨blocks, _, .failure tells, ?_, ?_⟩
      · simp [stdoutOf, stdout]
      · simp [stderrOf, line, stderr]
    · refine ⟨_, messages, .success (isBlock_block total endpoint answer) tells, ?_, ?_⟩
      · simp [stdoutOf, stdout]
      · simp [stderrOf, stderr]

section Counts

variable {total : Nat} {outcomes : List Outcome} {blocks messages : List String}
  (tells : Tells total outcomes blocks messages)
include tells

theorem Tells.length_add_length : blocks.length + messages.length = outcomes.length := by
  induction tells with
  | nil => rfl
  | success _ _ ih =>
    simp only [List.length_cons]
    omega
  | failure _ ih =>
    simp only [List.length_cons]
    omega

theorem Tells.length_messages : messages.length = failures outcomes := by
  unfold failures
  induction tells with
  | nil => rfl
  | success _ _ ih => simpa [Except.isOk, Except.toBool] using ih
  | failure _ ih => simpa [Except.isOk, Except.toBool] using ih

end Counts

theorem failures_ne_zero_iff {outcomes : List Outcome} :
    failures outcomes ≠ 0 ↔ ∃ outcome ∈ outcomes, ∃ e, outcome.result = .error e := by
  unfold failures
  rw [Nat.ne_zero_iff_zero_lt, List.countP_pos_iff]
  constructor
  · rintro ⟨⟨endpoint, e | answer⟩, member, failed⟩
    · exact ⟨_, member, e, rfl⟩
    · cases failed
  · rintro ⟨⟨endpoint, _⟩, member, e, rfl⟩
    exact ⟨_, member, rfl⟩

theorem summary?_eq (outcomes : List Outcome) : summary? outcomes =
    if failures outcomes = 0 then none
    else some (toString (failures outcomes) ++ " of " ++ toString outcomes.length ++
      " endpoint(s) failed") := by
  have same : isFailure = fun outcome : Outcome => !outcome.result.isOk := by
    funext outcome
    obtain ⟨endpoint, e | answer⟩ := outcome
    · rfl
    · rfl
  rw [summary?, same]
  rfl

theorem ofOutcomes_isOf (outcomes : List Outcome) : (ofOutcomes outcomes).IsOf outcomes := by
  obtain ⟨blocks, messages, tells, stdout, stderr⟩ := exists_tells outcomes.length outcomes
  have all := tells.length_add_length
  have failed := tells.length_messages
  have summary := summary?_eq outcomes
  by_cases unfailed : failures outcomes = 0
  · rw [if_pos unfailed] at summary
    constructor
    · refine ⟨blocks, messages, _, tells, all, failed, .success unfailed, stdout, ?_⟩
      simp [ofOutcomes, summary, stderr]
    · rw [← failures_ne_zero_iff]
      simp [ofOutcomes, summary, unfailed]
  · rw [if_neg unfailed] at summary
    constructor
    · refine ⟨blocks, messages, _, tells, all, failed, .failure unfailed, stdout, ?_⟩
      simp [ofOutcomes, summary, stderr, failureText, String.append_assoc]
    · rw [← failures_ne_zero_iff]
      simp [ofOutcomes, summary, unfailed]

end Report

/-! ### Runs -/

/-- A run that reaches its engines reports what comes of its action on them. -/
theorem perform_reports {W : Type} (around : Surroundings W) (arguments : Arguments) (world : W)
    {settings : Settings} {names : List String}
    (accepted : Settings.ofEnvironment around.environment = .ok settings)
    (reached : arguments.connection.reachAll around.environment around.files = .ok names) :
    ∃ setup : Setup W, (perform around arguments world).1 = .ofOutcomes
      (runAll (setup.perform arguments.action) (names.map (around.engine settings)) world).1 := by
  refine ⟨⟨around.planner settings, settings.historyLimit, around.now⟩, ?_⟩
  simp only [perform, accepted, reached]

/-- The report of any outcomes tells each of them once, on the stream where it belongs,
and the run fails exactly if one of them is a failure. A run that reaches its engines
has one outcome for each of them, in order and under its name. -/
theorem Report.tellsEveryOutcome :
    (∀ outcomes, (ofOutcomes outcomes).IsOf outcomes) ∧
    ∀ (W : Type) (around : Surroundings W) (arguments : Arguments) (world : W) settings names,
      Settings.ofEnvironment around.environment = .ok settings →
      arguments.connection.reachAll around.environment around.files = .ok names →
      ∃ outcomes, (perform around arguments world).1.IsOf outcomes ∧
        outcomes.map Outcome.endpoint =
          names.map fun name => (around.engine settings name).name := by
  refine ⟨ofOutcomes_isOf, ?_⟩
  intro W around arguments world settings names accepted reached
  obtain ⟨setup, reported⟩ := perform_reports around arguments world accepted reached
  rw [reported]
  refine ⟨_, ofOutcomes_isOf _, ?_⟩
  rw [map_endpoint_runAll, List.map_map]
  rfl

namespace Twins

open ComposeDeploy.Twins (World left right setup start deploy)

def surroundings : Surroundings World where
  environment _ := none
  files := ⟨fun _ => false, fun _ => false⟩
  engine _ name := ModelEngine.engine name (if name = "tcp://left" then left else right)
  planner _ := setup.planner
  now := "2024-05-01T00:00:00Z"

def arguments : Arguments :=
  ⟨⟨"tcp://left, tcp://right", false, none, none, none⟩, false, deploy⟩

end Twins

/-- A failure on the left does not hide what was done on the right. -/
theorem Report.tellsEveryOutcome_twins :
    (perform Twins.surroundings Twins.arguments ComposeDeploy.Twins.start).1 =
      ⟨"tcp://right:\nSuccessfully deployed 1 container(s)\n",
        "tcp://left: problem starting container 'web': no space left on device\n" ++
          "Error: 1 of 2 endpoint(s) failed\n", 1⟩ ∧
    ∃ outcomes,
      (perform Twins.surroundings Twins.arguments ComposeDeploy.Twins.start).1.IsOf outcomes ∧
        outcomes.map Outcome.endpoint = ["tcp://left", "tcp://right"] := by
  refine ⟨by decide +kernel, ?_⟩
  exact tellsEveryOutcome.2 _ Twins.surroundings Twins.arguments ComposeDeploy.Twins.start
    ⟨"localhost:61908", "docker-compose", 5, none⟩ ["tcp://left", "tcp://right"] (by decide)
    (by decide)

end ComposeDeploy.CommandLine
