import ComposeDeploy.Proofs.Deployment.Tenure
import Mathlib.Data.Finset.Card

/-!
What a teardown leaves.

A teardown asks neither a container nor a history what is running: it removes
what the orchestrator wants to create, counts what was there and reports that the
history is gone (`Setup.teardown_cases`, `Removes.count_of_map`). What is active
is decided by the history. So the active deployment and its history are gone
just if all its names have been captured (`Tenure.teardown_isTornDown`); a shop
that tears down one of its two services keeps the other one and the history.
-/

namespace ComposeDeploy

variable {W : Type}

/-! ### Removing what was captured -/

/-- What a teardown answers that has removed so many containers. -/
def Answer.tornDown (count : Nat) : Answer :=
  .plain ("Successfully removed " ++ toString count ++ " services and all deployment history")

/-- A teardown plans and then makes its removals. -/
theorem Setup.teardown_cases (setup : Setup W) {engine : Engine W} {w after : W}
    {flags : UpFlags} {result : Except Error Answer}
    (run : (setup.perform (.teardown flags) engine).on w = (result, after)) :
    (∃ e, ((setup.planner engine).collect flags true).on w = (.error e, after) ∧
        result = .error e) ∨
      ∃ requests between removals count,
        ((setup.planner engine).collect flags true).on w = (.ok requests, between) ∧
          engine.Calls between removals after ∧
          Removes (requests.map CreateRequest.name) removals count ∧
          result = count.map Answer.tornDown := by
  rcases Act.bind_cases run with ⟨e, failed, rfl⟩ | ⟨requests, between, captured, rest⟩
  · exact .inl ⟨e, failed, rfl⟩
  right
  rcases Act.bind_cases rest with ⟨e, unremoved, rfl⟩ | ⟨count, _, removed, answered⟩
  · obtain ⟨xs, calls, removes⟩ := Engine.removeAll_cases unremoved
    exact ⟨requests, between, xs, .error e, captured, calls, removes, rfl⟩
  · cases answered
    obtain ⟨xs, calls, removes⟩ := Engine.removeAll_cases removed
    exact ⟨requests, between, xs, .ok count, captured, calls, removes, rfl⟩

/-- Each container that was there is counted once, however often its name is
given. -/
theorem Removes.count_of_map {engine : Engine W} {containers : W → Containers}
    (isMap : engine.IsMap containers) {names : List String} {xs : List Exchange} {count : Nat}
    (removes : Removes names xs (.ok count)) {w after : W} (calls : engine.Calls w xs after) :
    count = (names.toFinset.filter fun name => (containers w name).isSome).card := by
  generalize outcome : Except.ok count = result at removes
  induction removes generalizing w count with
  | nil =>
    cases outcome
    rfl
  | failed => cases outcome
  | @present name rest xs result _ ih =>
    cases result with
    | error e => cases outcome
    | ok others =>
      cases outcome
      cases calls with
      | @cons _ _ _ between _ made later =>
        have there : containers w name ≠ none := (isMap made).1
        have left : containers between = Function.update (containers w) name none :=
          (isMap made).2
        have gone : name ∉
            rest.toFinset.filter fun other => (containers between other).isSome := by
          simp only [Finset.mem_filter, left, Function.update_self]
          exact fun member => nomatch member.2
        have among : ((name :: rest).toFinset.filter fun other => (containers w other).isSome) =
            insert name
              (rest.toFinset.filter fun other => (containers between other).isSome) := by
          ext other
          simp only [Finset.mem_filter, Finset.mem_insert, List.mem_toFinset, List.mem_cons, left]
          by_cases same : other = name
          · simp [same, Option.isSome_iff_ne_none.mpr there]
          · simp [same]
        rw [ih later rfl, among, Finset.card_insert_of_notMem gone, Nat.add_comm]
  | @missing name other rest xs result _ ih =>
    cases result with
    | error e => cases outcome
    | ok others =>
      cases outcome
      cases calls with
      | @cons _ _ _ between _ made later =>
        have absent : containers w name = none := (isMap made).1
        have unchanged : containers between = containers w := (isMap made).2
        have uncounted : ¬ (containers w name).isSome := by
          rw [absent]
          exact Bool.false_ne_true
        rw [ih later rfl, unchanged, List.toFinset_cons, Finset.filter_insert, if_neg uncounted]
        exact Nat.zero_add _

/-! ### Applications that are torn down -/

/-- What a teardown that captures some names makes of an application that runs
the active deployment of a history. -/
structure History.IsTornDown (history : History) (own : String → Prop) (names : List String)
    (before after : Containers) (answer : Answer) : Prop where
  /-- The captured containers are gone, all others are as they were. -/
  removed : after = before.without names
  /-- The answer counts those that were there. -/
  answered : answer = .tornDown (names.toFinset.filter fun name => (before name).isSome).card
  /-- What is left of the application is what is active and was not captured. -/
  left : ∀ name, own name → (after name ≠ none ↔ name ∈ history.activeNames ∧ name ∉ names)
  /-- It still carries the history. -/
  carried : ∀ name, own name → ∀ configuration, after name = some configuration →
    configuration.Carries history
  /-- So the active deployment and all labels are gone just if all names of the
  active deployment were captured. -/
  complete : ((∀ name ∈ history.activeNames, after name = none) ∧
      ∀ name, own name → ∀ configuration, after name = some configuration →
        configuration.label? historyLabel = none) ↔
    ∀ name ∈ history.activeNames, name ∈ names

/-- Removing what was captured tears a running application down. -/
theorem History.IsRunning.isTornDown {history : History} {own : String → Prop} {c : Containers}
    (running : history.IsRunning own c) (activeOwn : ∀ name ∈ history.activeNames, own name)
    (names : List String) :
    history.IsTornDown own names c (c.without names)
      (.tornDown (names.toFinset.filter fun name => (c name).isSome).card) := by
  have left : ∀ name, own name →
      (c.without names name ≠ none ↔ name ∈ history.activeNames ∧ name ∉ names) := by
    intro name isOwn
    unfold Containers.without
    by_cases captured : name ∈ names
    · simp [captured]
    · constructor
      · intro there
        refine ⟨?_, captured⟩
        by_contra inactive
        rw [if_neg captured, running.absent name isOwn inactive] at there
        exact there rfl
      · rintro ⟨active, _⟩
        obtain ⟨configuration, there, _⟩ := running.carry name active
        rw [if_neg captured, there]
        exact Option.some_ne_none configuration
  refine ⟨rfl, rfl, left, ?_, ?_⟩
  · intro name isOwn configuration there
    unfold Containers.without at there
    split at there
    · cases there
    · exact running.carries_of_own isOwn there
  · constructor
    · rintro ⟨gone, _⟩ name active
      by_contra uncaptured
      exact (left name (activeOwn name active)).mpr ⟨active, uncaptured⟩ (gone name active)
    · intro covered
      have bare : ∀ name, own name → c.without names name = none := by
        intro name isOwn
        by_contra there
        obtain ⟨active, uncaptured⟩ := (left name isOwn).mp there
        exact uncaptured (covered name active)
      refine ⟨fun name active => bare name (activeOwn name active), ?_⟩
      intro name isOwn configuration there
      rw [bare name isOwn] at there
      cases there

/-- After every tenure whose calls meet the active deployment, a teardown removes
what it captures and nothing else. On an engine without faults it succeeds. -/
theorem Tenure.teardown_isTornDown {engine : Engine W} {limit : Option Nat}
    {containers : W → Containers} (isMap : engine.IsMap containers) {own : String → Prop}
    {previous : History} {w : W}
    (tenure : Tenure engine limit containers own History.Meets previous w) (setup : Setup W)
    (aside : (setup.planner engine).Keeps containers) {flags : UpFlags}
    {requests : List CreateRequest} {between after : W} {result : Except Error Answer}
    (planned : ((setup.planner engine).collect flags true).on w = (.ok requests, between))
    (run : (setup.perform (.teardown flags) engine).on w = (result, after)) :
    (engine.IsFaultless → result.isOk) ∧
      ∀ answer, result = .ok answer →
        previous.IsTornDown own (requests.map CreateRequest.name) (containers w)
          (containers after) answer := by
  have kept : containers between = containers w := by
    have collected := aside.collect flags true w
    rwa [planned] at collected
  rcases setup.teardown_cases run with
    ⟨e, unplanned, _⟩ | ⟨_, _, removals, count, planned', calls, removes, rfl⟩
  · rw [planned] at unplanned
    cases unplanned
  rw [planned] at planned'
  cases planned'
  constructor
  · intro faultless
    have handles : ∀ x ∈ removals, x.handlesContainer := by
      intro x member
      obtain ⟨_, _, rfl⟩ := removes.removes x member
      rfl
    obtain ⟨⟨_, rfl⟩, _⟩ := removes.of_map isMap calls (faultless.succeeded calls handles)
    rfl
  · intro answer answered
    cases count with
    | error e => cases answered
    | ok count =>
      cases answered
      obtain ⟨_, gone⟩ := removes.of_map isMap calls (removes.orderly.all rfl)
      have activeOwn : ∀ name ∈ previous.activeNames, own name := by
        intro name member
        obtain ⟨active, isActive, listed⟩ := History.mem_activeNames.mp member
        have remembered := (tenure.remembersOnly isMap fun _ _ _ isOwn => isOwn).1
        exact remembered active (History.mem_of_active? isActive) name listed
      rw [removes.count_of_map isMap calls, gone, kept]
      exact (tenure.isRunning isMap).isTornDown activeOwn _

/-! ### Closing a shop -/

namespace Shop

/-- What comes of tearing down services of these names. -/
def closed (names : List String) (s : Watched World) : Except Error Answer × Watched World :=
  (((deployOf names).setup (some 2)).perform (.teardown ⟨none, none⟩) engine.watched).on s

/-- The shop with two services. -/
def pair : Watched World :=
  deployed ["shop_web_1", "shop_db_1"] ⟨start, []⟩

theorem teardown_requests (names : List String) (s : Watched World) :
    ((((deployOf names).setup (some 2)).planner engine.watched).collect ⟨none, none⟩ true).on s =
      (.ok (names.map request), s) := rfl

theorem pair_holds : ∃ previous : History, Holds History.Meets previous pair ∧
    previous.activeNames = ["shop_web_1", "shop_db_1"] := by
  have own : ∀ name ∈ ["shop_web_1", "shop_db_1"], containers start name = none := by
    decide +kernel
  obtain ⟨manifest, named, holds, _⟩ := opened_holds.deploy (by decide +kernel) own
    (History.Meets.empty _) (Containers.carried_eq_empty own)
  exact ⟨_, holds, (History.activeNames_push (by decide) _ _).trans named⟩

end Shop

theorem Tenure.teardown_isTornDown_shop :
    ∃ (previous : History) (answer : Answer) (after : Watched Shop.World),
      Shop.closed ["shop_web_1", "shop_db_1"] Shop.pair = (.ok answer, after) ∧
        previous.activeNames = ["shop_web_1", "shop_db_1"] ∧
        previous.IsTornDown (fun name => Shop.containers Shop.start name = none)
          ["shop_web_1", "shop_db_1"] (Shop.containers Shop.pair.world)
          (Shop.containers after.world) answer := by
  obtain ⟨previous, holds, active⟩ := Shop.pair_holds
  rcases run : Shop.closed ["shop_web_1", "shop_db_1"] Shop.pair with ⟨result, after⟩
  obtain ⟨succeeds, leaves⟩ := Tenure.teardown_isTornDown Shop.isMap.watched holds.tenure
    ((Shop.deployOf ["shop_web_1", "shop_db_1"]).setup (some 2))
    ((Shop.deployOf_staysAside _).map Prod.fst) (Shop.teardown_requests _ _) run
  cases result with
  | error e => cases succeeds Shop.isFaultless.watched
  | ok answer => exact ⟨previous, answer, after, rfl, active, leaves answer rfl⟩

/-- A shop that tears down one of its two services answers that all history is
gone. The other service is still there and carries it. -/
theorem Shop.teardown_keepsUncaptured :
    ∃ previous : History, Shop.Holds History.Meets previous Shop.pair ∧
      previous.Meets ["shop_web_1"] ∧
      (Shop.closed ["shop_web_1"] Shop.pair).1 =
        .ok (.plain "Successfully removed 1 services and all deployment history") ∧
      "shop_db_1" ∈ previous.activeNames ∧
      ∃ configuration, Shop.containers (Shop.closed ["shop_web_1"] Shop.pair).2.world
          "shop_db_1" = some configuration ∧
        configuration.Carries previous := by
  obtain ⟨previous, holds, active⟩ := Shop.pair_holds
  have listed : "shop_db_1" ∈ previous.activeNames := by
    rw [active]
    decide
  have kept : Shop.containers (Shop.closed ["shop_web_1"] Shop.pair).2.world "shop_db_1" =
      Shop.containers Shop.pair.world "shop_db_1" := by decide +kernel
  refine ⟨previous, holds, ?_, by decide +kernel, listed, ?_⟩
  · have captured : "shop_web_1" ∈ previous.activeNames := by
      rw [active]
      decide
    exact .of_mem (List.mem_singleton_self _) captured
  · rw [kept]
    exact (holds.tenure.isRunning Shop.isMap.watched).carry "shop_db_1" listed

end ComposeDeploy
