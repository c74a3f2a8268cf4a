import ComposeDeploy.Proofs.Deployment.Refusal
import ComposeDeploy.Proofs.Deployment.Retry
import ComposeDeploy.Proofs.Deployment.Reversal

/-!
Teardowns converge.

A teardown works through the names in order, so one that is stopped has removed
the first of them and left the rest, the refused one included
(`Setup.teardown_leaves`). Removing some containers first makes no difference to
removing all. So however often it is stopped, the teardown that succeeds at last
ends where a single one would have ended (`TearsDownAtLast.without`), and what
looks for the same containers after it finds nothing (`Setup.teardown_converges`).
-/

namespace ComposeDeploy

variable {W : Type}

/-! ### What is left -/

/-- In this world an action captures containers of these names, in this order. -/
def Setup.CapturesNames (setup : Setup W) (engine : Engine W) (action : Action) (w : W)
    (names : List String) : Prop :=
  ∃ requests between, (setup.captures engine action).on w = (.ok requests, between) ∧
    requests.map CreateRequest.name = names

/-- The containers of some names have been torn down. -/
structure Containers.AreTornDown (before : Containers) (names : List String) (after : Containers)
    (answer : Answer) : Prop where
  gone : ∀ name ∈ names, after name = none
  others : ∀ name, name ∉ names → after name = before name
  /-- Each container that was there is counted once. -/
  counted : answer = .tornDown (names.toFinset.filter fun name => (before name).isSome).card

theorem Containers.areTornDown_without (c : Containers) (names : List String) :
    c.AreTornDown names (c.without names)
      (.tornDown (names.toFinset.filter fun name => (c name).isSome).card) where
  gone _ member := if_pos member
  others _ absent := if_neg absent
  counted := rfl

theorem Containers.AreTornDown.without {before after : Containers} {names : List String}
    {answer : Answer} (tornDown : before.AreTornDown names after answer) :
    after = before.without names := by
  funext name
  unfold Containers.without
  split
  · next member => exact tornDown.gone name member
  · next absent => exact tornDown.others name absent

/-- What an action comes to that finds none of the containers that it captured. -/
inductive Action.FindsNothing : Action → Except Error Answer → Prop where
  | list (flags : UpFlags) : FindsNothing (.list flags) (.ok (.listing ⟨[]⟩))
  | rollback (options : Restoration) :
    FindsNothing (.rollback options) (.error .noPreviousDeployment)
  | teardown (flags : UpFlags) : FindsNothing (.teardown flags) (.ok (.tornDown 0))

/-- A teardown that captures these names ends so, on some engine that is the map of
these containers, whatever faults it shows. As the names were captured, a failure
is that of a removal. -/
def TearsDown (containers : W → Containers) (names : List String) (w : W)
    (result : Except Error Answer) (after : W) : Prop :=
  ∃ (engine : Engine W) (setup : Setup W) (flags : UpFlags), engine.IsMap containers ∧
    (setup.planner engine).Keeps containers ∧
    setup.CapturesNames engine (.teardown flags) w names ∧
    (setup.perform (.teardown flags) engine).on w = (result, after)

/-- Teardowns of these names are stopped, however often, until one succeeds. -/
inductive TearsDownAtLast (containers : W → Containers) (names : List String) : W → W → Prop where
  | succeeded {w after : W} {answer : Answer} : TearsDown containers names w (.ok answer) after →
    TearsDownAtLast containers names w after
  | again {w between after : W} {e : Error} : TearsDown containers names w (.error e) between →
    TearsDownAtLast containers names between after → TearsDownAtLast containers names w after

/-! ### Single actions -/

section Steps

variable {engine : Engine W} {containers : W → Containers} (isMap : engine.IsMap containers)
include isMap

/-- A teardown removes what it captured, or it is stopped on the way. Without
faults it is not stopped. -/
theorem Setup.teardown_leaves {setup : Setup W} (aside : (setup.planner engine).Keeps containers)
    {flags : UpFlags} {w after : W} {names : List String}
    (captures : setup.CapturesNames engine (.teardown flags) w names)
    {result : Except Error Answer}
    (run : (setup.perform (.teardown flags) engine).on w = (result, after)) :
    (engine.IsFaultless → result.isOk) ∧
      ((∃ answer, result = .ok answer ∧
          (containers w).AreTornDown names (containers after) answer) ∨
        ∃ e gone name left, result = .error e ∧ names = gone ++ name :: left ∧
          containers after = (containers w).without gone) := by
  obtain ⟨requests, between, planned, rfl⟩ := captures
  have kept : containers between = containers w := (setup.captures_keeps aside _).of_on planned
  have planned : ((setup.planner engine).collect flags true).on w = (.ok requests, between) :=
    planned
  rcases setup.teardown_cases run with
    ⟨e, unplanned, _⟩ | ⟨_, _, removals, count, planned', calls, removes, rfl⟩
  · rw [planned] at unplanned
    cases unplanned
  rw [planned] at planned'
  cases planned'
  constructor
  · intro faultless
    have handles : ∀ x ∈ removals, x.handlesContainer := by
      intro x member
      obtain ⟨_, _, rfl⟩ := removes.removes x member
      rfl
    obtain ⟨⟨_, rfl⟩, _⟩ := removes.of_map isMap calls (faultless.succeeded calls handles)
    rfl
  · cases count with
    | ok count =>
      obtain ⟨_, without⟩ := removes.of_map isMap calls (removes.orderly.all rfl)
      rw [kept] at without
      refine .inl ⟨_, rfl, ?_⟩
      rw [without, removes.count_of_map isMap calls, kept]
      exact Containers.areTornDown_without _ _
    | error e =>
      obtain ⟨gone, name, left, split, _, _, without⟩ := removes.stuck_of_map isMap calls
      rw [kept] at without
      exact .inr ⟨e, gone, name, left, rfl, split, without⟩

theorem Setup.teardown_succeeds (faultless : engine.IsFaultless) {setup : Setup W}
    (aside : (setup.planner engine).Keeps containers) {flags : UpFlags} {w : W}
    {names : List String} (captures : setup.CapturesNames engine (.teardown flags) w names) :
    ∃ answer after, (setup.perform (.teardown flags) engine).on w = (.ok answer, after) ∧
      (containers w).AreTornDown names (containers after) answer := by
  rcases run : (setup.perform (.teardown flags) engine).on w with ⟨result, after⟩
  obtain ⟨succeeds, left⟩ := teardown_leaves isMap aside captures run
  rcases left with ⟨answer, rfl, tornDown⟩ | ⟨e, _, _, _, rfl, _⟩
  · exact ⟨answer, after, rfl, tornDown⟩
  · cases succeeds faultless

/-- An action that captures containers that are not there finds nothing and
changes nothing. -/
theorem Action.FindsNothing.perform (faultless : engine.IsFaultless) {action : Action}
    {expected : Except Error Answer} (findsNothing : action.FindsNothing expected)
    {setup : Setup W} (aside : (setup.planner engine).Keeps containers) {w : W}
    {names : List String} (captures : setup.CapturesNames engine action w names)
    (bare : ∀ name ∈ names, containers w name = none) :
    ∃ later, (setup.perform action engine).on w = (expected, later) ∧
      containers later = containers w := by
  obtain ⟨requests, between, planned, rfl⟩ := captures
  have kept : containers between = containers w := (setup.captures_keeps aside _).of_on planned
  obtain ⟨read, told, unchanged⟩ :=
    Engine.carriedHistory_on isMap faultless (requests.map CreateRequest.name) between
  rw [kept, Containers.carried_eq_empty bare] at told
  cases findsNothing with
  | list flags =>
    refine ⟨read, ?_, unchanged.trans kept⟩
    have planned : ((setup.planner engine).collect flags true).on w = (.ok requests, between) :=
      planned
    show (setup.list flags engine).on w = _
    rw [Setup.list, Act.on_bind, planned]
    simp only [Act.on_bind, told]
    rfl
  | rollback options =>
    rcases run : (setup.perform (.rollback options) engine).on w with ⟨result, after⟩
    obtain ⟨rfl, rfl⟩ := Setup.rollback_refused planned told run
      (History.restoration_eq_noPrevious_iff.mpr (by decide))
    exact ⟨after, rfl, unchanged.trans kept⟩
  | teardown flags =>
    obtain ⟨answer, after, run, tornDown⟩ :=
      Setup.teardown_succeeds isMap faultless aside ⟨requests, between, planned, rfl⟩
    have nothing : ((requests.map CreateRequest.name).toFinset.filter
        fun name => (containers w name).isSome) = ∅ := by
      refine Finset.filter_eq_empty_iff.mpr fun name member => ?_
      rw [bare name (List.mem_toFinset.mp member)]
      exact Bool.false_ne_true
    refine ⟨after, ?_, ?_⟩
    · rw [run, tornDown.counted, nothing, Finset.card_empty]
    · rw [tornDown.without, Containers.without_of_absent bare]

end Steps

/-! ### Tries -/

/-- A try that fails has removed some of the containers, one that succeeds all of
them. -/
theorem TearsDown.leaves {containers : W → Containers} {names : List String} {w after : W}
    {result : Except Error Answer} (tears : TearsDown containers names w result after) :
    ∃ gone, (∀ name ∈ gone, name ∈ names) ∧ containers after = (containers w).without gone ∧
      (result.isOk → gone = names) := by
  obtain ⟨engine, setup, flags, isMap, aside, captures, run⟩ := tears
  rcases (Setup.teardown_leaves isMap aside captures run).2 with
    ⟨answer, rfl, tornDown⟩ | ⟨e, gone, name, left, rfl, rfl, without⟩
  · exact ⟨names, fun _ member => member, tornDown.without, fun _ => rfl⟩
  · exact ⟨gone, fun _ member => List.mem_append_left _ member, without, nofun⟩

/-- What was removed on the way is among what is removed at last. -/
theorem TearsDownAtLast.without {containers : W → Containers} {names : List String} {w after : W}
    (tears : TearsDownAtLast containers names w after) :
    containers after = (containers w).without names := by
  induction tears with
  | succeeded tears =>
    obtain ⟨gone, _, without, all⟩ := tears.leaves
    rw [without, all rfl]
  | again tears _ ih =>
    obtain ⟨gone, among, without, _⟩ := tears.leaves
    rw [ih, without, Containers.without_without among]

/-! ### Main result -/

/-- A teardown without faults removes the containers that it captured and no
others, and counts those that were there. After it there is nothing left of them
to tear down, to list or to roll back, in whatever order they are captured, and
teardowns of the same containers that were stopped until one succeeded have left
the same. -/
theorem Setup.teardown_converges (setup : Setup W) {engine : Engine W}
    {containers : W → Containers} (isMap : engine.IsMap containers)
    (faultless : engine.IsFaultless) (aside : (setup.planner engine).Keeps containers)
    {flags : UpFlags} {w : W} {names : List String}
    (captures : setup.CapturesNames engine (.teardown flags) w names) :
    ∃ answer after, (setup.perform (.teardown flags) engine).on w = (.ok answer, after) ∧
      (containers w).AreTornDown names (containers after) answer ∧
      (∀ (next : Setup W) (action : Action) (expected : Except Error Answer)
          (same : List String), action.FindsNothing expected →
        (next.planner engine).Keeps containers → (∀ name ∈ same, name ∈ names) →
        next.CapturesNames engine action after same →
        ∃ later, (next.perform action engine).on after = (expected, later) ∧
          containers later = containers after) ∧
      ∀ final, TearsDownAtLast containers names w final →
        containers final = containers after := by
  obtain ⟨answer, after, run, tornDown⟩ := teardown_succeeds isMap faultless aside captures
  refine ⟨answer, after, run, tornDown, ?_, ?_⟩
  · intro next action expected same findsNothing aside' among captures'
    exact findsNothing.perform isMap faultless aside' captures' fun name member =>
      tornDown.gone name (among name member)
  · intro final tears
    rw [tears.without, tornDown.without]

namespace Shop

/-- Names one of its two containers twice. -/
def closing : Setup World :=
  (planning ["db", "web", "db"] "2024-02-05T00:00:00Z" rollback).setup (some 2)

/-- What comes of closing the shop. -/
def closeDown (engine : Engine World) (w : World) : Except Error Answer × World :=
  (closing.perform (.teardown ⟨none, none⟩) engine).on w

theorem closing_captures (engine : Engine World) (w : World) :
    closing.CapturesNames engine (.teardown ⟨none, none⟩) w ["db", "web", "db"] :=
  ⟨_, w, rfl, map_name_request _⟩

theorem closeDown_tearsDown {faults : Faults} {w after : World} {result : Except Error Answer}
    (run : closeDown (failing faults) w = (result, after)) :
    TearsDown containers ["db", "web", "db"] w result after :=
  ⟨failing faults, closing, ⟨none, none⟩, failing_isMap faults, Planner.reporting_keeps _,
    closing_captures _ w, run⟩

end Shop

theorem Setup.teardown_converges_shop :
    ∃ after stopped final,
      Shop.closeDown Shop.engine Shop.shared.world = (.ok (.tornDown 2), after) ∧
        (Shop.containers Shop.shared.world).AreTornDown ["db", "web", "db"]
          (Shop.containers after) (.tornDown 2) ∧
        Shop.closeDown (Shop.irremovable "web") Shop.shared.world =
          (.error (.removal "web" "device or resource busy"), stopped) ∧
        Shop.closeDown (Shop.failing .none) stopped = (.ok (.tornDown 1), final) ∧
        Shop.containers final = Shop.containers after := by
  obtain ⟨whole, refused, rest⟩ :
      (Shop.closeDown Shop.engine Shop.shared.world).1 = .ok (.tornDown 2) ∧
        (Shop.closeDown (Shop.irremovable "web") Shop.shared.world).1 =
          .error (.removal "web" "device or resource busy") ∧
        (Shop.closeDown (Shop.failing .none)
          (Shop.closeDown (Shop.irremovable "web") Shop.shared.world).2).1 =
            .ok (.tornDown 1) := by
    decide +kernel
  obtain ⟨answer, after, run, tornDown, _, same⟩ := Setup.teardown_converges Shop.closing
    Shop.isMap Shop.isFaultless (Planner.reporting_keeps _)
    (Shop.closing_captures _ Shop.shared.world)
  have run : Shop.closeDown Shop.engine Shop.shared.world = (.ok answer, after) := run
  rw [run] at whole
  cases whole
  rcases first : Shop.closeDown (Shop.irremovable "web") Shop.shared.world with ⟨_, stopped⟩
  rw [first] at refused rest
  cases refused
  rcases second : Shop.closeDown (Shop.failing .none) stopped with ⟨_, final⟩
  rw [second] at rest
  cases rest
  exact ⟨after, stopped, final, run, tornDown, rfl, second,
    same final (.again (Shop.closeDown_tearsDown first)
      (.succeeded (Shop.closeDown_tearsDown second)))⟩

end ComposeDeploy
