import ComposeDeploy.Proofs.Deployment.Provenance
import ComposeDeploy.Proofs.Deployment.Teardown

/-!
Which containers an action may touch.

What was captured and what was read of a history fix the names that an action
may remove and those that it may start (`Action.reach`). Whatever the engine
answers, every action keeps to these names (`Setup.perform_staysWithin`), and on
an engine whose calls touch one container each, all other containers stay as
they were.
-/

namespace ComposeDeploy

variable {W : Type}

/-! ### Touching containers -/

/-- The container that a call starts or removes. -/
def Exchange.touched? : Exchange → Option String
  | .start container _ _ | .remove container _ => some container
  | _ => none

/-- A call touches no container but the one that it starts or removes, whether
it succeeds or fails. -/
def Engine.IsLocal (engine : Engine W) (containers : W → Containers) : Prop :=
  ∀ ⦃x : Exchange⦄ ⦃w after : W⦄, x.Made engine w after →
    ∀ name, x.touched? ≠ some name → containers after name = containers w name

theorem Engine.IsMap.isLocal {engine : Engine W} {containers : W → Containers}
    (isMap : engine.IsMap containers) : engine.IsLocal containers := by
  intro x w after made name untouched
  rw [(isMap made).2]
  cases x with
  | start container configuration result =>
    have other : name ≠ container := fun same => untouched (congrArg some same.symm)
    cases result with
    | ok => exact Function.update_of_ne other _ _
    | error => rfl
  | remove container result =>
    have other : name ≠ container := fun same => untouched (congrArg some same.symm)
    cases result with
    | ok => exact Function.update_of_ne other _ _
    | error => rfl
  | _ => rfl

theorem Engine.IsLocal.watched {engine : Engine W} {containers : W → Containers}
    (isLocal : engine.IsLocal containers) :
    engine.watched.IsLocal fun s => containers s.world := by
  intro x s after made
  exact isLocal made.watched.1

/-- A container that no call touches stays as it was. -/
theorem Engine.IsLocal.calls {engine : Engine W} {containers : W → Containers}
    (isLocal : engine.IsLocal containers) {xs : List Exchange} {w after : W}
    (calls : engine.Calls w xs after) {name : String}
    (untouched : ∀ x ∈ xs, x.touched? ≠ some name) :
    containers after name = containers w name :=
  calls.keeps fun x member _ _ made => isLocal made name (untouched x member)

/-! ### The reach of an action -/

/-- The containers that may be removed and those that may be started. -/
structure Reach where
  removes : List String
  starts : List String

/-- The call is within the reach. -/
def Reach.Admits (reach : Reach) : Exchange → Prop
  | .remove container _ => container ∈ reach.removes
  | .start container _ _ => container ∈ reach.starts
  | _ => True

/-- The containers of the deployment that a rollback restores; none if there is
no such deployment. -/
def History.targetNames (history : History) (requested : Option String) : List String :=
  ((history.restoration requested).toOption.map fun found => found.2.containerNames).getD []

/-- The reach of an action that has captured some names and read a history. -/
def Action.reach (captured : List String) (history : History) : Action → Reach
  | .verify | .list _ => ⟨[], []⟩
  | .deploy _ => ⟨captured ++ history.activeNames, captured⟩
  | .rollback options => ⟨history.activeNames, history.targetNames options.index⟩
  | .teardown _ => ⟨captured, []⟩

/-- The history that was read, the empty one if there was none. -/
def historyRead (xs : List Exchange) : History :=
  ((readFrom? xs).map Prod.snd).getD .empty

/-- What an action captures. -/
def Setup.captures (setup : Setup W) (engine : Engine W) : Action → Act W (List CreateRequest)
  | .verify => pure []
  | .deploy options => (setup.planner engine).collect options.flags options.skipBuilds
  | .rollback options => (setup.planner engine).collect options.flags options.skipBuilds
  | .list flags | .teardown flags => (setup.planner engine).collect flags true

/-- The names that were captured, none if that failed. -/
def capturedNames (captured : Except Error (List CreateRequest)) : List String :=
  (captured.toOption.getD []).map CreateRequest.name

/-- The exchanges are within the reach, and the containers outside it are the
same after them. -/
structure Reach.Bounds (reach : Reach) (before after : Containers) (xs : List Exchange) :
    Prop where
  admits : ∀ x ∈ xs, reach.Admits x
  others : ∀ name, name ∉ reach.removes → name ∉ reach.starts → after name = before name

theorem Reach.Admits.untouched {reach : Reach} {x : Exchange} (admits : reach.Admits x)
    {name : String} (notRemoved : name ∉ reach.removes) (notStarted : name ∉ reach.starts) :
    x.touched? ≠ some name := by
  intro touched
  cases x with
  | remove container result =>
    cases touched
    exact notRemoved admits
  | start container configuration result =>
    cases touched
    exact notStarted admits
  | _ => cases touched

/-! ### Single steps -/

theorem Removes.named {names : List String} {xs : List Exchange} {result : Except Error Nat}
    (removes : Removes names xs result) :
    ∀ x ∈ xs, ∃ name ∈ names, ∃ answer, x = .remove name answer := by
  induction removes with
  | nil => exact List.forall_mem_nil _
  | failed => exact List.forall_mem_singleton.mpr ⟨_, List.mem_cons_self, _, rfl⟩
  | present _ ih | missing _ ih =>
    refine List.forall_mem_cons.mpr ⟨⟨_, List.mem_cons_self, _, rfl⟩, ?_⟩
    intro x member
    obtain ⟨name, listed, answer, rfl⟩ := ih x member
    exact ⟨name, List.mem_cons_of_mem _ listed, answer, rfl⟩

theorem Starts.named {label : String} {services : List Service} {xs : List Exchange}
    {result : Except Error Unit} (starts : Starts label services xs result) :
    ∀ x ∈ xs, ∃ name ∈ services.map Service.name, ∃ configuration answer,
      x = .start name configuration answer := by
  induction starts with
  | nil => exact List.forall_mem_nil _
  | failed => exact List.forall_mem_singleton.mpr ⟨_, List.mem_cons_self, _, _, rfl⟩
  | more _ ih =>
    refine List.forall_mem_cons.mpr ⟨⟨_, List.mem_cons_self, _, _, rfl⟩, ?_⟩
    intro x member
    obtain ⟨name, listed, configuration, answer, rfl⟩ := ih x member
    exact ⟨name, List.mem_cons_of_mem _ listed, configuration, answer, rfl⟩

/-- The history that was read can be told from the exchanges. -/
theorem Reads.historyRead {names : List String} {xs : List Exchange} {history : History}
    (reads : Reads names xs (.ok history)) : ComposeDeploy.historyRead xs = history := by
  generalize outcome : Except.ok history = result at reads
  induction reads with
  | nil =>
    cases outcome
    rfl
  | failed => cases outcome
  | @found name rest inspection =>
    simp only [ComposeDeploy.historyRead, readFrom?, List.findSome?_cons, Exchange.found?,
      Option.bind_some, ← outcome]
    rfl
  | absent _ ih => exact ih outcome

/-! ### Whole changes -/

/-- A change that has something to remove or to start has read a history and
chosen its turn. -/
theorem CarriesOut.turns {limit : Option Nat} {intent : Intent}
    {inspections removals starts : List Exchange} {result : Except Error Answer}
    (carries : CarriesOut limit intent inspections removals starts result) :
    (removals = [] ∧ starts = []) ∨
      ∃ history turn, Reads intent.names inspections (.ok history) ∧
        intent.turn history = .ok turn ∧
        (∀ x ∈ removals, ∃ name ∈ turn.old, ∃ answer, x = .remove name answer) ∧
        ∀ x ∈ starts, ∃ name ∈ turn.manifest.containerNames, ∃ configuration answer,
          x = .start name configuration answer := by
  cases carries with
  | unread => exact .inl ⟨rfl, rfl⟩
  | refused => exact .inl ⟨rfl, rfl⟩
  | @unremoved _ history turn _ reads chosen removes =>
    exact .inr ⟨history, turn, reads, chosen, removes.named, List.forall_mem_nil _⟩
  | @turned _ _ history turn _ _ reads chosen removes brings =>
    refine .inr ⟨history, turn, reads, chosen, removes.named, ?_⟩
    intro x member
    obtain ⟨name, active, configuration, answer, rfl⟩ := brings.startsActive.named x member
    rw [History.map_name_activeServices] at active
    exact ⟨name, History.mem_of_mem_activeNames_push active, configuration, answer, rfl⟩

/-- The turn of a change is within its reach. -/
theorem Change.Resolves.reach {now : String} {change : Change} {requests : List CreateRequest}
    {xs : List Exchange} {intent : Intent} {history : History} {turn : Turn}
    (resolves : change.Resolves now requests xs (.ok intent))
    (chosen : intent.turn history = .ok turn) :
    (∀ name ∈ turn.old,
        name ∈ (change.action.reach (requests.map CreateRequest.name) history).removes) ∧
      ∀ name ∈ turn.manifest.containerNames,
        name ∈ (change.action.reach (requests.map CreateRequest.name) history).starts := by
  cases change with
  | deploy options =>
    obtain ⟨names, old⟩ := resolves.deployed chosen
    constructor
    · intro name removed
      rw [old] at removed
      exact List.mem_append.mpr (Setup.mem_stale.mp removed)
    · intro name started
      rwa [names] at started
  | rollback options =>
    obtain ⟨index, target, restored, manifest, old⟩ := resolves.restored chosen
    constructor
    · intro name removed
      rwa [old] at removed
    · intro name started
      rw [manifest] at started
      show name ∈ history.targetNames options.index
      rw [History.targetNames, restored]
      exact started

/-- Whatever it is answered, a change makes no call beyond its reach. -/
theorem Change.Makes.admitted {now : String} {limit : Option Nat} {change : Change}
    {captured : Except Error (List CreateRequest)} {phases : Phases}
    {result : Except Error Answer} (makes : change.Makes now limit captured phases result) :
    ∀ x ∈ phases.all,
      (change.action.reach (capturedNames captured) (historyRead phases.all)).Admits x := by
  intro x member
  rw [Phases.all] at member
  rcases List.mem_append.mp member with resolution | member
  · obtain ⟨_, _, rfl⟩ := makes.resolves x resolution
    trivial
  rcases List.mem_append.mp member with inspection | member
  · obtain ⟨_, _, rfl⟩ := makes.inspects x inspection
    trivial
  have read : historyRead phases.all = historyRead phases.inspections := by
    rw [historyRead, readFrom?, makes.found?, historyRead, readFrom?]
  rw [read]
  cases makes with
  | unplanned => cases member
  | unresolved => cases member
  | @carriedOut requests _ intent _ _ _ _ resolves carries =>
    rcases carries.turns with ⟨rfl, rfl⟩ | ⟨history, turn, reads, chosen, removes, starts⟩
    · cases member
    have within := resolves.reach chosen
    rw [← reads.historyRead] at within
    rcases List.mem_append.mp member with removal | start
    · obtain ⟨name, old, answer, rfl⟩ := removes x removal
      exact within.1 name old
    · obtain ⟨name, new, _, _, rfl⟩ := starts x start
      exact within.2 name new

/-! ### All actions -/

/-- An action captures names and then makes its own calls, all of them within
its reach. -/
structure Action.MakesCalls (action : Action) (setup : Setup W) (engine : Engine W) (w after : W)
    (captured : Except Error (List CreateRequest)) (between : W) (xs : List Exchange) : Prop where
  planned : (setup.captures engine action).on w = (captured, between)
  calls : engine.Calls between xs after
  noBuilds : ∀ x ∈ xs, x.isBuild = false
  admits : ∀ x ∈ xs, (action.reach (capturedNames captured) (historyRead xs)).Admits x

section Actions

variable (setup : Setup W) {engine : Engine W} {w after : W} {result : Except Error Answer}

theorem Setup.verify_calls (run : (setup.perform .verify engine).on w = (result, after)) :
    ∃ captured between xs, Action.verify.MakesCalls setup engine w after captured between xs := by
  have last : ((Setup.verify engine).on w).2 = (engine.version.on w).2 := by
    unfold Setup.verify Engine.verify
    simp only [Act.on_bind]
    rcases engine.version.on w with ⟨answer, between⟩
    cases answer with
    | error e => rfl
    | ok version =>
      simp only [Act.on_settle]
      cases Version.check version <;> rfl
  rcases told : engine.version.on w with ⟨answer, between⟩
  have run : (Setup.verify engine).on w = (result, after) := run
  rw [run, told] at last
  cases last
  exact ⟨.ok [], w, _, rfl, .single (x := .version answer) told,
    List.forall_mem_singleton.mpr rfl, List.forall_mem_singleton.mpr trivial⟩

theorem Setup.list_calls {flags : UpFlags}
    (run : (setup.perform (.list flags) engine).on w = (result, after)) :
    ∃ captured between xs,
      (Action.list flags).MakesCalls setup engine w after captured between xs := by
  have inspects : ∃ captured between xs read, ((setup.planner engine).collect flags true).on w =
      (captured, between) ∧ engine.Calls between xs after ∧
        Reads (capturedNames captured) xs read := by
    rcases Act.bind_cases run with ⟨e, failed, rfl⟩ | ⟨requests, between, captured, rest⟩
    · exact ⟨_, after, [], _, failed, .nil, .nil⟩
    rcases Act.bind_cases rest with ⟨e, unread, rfl⟩ | ⟨history, _, read, answered⟩
    · obtain ⟨xs, calls, reads⟩ := Engine.carriedHistory_cases unread
      exact ⟨_, between, xs, _, captured, calls, reads⟩
    · cases answered
      obtain ⟨xs, calls, reads⟩ := Engine.carriedHistory_cases read
      exact ⟨_, between, xs, _, captured, calls, reads⟩
  obtain ⟨captured, between, xs, read, planned, calls, reads⟩ := inspects
  refine ⟨captured, between, xs, planned, calls, ?_, ?_⟩
  all_goals
    intro x member
    obtain ⟨_, _, rfl⟩ := reads.inspects x member
  · rfl
  · trivial

theorem Setup.teardown_calls {flags : UpFlags}
    (run : (setup.perform (.teardown flags) engine).on w = (result, after)) :
    ∃ captured between xs,
      (Action.teardown flags).MakesCalls setup engine w after captured between xs := by
  rcases setup.teardown_cases run with
    ⟨e, failed, rfl⟩ | ⟨requests, between, xs, _, planned, calls, removes, _⟩
  · exact ⟨_, after, [], failed, .nil, List.forall_mem_nil _, List.forall_mem_nil _⟩
  refine ⟨_, between, xs, planned, calls, ?_, ?_⟩
  all_goals
    intro x member
    obtain ⟨name, captured, _, rfl⟩ := removes.named x member
  · rfl
  · exact captured

theorem Setup.change_calls {change : Change}
    (run : (setup.perform change.action engine).on w = (result, after)) :
    ∃ captured between xs,
      change.action.MakesCalls setup engine w after captured between xs := by
  obtain ⟨captured, between, phases, planned, calls, makes⟩ := setup.change_cases run
  refine ⟨captured, between, phases.all, ?_, calls, makes.noBuilds, makes.admitted⟩
  cases change <;> exact planned

theorem Setup.perform_calls {action : Action}
    (run : (setup.perform action engine).on w = (result, after)) :
    ∃ captured between xs, action.MakesCalls setup engine w after captured between xs := by
  cases action with
  | verify => exact setup.verify_calls run
  | deploy options =>
    have run : (setup.perform (Change.deploy options).action engine).on w = (result, after) := run
    exact setup.change_calls run
  | rollback options =>
    have run : (setup.perform (Change.rollback options).action engine).on w = (result, after) := run
    exact setup.change_calls run
  | list flags => exact setup.list_calls run
  | teardown flags => exact setup.teardown_calls run

end Actions

/-- Capturing keeps what planning keeps. -/
theorem Setup.captures_keeps {α : Type} (setup : Setup W) {engine : Engine W} {view : W → α}
    (aside : (setup.planner engine).Keeps view) (action : Action) :
    (setup.captures engine action).Keeps view := by
  cases action with
  | verify => exact .pure []
  | _ => exact aside.collect _ _

/-- Whether it succeeds or fails, an action removes and starts no containers but
those that it captured or found named in the history that it read, and leaves all
others as they were. -/
theorem Setup.perform_staysWithin (setup : Setup (Watched W)) {engine : Engine W}
    {containers : W → Containers} (isLocal : engine.IsLocal containers)
    (aside : (setup.planner engine.watched).Keeps fun s => (containers s.world, s.own))
    (action : Action) (s : Watched W) :
    ∃ xs, ((setup.perform action engine.watched).on s).2.own = s.own ++ xs ∧
      (action.reach (capturedNames ((setup.captures engine.watched action).on s).1)
          (historyRead xs)).Bounds
        (containers s.world)
        (containers ((setup.perform action engine.watched).on s).2.world) xs := by
  rcases run : (setup.perform action engine.watched).on s with ⟨result, after⟩
  obtain ⟨captured, between, xs, makes⟩ := setup.perform_calls run
  have kept := setup.captures_keeps aside action s
  rw [makes.planned] at kept ⊢
  obtain ⟨sameContainers, sameOwn⟩ := Prod.mk.inj kept
  refine ⟨xs, ?_, makes.admits, ?_⟩
  · rw [makes.calls.own makes.noBuilds, sameOwn]
  · intro name notRemoved notStarted
    rw [← sameContainers]
    exact isLocal.watched.calls makes.calls fun x member =>
      (makes.admits x member).untouched notRemoved notStarted

namespace Shop

/-- A shop that runs two services beside the container of someone else. -/
def shared : Watched World :=
  ⟨((running (once ["web", "db"])).world.1.insert "registry" (some .empty), start.2), []⟩

/-- A deployment that keeps one of the two services and adds another. -/
def sharedSetup : Setup (Watched World) :=
  (deployOf ["web", "api"]).setup (some 2)

def sharedDeploy : Action :=
  .deploy ⟨⟨none, none⟩, "", false⟩

/-- What a deployment leaves that cannot start one of its services. -/
def halfDeployed : Except Error Answer × Watched World :=
  (sharedSetup.perform sharedDeploy (unstartable "api").watched).on shared

end Shop

theorem Setup.perform_staysWithin_shop :
    Shop.halfDeployed.1 = .error (.start "api" "no space left on device") ∧
      Reach.Bounds ⟨["web", "api", "web", "db"], ["web", "api"]⟩
        (Shop.containers Shop.shared.world) (Shop.containers Shop.halfDeployed.2.world)
        Shop.halfDeployed.2.own ∧
      Shop.containers Shop.halfDeployed.2.world "registry" ≠ none ∧
      Shop.containers Shop.halfDeployed.2.world "db" = none := by
  obtain ⟨failed, read, kept, removed⟩ :
      Shop.halfDeployed.1 = .error (.start "api" "no space left on device") ∧
        historyRead Shop.halfDeployed.2.own = Shop.once ["web", "db"] ∧
        Shop.containers Shop.halfDeployed.2.world "registry" ≠ none ∧
        Shop.containers Shop.halfDeployed.2.world "db" = none := by
    decide +kernel
  have captured : capturedNames ((Shop.sharedSetup.captures (Shop.unstartable "api").watched
      Shop.sharedDeploy).on Shop.shared).1 = ["web", "api"] := by
    decide +kernel
  refine ⟨failed, ?_, kept, removed⟩
  have isLocal : (Shop.unstartable "api").IsLocal Shop.containers := (Shop.failing_isMap _).isLocal
  obtain ⟨xs, own, bounds⟩ := Setup.perform_staysWithin Shop.sharedSetup isLocal
    (Shop.deployOf_staysAside _) Shop.sharedDeploy Shop.shared
  have half : (Shop.sharedSetup.perform Shop.sharedDeploy (Shop.unstartable "api").watched).on
      Shop.shared = Shop.halfDeployed := rfl
  rw [half] at own bounds
  have same : Shop.halfDeployed.2.own = xs := own
  rw [← same, read, captured] at bounds
  exact bounds

end ComposeDeploy
