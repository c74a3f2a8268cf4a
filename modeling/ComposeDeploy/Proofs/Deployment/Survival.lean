import ComposeDeploy.Proofs.Deployment.Succession
import ComposeDeploy.Proofs.Engine.Images

/-!
What survives a failure.

`History.IsRunning` says that an application runs the active deployment of a
history and nothing else. A call that fails then, at whatever position and with
whatever faults, leaves a container that carries the history or the one that it
was about to install (`Call.failed_keepsHistory`). There is one gap, between the
last removal and the first start (`History.IsCutOff`): a shop whose only service
does not start has lost its history.
-/

namespace ComposeDeploy

variable {W : Type}

/-! ### Running deployments -/

/-- The containers of an application are those of the active deployment of a
history, and each carries the history. -/
structure History.IsRunning (history : History) (own : String → Prop) (c : Containers) :
    Prop where
  carry : c.Carry history
  absent : ∀ name, own name → name ∉ history.activeNames → c name = none

/-- The newest deployments of a stored ledger are running. -/
theorem History.IsStored.isRunning {ledger : History} {limit : Option Nat}
    {foreign c : Containers} (stored : ledger.IsStored limit foreign c)
    (positive : limit ≠ some 0) :
    (ledger.newest limit).IsRunning (fun name => foreign name = none) c := by
  constructor
  · intro name listed
    rw [activeNames_newest positive] at listed
    obtain ⟨active, isActive, named⟩ := mem_activeNames.mp listed
    obtain ⟨service, running, rfl⟩ := List.mem_map.mp named
    exact ⟨_, stored.present active isActive service running, service.carries_labeled _⟩
  · intro name own inactive
    rw [activeNames_newest positive] at inactive
    exact stored.absent name own inactive

/-- After every run, the newest deployments of the ledger are running. So what is
said here of running applications holds in every world that a run reaches. -/
theorem Run.isRunning {engine : Engine W} {limit : Option Nat} {containers : W → Containers}
    {start : W} (positive : limit ≠ some 0) (isMap : engine.IsMap containers)
    (faultless : engine.IsFaultless) {ledger : History} {w : W}
    (run : Run engine limit containers start ledger w) :
    (ledger.newest limit).IsRunning (fun name => containers start name = none) (containers w) :=
  (run.isStored positive isMap faultless).isRunning positive

namespace History.IsRunning

variable {history : History} {own : String → Prop} {c : Containers}
  (running : history.IsRunning own c)
include running

/-- Every container of the application carries the history. -/
theorem carries_of_own {name : String} (isOwn : own name) {configuration : Configuration}
    (there : c name = some configuration) : configuration.Carries history := by
  by_cases active : name ∈ history.activeNames
  · obtain ⟨carrier, there', carries⟩ := running.carry name active
    rw [there] at there'
    cases there'
    exact carries
  · rw [running.absent name isOwn active] at there
    cases there

/-- As long as one of the captured containers is left, the history is read. -/
theorem carried_without {gone names : List String} (isOwn : ∀ name ∈ names, own name)
    (left : ∃ name ∈ names, c.without gone name ≠ none) :
    (c.without gone).carried names = .ok history := by
  apply Containers.carried_of_forall left
  intro name member configuration there
  unfold Containers.without at there
  split at there
  · cases there
  · exact (running.carries_of_own (isOwn name member) there).read

theorem carried {names : List String} (isOwn : ∀ name ∈ names, own name)
    (meets : ∃ name ∈ names, name ∈ history.activeNames) : c.carried names = .ok history := by
  obtain ⟨name, member, active⟩ := meets
  obtain ⟨configuration, there, _⟩ := running.carry name active
  apply Containers.carried_of_forall
  · exact ⟨name, member, by rw [there]; exact Option.some_ne_none configuration⟩
  · intro other captured carrier there
    exact (running.carries_of_own (isOwn other captured) there).read

/-- Once the active deployment is gone, the application has no container. -/
theorem bare_without {gone : List String} (all : ∀ name ∈ history.activeNames, name ∈ gone)
    {name : String} (ours : own name ∨ name ∈ history.activeNames) :
    c.without gone name = none := by
  unfold Containers.without
  split
  · rfl
  · next kept =>
    have inactive : name ∉ history.activeNames := fun active => kept (all name active)
    exact running.absent name (ours.resolve_right inactive) inactive

/-- What replaces the active deployment is running. -/
theorem replaced {old : List String} (covers : ∀ name ∈ history.activeNames, name ∈ old)
    (next : History) : next.IsRunning own ((c.without old).broughtUp next) := by
  constructor
  · exact Containers.carry_broughtUp _ next
  · intro name isOwn inactive
    rw [Containers.broughtUp_of_notMem inactive]
    exact running.bare_without covers (.inl isOwn)

end History.IsRunning

/-! ### Failing calls -/

/-- The last exchange of a change that starts nothing is its last removal. -/
theorem Phases.getLast?_of_removals {phases : Phases} (idle : phases.starts = []) {x : Exchange}
    (last : phases.removals.getLast? = some x) : phases.all.getLast? = some x := by
  simp only [Phases.all, idle, List.getLast?_append, List.getLast?_nil, last, Option.none_or,
    Option.some_or]

theorem Phases.getLast?_of_starts {phases : Phases} {x : Exchange}
    (last : phases.starts.getLast? = some x) : phases.all.getLast? = some x := by
  simp only [Phases.all, List.getLast?_append, last, Option.some_or]

/-- Some container carries the history in its label, or the history that the
call was about to install. -/
def Call.KeepsHistory (call : Call W) (engine : Engine W) (limit : Option Nat) (history : History)
    (w : W) (c : Containers) : Prop :=
  ∃ name configuration, c name = some configuration ∧
    (configuration.Carries history ∨ ∃ manifest, call.made engine history w = .ok manifest ∧
      configuration.Carries (history.push manifest limit))

/-- A failure has struck between the last removal and the first start of what a
call says to the engine. -/
structure History.IsCutOff (history : History) (own : String → Prop) (xs : List Exchange)
    (e : Error) (c : Containers) : Prop where
  /-- No container of the application is left. -/
  bare : ∀ name, own name ∨ name ∈ history.activeNames → c name = none
  /-- None has been started. -/
  unbegun : xs.filterMap Exchange.started? = []
  /-- The first start has been refused, or the removal of a container that was
  not there. -/
  refused : (∃ name configuration, xs.getLast? = some (.start name configuration (.error e))) ∨
    ∃ name, (own name ∨ name ∈ history.activeNames) ∧
      xs.getLast? = some (.remove name (.error e))

/-- What a failing turn leaves still carries a history, or it is cut off. -/
theorem Turn.Leaves.keeps {turn : Turn} {history next : History} {own : String → Prop}
    {before after : Containers} {phases : Phases} {e : Error}
    (running : history.IsRunning own before)
    (covers : ∀ name ∈ history.activeNames, name ∈ turn.old)
    (within : ∀ name ∈ turn.old, own name ∨ name ∈ history.activeNames)
    (begun : phases.all.filterMap Exchange.started? = phases.starts.filterMap Exchange.started?)
    (leaves : turn.Leaves next before phases.removals phases.starts (.error e) after) :
    (∃ name configuration, after name = some configuration ∧
        (configuration.Carries history ∨ configuration.Carries next)) ∨
      history.IsCutOff own phases.all e after := by
  rcases leaves.failed with ⟨gone, name, left, old, idle, last, rfl⟩ |
    ⟨started, service, left, services, startedSo, last, rfl⟩
  · by_cases all : ∀ name ∈ history.activeNames, name ∈ gone
    · right
      have stale : name ∈ turn.old := by
        rw [old]
        exact List.mem_append_right _ List.mem_cons_self
      constructor
      · intro other ours
        exact running.bare_without all ours
      · rw [begun, idle]
        rfl
      · right
        exact ⟨name, within name stale, Phases.getLast?_of_removals idle last⟩
    · left
      push Not at all
      obtain ⟨survivor, active, stays⟩ := all
      obtain ⟨configuration, there, carries⟩ := running.carry survivor active
      exact ⟨survivor, configuration, (if_neg stays).trans there, .inl carries⟩
  · cases started with
    | nil =>
      right
      constructor
      · intro other ours
        exact running.bare_without covers ours
      · rw [begun, startedSo]
        rfl
      · left
        exact ⟨_, _, Phases.getLast?_of_starts last⟩
    | cons first others =>
      left
      have up : ∃ configuration,
          (before.without turn.old).started next.labelText (first :: others) first.name =
              some configuration ∧ configuration.Carries next :=
        Containers.carry_started List.mem_cons_self
      obtain ⟨configuration, there, carries⟩ := up
      exact ⟨first.name, configuration, there, .inr carries⟩

/-- A call that fails keeps the history of a running application, unless the
failure strikes between the last removal and the first start. -/
theorem Call.failed_keepsHistory {engine : Engine W} {limit : Option Nat}
    {containers : W → Containers} (isMap : engine.IsMap containers) {call : Call (Watched W)}
    (aside : (call.planner engine.watched).Keeps fun s => (containers s.world, s.own))
    {history : History} {own : String → Prop} {s between after : Watched W}
    (running : history.IsRunning own (containers s.world)) {requests : List CreateRequest}
    (planned : (call.plan engine.watched).on s = (.ok requests, between))
    (isOwn : ∀ name ∈ requests.map CreateRequest.name, own name)
    (meets : ∃ name ∈ requests.map CreateRequest.name, name ∈ history.activeNames) {e : Error}
    (failed : (call.perform limit engine.watched).on s = (.error e, after)) :
    ∃ xs, after.own = s.own ++ xs ∧
      (call.KeepsHistory engine.watched limit history s (containers after.world) ∨
        history.IsCutOff own xs e (containers after.world)) := by
  have read := running.carried isOwn meets
  obtain ⟨captured, _, phases, planned', calls, makes, left⟩ :=
    Call.leaves isMap.watched (aside.map Prod.fst) failed
  refine ⟨phases.all, Call.own_eq (aside.map Prod.snd) planned' calls makes, ?_⟩
  rw [planned] at planned'
  cases planned'
  rcases left with ⟨_, _, _, _, unchanged⟩ |
    ⟨_, intent, _, turn, same, resolves, read', chosen, leaves⟩
  · left
    obtain ⟨name, _, active⟩ := meets
    obtain ⟨configuration, there, carries⟩ := running.carry name active
    rw [← unchanged] at there
    exact ⟨name, configuration, there, .inl carries⟩
  · cases same
    rw [resolves.complete.2, read] at read'
    cases read'
    obtain ⟨covers, within⟩ := resolves.covers chosen
    have ours : ∀ name ∈ turn.old, own name ∨ name ∈ history.activeNames :=
      fun name old => (within name old).imp_left (isOwn name)
    rcases leaves.keeps running covers ours makes.started? with
      ⟨name, configuration, there, old | new⟩ | cutOff
    · left
      exact ⟨name, configuration, there, .inl old⟩
    · left
      obtain ⟨_, resolved, _⟩ := calls.split
      have made := resolves.made_of_turn planned resolved chosen
      exact ⟨name, configuration, there, .inr ⟨turn.manifest, made, new⟩⟩
    · right
      exact cutOff

/-! ### A shop with faults -/

namespace Shop

/-- The engine of the shop, with faults. -/
def failing (faults : Faults) : Engine World :=
  ModelEngine.engine "shop" (.failing faults)

theorem failing_isMap (faults : Faults) : (failing faults).IsMap containers :=
  ModelEngine.isMap (ModelEngine.Place.failing_isLawful faults) "shop"

/-- The images of the shop. -/
def images : World → String → Option String :=
  ModelEngine.Place.faultless.images

/-- A history with one deployment of these names. -/
def once (names : List String) : History :=
  ⟨[⟨names.map fun name => ⟨name, none, .empty⟩, "", ""⟩]⟩

/-- The shop that runs the active deployment of a history. -/
def running (history : History) : Watched World :=
  ⟨(history.activeServices.foldl
      (fun known service =>
        known.insert service.name (some (service.labeled history.labelText)))
      .empty, start.2), []⟩

theorem containers_foldl_insert (label : String) (images : Dictionary String)
    (services : List Service) (known : Dictionary (Option Configuration)) :
    containers (services.foldl
        (fun known service => known.insert service.name (some (service.labeled label))) known,
        images) =
      (containers (known, images)).started label services := by
  induction services generalizing known with
  | nil => rfl
  | cons service rest ih =>
    have first : containers (known.insert service.name (some (service.labeled label)), images) =
        Function.update (containers (known, images)) service.name
          (some (service.labeled label)) :=
      (ModelEngine.Place.faultless.get (known, images)).view_insert service.name
        (service.labeled label)
    rw [List.foldl_cons, ih, first]
    rfl

theorem containers_empty (images : Dictionary String) (name : String) :
    containers (.empty, images) name = none := by
  simp [containers, ModelEngine.Place.containers, ModelEngine.Place.faultless, ModelEngine.view]

theorem containers_running (history : History) :
    containers (running history).world =
      (containers (.empty, start.2)).broughtUp history :=
  containers_foldl_insert history.labelText start.2 history.activeServices .empty

theorem running_isRunning (history : History) (own : String → Prop) :
    history.IsRunning own (containers (running history).world) := by
  rw [containers_running]
  constructor
  · exact Containers.carry_broughtUp _ history
  · intro name _ inactive
    rw [Containers.broughtUp_of_notMem inactive, containers_empty]

/-- What comes of a deployment of these names in the shop that runs a history. -/
def attempt (engine : Engine World) (names : List String) (history : History) :
    Except Error Answer × Watched World :=
  ((deployOf names).perform (some 2) engine.watched).on (running history)

/-- An engine that cannot start one container. -/
def unstartable (name : String) : Engine World :=
  failing { Faults.none with start := .ofList [(name, "no space left on device")] }

end Shop

theorem Call.failed_keepsHistory_shop :
    ∃ after, Shop.attempt (Shop.unstartable "api") ["web", "api"] (Shop.once ["web"]) =
        (.error (.start "api" "no space left on device"), after) ∧
      ∃ xs, after.own = (Shop.running (Shop.once ["web"])).own ++ xs ∧
        ((Shop.deployOf ["web", "api"]).KeepsHistory (Shop.unstartable "api").watched (some 2)
            (Shop.once ["web"]) (Shop.running (Shop.once ["web"]))
            (Shop.containers after.world) ∨
          (Shop.once ["web"]).IsCutOff (· ∈ ["web", "api"]) xs
            (.start "api" "no space left on device") (Shop.containers after.world)) := by
  have failed : (Shop.attempt (Shop.unstartable "api") ["web", "api"] (Shop.once ["web"])).1 =
      .error (.start "api" "no space left on device") := by decide +kernel
  rcases run : Shop.attempt (Shop.unstartable "api") ["web", "api"] (Shop.once ["web"])
    with ⟨result, after⟩
  rw [run] at failed
  cases failed
  refine ⟨after, rfl, ?_⟩
  exact Call.failed_keepsHistory (Shop.failing_isMap _) (Planner.reporting_keeps _)
    (Shop.running_isRunning _ _) rfl (fun _ captured => captured)
    ⟨"web", List.mem_cons_self, List.mem_cons_self⟩ run

/-- A shop whose only service does not start has lost its history. -/
theorem Shop.unstarted_losesHistory :
    (Shop.once ["web"]).IsRunning (· ∈ ["web"])
        (Shop.containers (Shop.running (Shop.once ["web"])).world) ∧
      "web" ∈ (Shop.once ["web"]).activeNames ∧
      (Shop.attempt (Shop.unstartable "web") ["web"] (Shop.once ["web"])).1 =
        .error (.start "web" "no space left on device") ∧
      ¬ (Shop.deployOf ["web"]).KeepsHistory (Shop.unstartable "web").watched (some 2)
        (Shop.once ["web"]) (Shop.running (Shop.once ["web"]))
        (Shop.containers
          (Shop.attempt (Shop.unstartable "web") ["web"] (Shop.once ["web"])).2.world) := by
  refine ⟨Shop.running_isRunning _ _, List.mem_cons_self, by decide +kernel, ?_⟩
  rintro ⟨name, configuration, there, _⟩
  have nothing : (Shop.attempt (Shop.unstartable "web") ["web"] (Shop.once ["web"])).2.world =
      (.empty, Shop.start.2) := by decide +kernel
  rw [nothing, Shop.containers_empty] at there
  cases there

end ComposeDeploy
