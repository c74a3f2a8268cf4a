import ComposeDeploy.Proofs.Deployment.Ledger

/-!
What a change leaves behind, however far it gets.

Removing stops at the first container that is refused and starting at the first
service that is. So a change that has read a history and chosen its turn leaves
one of three kinds of containers (`Turn.Leaves`): some of the old ones are gone,
or all are gone and some of the new ones are there, or the turn is done.
`Call.leaves` says that every call leaves one of these or changes nothing, on
every engine that is a map, whatever faults it shows.
-/

namespace ComposeDeploy

/-! ### Containers that carry a history -/

/-- A history stands in the label of a configuration. -/
def Configuration.Carries (configuration : Configuration) (history : History) : Prop :=
  ∃ text, configuration.label? historyLabel = some text ∧
    History.ofLabelText (some text) = .ok history

/-- What stands in the label is read. -/
theorem Configuration.Carries.read {configuration : Configuration} {history : History}
    (carries : configuration.Carries history) : configuration.history = .ok history := by
  obtain ⟨text, label, told⟩ := carries
  unfold Configuration.history
  rw [label]
  exact told

theorem Service.carries_labeled (service : Service) (history : History) :
    (service.labeled history.labelText).Carries history := by
  refine ⟨history.labelText, ?_, history.ofLabelText_labelText⟩
  unfold Service.labeled
  rw [Configuration.label?_withLabel, if_pos rfl]

namespace History

/-- The services of the active deployment. -/
def activeServices (history : History) : List Service :=
  (history.active?.map Manifest.services).getD []

theorem map_name_activeServices (history : History) :
    history.activeServices.map Service.name = history.activeNames := by
  unfold activeServices activeNames
  cases history.active? <;> rfl

theorem activeServices_push {limit : Option Nat} (positive : limit ≠ some 0) (history : History)
    (manifest : Manifest) : (history.push manifest limit).activeServices = manifest.services := by
  rw [activeServices, active?_push positive]
  rfl

end History

namespace Containers

/-- Each container of the active deployment of a history carries the history. -/
def Carry (c : Containers) (history : History) : Prop :=
  ∀ name ∈ history.activeNames, ∃ configuration,
    c name = some configuration ∧ configuration.Carries history

/-- The containers after the active deployment of a history has been started. -/
def broughtUp (c : Containers) (history : History) : Containers :=
  c.started history.labelText history.activeServices

theorem carry_empty (c : Containers) : c.Carry .empty :=
  List.forall_mem_nil _

/-- What has been started carries the history with which it was started. -/
theorem carry_started {c : Containers} {history : History} {services : List Service} {name : String}
    (member : name ∈ services.map Service.name) :
    ∃ configuration, c.started history.labelText services name = some configuration ∧
      configuration.Carries history := by
  obtain ⟨service, _, _, there⟩ := started_of_mem member
  exact ⟨_, there, service.carries_labeled history⟩

theorem carry_broughtUp (c : Containers) (history : History) :
    (c.broughtUp history).Carry history := by
  intro name active
  rw [← history.map_name_activeServices] at active
  exact carry_started active

theorem broughtUp_of_notMem {c : Containers} {history : History} {name : String}
    (inactive : name ∉ history.activeNames) : c.broughtUp history name = c name := by
  rw [← history.map_name_activeServices] at inactive
  exact started_of_notMem inactive

/-- Removing some containers first makes no difference to removing all. -/
theorem without_without {c : Containers} {gone old : List String}
    (among : ∀ name ∈ gone, name ∈ old) : (c.without gone).without old = c.without old := by
  funext name
  unfold without
  by_cases member : name ∈ old
  · rw [if_pos member, if_pos member]
  · have kept : name ∉ gone := fun earlier => member (among name earlier)
    rw [if_neg member, if_neg member, if_neg kept]

/-- If none of the named containers exists, nothing is remembered. -/
theorem carried_eq_empty {c : Containers} {names : List String}
    (bare : ∀ name ∈ names, c name = none) : c.carried names = .ok .empty := by
  unfold carried
  rw [first?_eq_none.mpr bare]

/-- If the first of the named containers exists, its history is read. -/
theorem carried_cons {c : Containers} {name : String} {configuration : Configuration}
    {history : History} (there : c name = some configuration)
    (carries : configuration.Carries history) (rest : List String) :
    c.carried (name :: rest) = .ok history := by
  have first : c.first? (name :: rest) = some (name, configuration) := by
    simp only [first?, List.findSome?_cons, there, Option.map_some]
  unfold carried
  rw [first]
  exact carries.read

/-- If some of the named containers exist and all that do carry one history,
that history is read. -/
theorem carried_of_forall {c : Containers} {names : List String} {history : History}
    (there : ∃ name ∈ names, c name ≠ none)
    (each : ∀ name ∈ names, ∀ configuration, c name = some configuration →
      configuration.history = .ok history) : c.carried names = .ok history := by
  unfold carried
  cases first : c.first? names with
  | none =>
    obtain ⟨name, member, present⟩ := there
    exact absurd (first?_eq_none.mp first name member) present
  | some found =>
    obtain ⟨name, configuration⟩ := found
    obtain ⟨member, present⟩ := first?_eq_some first
    exact each name member configuration present

end Containers

/-! ### What a turn removes -/

/-- A rollback removes the active deployment. -/
theorem Change.Resolves.rolledBack {now : String} {options : Restoration}
    {requests : List CreateRequest} {xs : List Exchange} {intent : Intent} {history : History}
    {turn : Turn} (resolves : Change.Resolves now requests (.rollback options) xs (.ok intent))
    (chosen : intent.turn history = .ok turn) : turn.old = history.activeNames := by
  obtain ⟨_, _, _, _, old⟩ := resolves.restored chosen
  exact old

/-- A turn removes the active deployment, and nothing but it and what was
captured. -/
theorem Change.Resolves.covers {now : String} {change : Change} {requests : List CreateRequest}
    {xs : List Exchange} {intent : Intent} {history : History} {turn : Turn}
    (resolves : change.Resolves now requests xs (.ok intent))
    (chosen : intent.turn history = .ok turn) :
    (∀ name ∈ history.activeNames, name ∈ turn.old) ∧
      ∀ name ∈ turn.old, name ∈ requests.map CreateRequest.name ∨ name ∈ history.activeNames := by
  cases change with
  | deploy options =>
    rw [(resolves.deployed chosen).2]
    constructor
    · intro name active
      exact Setup.mem_stale.mpr (.inr active)
    · intro name old
      exact Setup.mem_stale.mp old
  | rollback options =>
    rw [resolves.rolledBack chosen]
    constructor
    · intro name active
      exact active
    · intro name active
      exact .inr active

/-! ### How far a turn gets -/

/-- How far a turn gets that starts the active deployment of `next`, and the
containers that it leaves. -/
inductive Turn.Leaves (turn : Turn) (next : History) (before : Containers) :
    List Exchange → List Exchange → Except Error Answer → Containers → Prop where
  /-- A container cannot be removed; nothing is started. -/
  | stuck {removals : List Exchange} {gone left : List String} {name : String} {e : Error} :
    turn.old = gone ++ name :: left →
      removals.getLast? = some (.remove name (.error e)) →
      (∀ missing, e ≠ .containerNotFound missing) →
      Leaves turn next before removals [] (.error e) (before.without gone)
  /-- A service cannot be started, after all old containers are gone. -/
  | broken {removals starts : List Exchange} {begun left : List Service} {service : Service}
      {e : Error} :
    next.activeServices = begun ++ service :: left →
      starts.filterMap Exchange.started? =
        begun.map (fun service => (service.name, service.labeled next.labelText)) →
      starts.getLast? = some (.start service.name (service.labeled next.labelText) (.error e)) →
      Leaves turn next before removals starts (.error e)
        ((before.without turn.old).started next.labelText begun)
  | done {removals starts : List Exchange} :
    starts.filterMap Exchange.started? =
        next.activeServices.map (fun service => (service.name, service.labeled next.labelText)) →
      Leaves turn next before removals starts (.ok turn.answer)
        ((before.without turn.old).broughtUp next)

/-- A turn that succeeds is done. -/
theorem Turn.Leaves.succeeded {turn : Turn} {next : History} {before after : Containers}
    {removals starts : List Exchange} {answer : Answer}
    (leaves : turn.Leaves next before removals starts (.ok answer) after) :
    answer = turn.answer ∧
      starts.filterMap Exchange.started? =
        next.activeServices.map (fun service => (service.name, service.labeled next.labelText)) ∧
      after = (before.without turn.old).broughtUp next := by
  cases leaves with
  | done begun => exact ⟨rfl, begun, rfl⟩

/-- A turn that fails is stuck at a removal or broken off at a start. -/
theorem Turn.Leaves.failed {turn : Turn} {next : History} {before after : Containers}
    {removals starts : List Exchange} {e : Error}
    (leaves : turn.Leaves next before removals starts (.error e) after) :
    (∃ gone name left, turn.old = gone ++ name :: left ∧ starts = [] ∧
        removals.getLast? = some (.remove name (.error e)) ∧ after = before.without gone) ∨
      ∃ (begun : List Service) (service : Service) (left : List Service),
        next.activeServices = begun ++ service :: left ∧
        starts.filterMap Exchange.started? =
          begun.map (fun service => (service.name, service.labeled next.labelText)) ∧
        starts.getLast? = some (.start service.name (service.labeled next.labelText) (.error e)) ∧
        after = (before.without turn.old).started next.labelText begun := by
  cases leaves with
  | stuck old last _ => exact .inl ⟨_, _, _, old, rfl, last, rfl⟩
  | broken services begun last => exact .inr ⟨_, _, _, services, begun, last, rfl⟩

/-- If no removal and no start is refused, a turn is done. -/
theorem Turn.Leaves.isDone {turn : Turn} {next : History} {before after : Containers}
    {removals starts : List Exchange} {result : Except Error Answer}
    (leaves : turn.Leaves next before removals starts result after)
    (removed : ∀ x ∈ removals, x.succeeded) (started : ∀ x ∈ starts, x.succeeded) :
    result = .ok turn.answer := by
  cases leaves with
  | @stuck _ _ _ e _ last real =>
    have refused := removed _ (List.mem_of_getLast? last)
    cases e with
    | containerNotFound missing => exact absurd rfl (real missing)
    | _ => cases refused
  | broken _ _ last => cases started _ (List.mem_of_getLast? last)
  | done => rfl

theorem BringsUp.startsActive {history : History} {xs : List Exchange}
    {result : Except Error Unit} (brings : BringsUp history xs result) :
    Starts history.labelText history.activeServices xs result := by
  unfold History.activeServices
  cases brings with
  | idle none =>
    rw [none]
    exact .nil
  | starting active starts =>
    rw [active]
    exact starts

/-- The turn that a call chooses makes the deployment that the call makes. -/
theorem Change.Resolves.made_of_turn {W : Type} {call : Call W} {engine : Engine W}
    {requests : List CreateRequest} {xs : List Exchange} {intent : Intent} {w between after : W}
    (planned : (call.plan engine).on w = (.ok requests, between))
    (resolves : call.change.Resolves call.now requests xs (.ok intent))
    (calls : engine.Calls between xs after) {history : History} {turn : Turn}
    (chosen : intent.turn history = .ok turn) :
    call.made engine history w = .ok turn.manifest := by
  rw [resolves.made planned calls]
  simp only [bind, Except.bind, chosen]
  rfl

section Steps

variable {W : Type} {engine : Engine W} {containers : W → Containers}
  (isMap : engine.IsMap containers) {w after : W} {xs : List Exchange}
include isMap

/-- A refused call changes no container. -/
theorem Engine.Calls.of_snoc_refused {x : Exchange} (refused : ∀ c, x.effect c = c)
    (calls : engine.Calls w (xs ++ [x]) after) :
    ∃ between, engine.Calls w xs between ∧ containers after = containers between := by
  obtain ⟨between, first, last⟩ := calls.split
  cases last with
  | cons made rest =>
    cases rest
    exact ⟨between, first, (isMap made).2.trans (refused _)⟩

/-- Removals that get stuck have removed the containers before the one that is
refused. -/
theorem Removes.stuck_of_map {names : List String} {e : Error}
    (removes : Removes names xs (.error e)) (calls : engine.Calls w xs after) :
    ∃ gone name left, names = gone ++ name :: left ∧
      xs.getLast? = some (.remove name (.error e)) ∧
      (∀ missing, e ≠ .containerNotFound missing) ∧
      containers after = (containers w).without gone := by
  obtain ⟨gone, name, left, ys, _, rfl, rfl, done, real⟩ := removes.stuck
  obtain ⟨between, first, same⟩ := calls.of_snoc_refused isMap fun _ => rfl
  obtain ⟨_, without⟩ := done.of_map isMap first (done.orderly.all rfl)
  exact ⟨gone, name, left, rfl, List.getLast?_concat, real, same.trans without⟩

/-- Starts that break off have started the services before the one that is
refused. -/
theorem Starts.stuck_of_map {label : String} {services : List Service} {e : Error}
    (starts : Starts label services xs (.error e)) (calls : engine.Calls w xs after) :
    ∃ begun service left, services = begun ++ service :: left ∧
      xs.filterMap Exchange.started? =
        begun.map (fun service => (service.name, service.labeled label)) ∧
      xs.getLast? = some (.start service.name (service.labeled label) (.error e)) ∧
      containers after = (containers w).started label begun := by
  obtain ⟨begun, service, left, ys, rfl, rfl, done⟩ := starts.stuck
  obtain ⟨between, first, same⟩ := calls.of_snoc_refused isMap fun _ => rfl
  obtain ⟨_, names, started⟩ := done.of_map isMap first (done.orderly.all rfl)
  refine ⟨begun, service, left, rfl, ?_, List.getLast?_concat, same.trans started⟩
  rw [List.filterMap_append, names]
  exact List.append_nil _

/-- Carrying out an intent is given up before anything is changed, or its turn
is taken, as far as it gets. -/
theorem CarriesOut.leaves {limit : Option Nat} {intent : Intent}
    {inspections removals starts : List Exchange} {result : Except Error Answer}
    (carries : CarriesOut limit intent inspections removals starts result)
    (calls : engine.Calls w (inspections ++ (removals ++ starts)) after) :
    (∃ e, result = .error e ∧ removals = [] ∧ starts = [] ∧ containers after = containers w ∧
        ((∃ x ∈ inspections, ¬ x.succeeded) ∨
          (containers w).carried intent.names >>= intent.turn = .error e)) ∨
      ∃ history turn, (containers w).carried intent.names = .ok history ∧
        intent.turn history = .ok turn ∧
        turn.Leaves (history.push turn.manifest limit) (containers w) removals starts result
          (containers after) := by
  obtain ⟨asked, inspected, changed⟩ := calls.split
  obtain ⟨cleared, removed, started⟩ := changed.split
  obtain ⟨_, reads⟩ := carries.reads
  have unchanged : containers asked = containers w := by
    apply isMap.askingIsHarmless.calls inspected
    intro x member
    obtain ⟨_, _, rfl⟩ := reads.inspects x member
    rfl
  cases carries with
  | @unread e reads =>
    cases removed
    cases started
    refine .inl ⟨e, rfl, rfl, rfl, unchanged, ?_⟩
    by_cases success : ∀ x ∈ inspections, x.succeeded
    · obtain ⟨carried, _⟩ := reads.of_map isMap inspected success
      rw [← carried]
      exact .inr rfl
    · push Not at success
      exact .inl (by simpa using success)
  | @refused _ e reads refused =>
    obtain ⟨carried, _⟩ := reads.of_map isMap inspected (reads.orderly.all rfl)
    cases removed
    cases started
    refine .inl ⟨e, rfl, rfl, rfl, unchanged, .inr ?_⟩
    rw [← carried]
    exact refused
  | @unremoved _ history turn e reads chosen removes =>
    obtain ⟨carried, _⟩ := reads.of_map isMap inspected (reads.orderly.all rfl)
    obtain ⟨gone, name, left, old, last, real, without⟩ := removes.stuck_of_map isMap removed
    cases started
    refine .inr ⟨history, turn, carried.symm, chosen, ?_⟩
    rw [without, unchanged]
    exact .stuck old last real
  | @turned _ _ history turn _ result reads chosen removes brings =>
    obtain ⟨carried, _⟩ := reads.of_map isMap inspected (reads.orderly.all rfl)
    obtain ⟨_, without⟩ := removes.of_map isMap removed (removes.orderly.all rfl)
    have starts := brings.startsActive
    refine .inr ⟨history, turn, carried.symm, chosen, ?_⟩
    cases result with
    | error e =>
      obtain ⟨begun, service, left, services, begunSo, last, up⟩ :=
        starts.stuck_of_map isMap started
      rw [up, without, unchanged]
      exact .broken services begunSo last
    | ok =>
      obtain ⟨_, begunSo, up⟩ := starts.of_map isMap started (starts.orderly.all rfl)
      rw [up, without, unchanged]
      exact .done begunSo

/-- A call changes nothing, or it takes the turn that it chooses after reading
the history, as far as it gets. -/
theorem Call.leaves {limit : Option Nat} {call : Call W}
    (aside : (call.planner engine).Keeps containers) {result : Except Error Answer}
    (run : (call.perform limit engine).on w = (result, after)) :
    ∃ captured between phases, (call.plan engine).on w = (captured, between) ∧
      engine.Calls between phases.all after ∧
      call.change.Makes call.now limit captured phases result ∧
      ((∃ e, result = .error e ∧ phases.removals = [] ∧ phases.starts = [] ∧
          containers after = containers w) ∨
        ∃ requests intent history turn, captured = .ok requests ∧
          call.change.Resolves call.now requests phases.resolutions (.ok intent) ∧
          (containers w).carried intent.names = .ok history ∧
          intent.turn history = .ok turn ∧
          turn.Leaves (history.push turn.manifest limit) (containers w) phases.removals
            phases.starts result (containers after)) := by
  obtain ⟨captured, between, phases, planned, calls, makes⟩ := (call.setup limit).change_cases run
  have kept := Call.plan_kept aside planned
  refine ⟨captured, between, phases, planned, calls, makes, ?_⟩
  cases makes with
  | @unplanned e =>
    cases calls
    exact .inl ⟨e, rfl, rfl, rfl, kept⟩
  | @unresolved _ resolutions e resolves =>
    have resolved : engine.Calls between resolutions after := by
      simpa only [Phases.all, List.append_nil] using calls
    have same := isMap.askingIsHarmless.calls resolved resolves.changesNothing
    exact .inl ⟨e, rfl, rfl, rfl, same.trans kept⟩
  | @carriedOut requests _ intent _ _ _ _ resolves carries =>
    obtain ⟨middle, resolved, carried⟩ := calls.split
    have same := (isMap.askingIsHarmless.calls resolved resolves.changesNothing).trans kept
    have leaves := carries.leaves isMap carried
    rw [same] at leaves
    rcases leaves with ⟨e, failed, noRemovals, noStarts, unchanged, _⟩ |
      ⟨history, turn, read, chosen, leaves⟩
    · exact .inl ⟨e, failed, noRemovals, noStarts, unchanged⟩
    · exact .inr ⟨requests, intent, history, turn, rfl, resolves, read, chosen, leaves⟩

/-- A call that succeeds reads a history, chooses a turn and takes it. -/
theorem Call.succeeded_leaves {limit : Option Nat} {call : Call W}
    (aside : (call.planner engine).Keeps containers) {answer : Answer}
    (run : (call.perform limit engine).on w = (.ok answer, after)) :
    ∃ requests between phases intent history turn,
      (call.plan engine).on w = (.ok requests, between) ∧
        engine.Calls between phases.all after ∧
        call.change.Makes call.now limit (.ok requests) phases (.ok answer) ∧
        call.change.Resolves call.now requests phases.resolutions (.ok intent) ∧
        (containers w).carried (requests.map CreateRequest.name) = .ok history ∧
        intent.turn history = .ok turn ∧
        call.made engine history w = .ok turn.manifest ∧
        turn.Leaves (history.push turn.manifest limit) (containers w) phases.removals phases.starts
          (.ok answer) (containers after) := by
  obtain ⟨captured, between, phases, planned, calls, makes, left⟩ := Call.leaves isMap aside run
  rcases left with ⟨_, failed, _⟩ |
    ⟨requests, intent, history, turn, rfl, resolves, read, chosen, leaves⟩
  · cases failed
  obtain ⟨_, resolved, _⟩ := calls.split
  rw [resolves.complete.2] at read
  exact ⟨requests, between, phases, intent, history, turn, planned, calls, makes, resolves, read,
    chosen, resolves.made_of_turn planned resolved chosen, leaves⟩

/-- On an engine without faults, an intent is carried out if there is a turn to
take. -/
theorem CarriesOut.isDone (faultless : engine.IsFaultless) {limit : Option Nat} {intent : Intent}
    {inspections removals starts : List Exchange} {result : Except Error Answer}
    (carries : CarriesOut limit intent inspections removals starts result)
    (calls : engine.Calls w (inspections ++ (removals ++ starts)) after) {history : History}
    (read : (containers w).carried intent.names = .ok history) {turn : Turn}
    (chosen : intent.turn history = .ok turn) :
    result = .ok turn.answer ∧
      containers after =
        ((containers w).without turn.old).broughtUp (history.push turn.manifest limit) := by
  have success := faultless.succeeded calls carries.handlesContainer
  obtain ⟨inspected, changed⟩ := List.forall_mem_append.mp success
  obtain ⟨removed, started⟩ := List.forall_mem_append.mp changed
  rcases carries.leaves isMap calls with
    ⟨e, _, _, _, _, reason⟩ | ⟨told, taken, read', chosen', leaves⟩
  · rcases reason with ⟨x, member, failed⟩ | refused
    · exact absurd (inspected x member) failed
    · rw [read] at refused
      have refused : intent.turn history = .error e := refused
      rw [chosen] at refused
      cases refused
  · rw [read] at read'
    cases read'
    rw [chosen] at chosen'
    cases chosen'
    cases leaves.isDone removed started
    exact ⟨rfl, leaves.succeeded.2.2⟩

/-- On an engine without faults, a call that makes a deployment of the history
that it reads succeeds. -/
theorem Call.succeeds (faultless : engine.IsFaultless) {limit : Option Nat} {call : Call W}
    (aside : (call.planner engine).Keeps containers) {requests : List CreateRequest} {between : W}
    (planned : (call.plan engine).on w = (.ok requests, between)) {history : History}
    (read : (containers w).carried (requests.map CreateRequest.name) = .ok history)
    {manifest : Manifest} (made : call.made engine history w = .ok manifest) :
    ∃ answer, ((call.perform limit engine).on w).1 = .ok answer := by
  rcases run : (call.perform limit engine).on w with ⟨result, after⟩
  obtain ⟨captured, middle, phases, planned', calls, makes⟩ := (call.setup limit).change_cases run
  have planned' : (call.plan engine).on w = (captured, middle) := planned'
  have kept := Call.plan_kept aside planned'
  rw [planned] at planned'
  cases planned'
  obtain ⟨_, resolved, carried⟩ := calls.split
  cases makes with
  | unresolved resolves =>
    rw [resolves.made planned resolved] at made
    cases made
  | @carriedOut _ _ intent _ _ _ _ resolves carries =>
    have same := (isMap.askingIsHarmless.calls resolved resolves.changesNothing).trans kept
    rw [← resolves.complete.2, ← same] at read
    rw [resolves.made planned resolved] at made
    cases chosen : intent.turn history with
    | error e =>
      simp only [bind, Except.bind, chosen] at made
      cases made
    | ok turn => exact ⟨turn.answer, (carries.isDone isMap faultless carried read chosen).1⟩

end Steps

end ComposeDeploy
