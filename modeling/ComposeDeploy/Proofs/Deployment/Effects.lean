import ComposeDeploy.Proofs.Deployment.Phases
import ComposeDeploy.Proofs.History.RoundTrip
import Mathlib.Data.List.Nodup

/-!
What the steps of a change do to the containers.

On an engine that is a map, the first existing container decides which history
is read (`Containers.carried`), removing leaves the containers of all other
names, and starting gives each name the last service of that name.
`CarriesOut.of_map` puts these together: if all calls succeed, the result of
carrying out an intent and the containers after it are functions of the
containers before it.
-/

namespace ComposeDeploy

/-- The history that a container carries. -/
def Configuration.history (configuration : Configuration) : Except Error History :=
  History.ofLabelText (configuration.label? historyLabel)

theorem Service.history_labeled (service : Service) (history : History) :
    (service.labeled history.labelText).history = .ok history := by
  unfold Configuration.history Service.labeled
  rw [Configuration.label?_withLabel, if_pos rfl, History.ofLabelText_labelText]

/-- The container that an inspection found, and what it told. -/
def Exchange.found? : Exchange → Option (String × Inspection)
  | .inspect container (.ok (some inspection)) => some (container, inspection)
  | _ => none

namespace Containers

/-- The first of some names that has a container, with its container. -/
def first? (c : Containers) (names : List String) : Option (String × Configuration) :=
  names.findSome? fun name => (c name).map fun configuration => (name, configuration)

/-- What the first successful inspection of some names finds. -/
def inspected? (c : Containers) (names : List String) : Option (String × Inspection) :=
  (c.first? names).map fun (name, configuration) => (name, ⟨configuration.labels?⟩)

/-- The history that the first existing container of some names carries. -/
def carried (c : Containers) (names : List String) : Except Error History :=
  match c.first? names with
  | none => .ok .empty
  | some (_, configuration) => configuration.history

/-- The containers of all other names. -/
def without (c : Containers) (names : List String) : Containers :=
  fun name => if name ∈ names then none else c name

/-- The containers after services have been started with a history text. -/
def started (c : Containers) (label : String) (services : List Service) : Containers :=
  services.foldl
    (fun c service => Function.update c service.name (some (service.labeled label))) c

theorem first?_eq_none {c : Containers} {names : List String} :
    c.first? names = none ↔ ∀ name ∈ names, c name = none := by
  simp only [first?, List.findSome?_eq_none_iff, Option.map_eq_none_iff]

theorem first?_eq_some {c : Containers} {names : List String} {name : String}
    {configuration : Configuration} (first : c.first? names = some (name, configuration)) :
    name ∈ names ∧ c name = some configuration := by
  obtain ⟨other, member, found⟩ := List.exists_of_findSome?_eq_some first
  obtain ⟨_, present, same⟩ := Option.map_eq_some_iff.mp found
  cases same
  exact ⟨member, present⟩

theorem started_of_notMem {label : String} {name : String} {services : List Service} :
    ∀ {c : Containers}, name ∉ services.map Service.name →
      c.started label services name = c name := by
  induction services with
  | nil =>
    intro c _
    rfl
  | cons service rest ih =>
    intro c absent
    simp only [List.map_cons, List.mem_cons, not_or] at absent
    exact (ih absent.2).trans (Function.update_of_ne absent.1 _ _)

/-- A started name has the container of a service of that name. -/
theorem started_of_mem {label : String} {name : String} {services : List Service} :
    ∀ {c : Containers}, name ∈ services.map Service.name →
      ∃ service ∈ services, service.name = name ∧
        c.started label services name = some (service.labeled label) := by
  induction services with
  | nil =>
    intro c member
    cases member
  | cons service rest ih =>
    intro c member
    by_cases again : name ∈ rest.map Service.name
    · obtain ⟨later, listed, named, container⟩ := ih again
      exact ⟨later, List.mem_cons_of_mem _ listed, named, container⟩
    · have named : service.name = name := by
        rcases List.mem_cons.mp member with same | later
        · exact same.symm
        · exact absurd later again
      refine ⟨service, List.mem_cons_self, named, ?_⟩
      subst named
      exact (started_of_notMem again).trans (Function.update_self ..)

/-- Services of distinct names are all there after they have been started. -/
theorem started_of_nodup {c : Containers} {label : String} {services : List Service}
    (distinct : (services.map Service.name).Nodup) {service : Service}
    (member : service ∈ services) :
    c.started label services service.name = some (service.labeled label) := by
  obtain ⟨other, listed, named, container⟩ :=
    started_of_mem (List.mem_map_of_mem member)
  have same : other = service := List.inj_on_of_nodup_map distinct listed member named
  rw [container, same]

end Containers

/-! ### Single steps -/

section Steps

variable {W : Type} {engine : Engine W} {containers : W → Containers}
  (isMap : engine.IsMap containers) {w after : W} {xs : List Exchange}
include isMap

theorem Reads.of_map {names : List String} {result : Except Error History}
    (reads : Reads names xs result) (calls : engine.Calls w xs after)
    (success : ∀ x ∈ xs, x.succeeded) :
    result = (containers w).carried names ∧
      xs.findSome? Exchange.found? = (containers w).inspected? names := by
  induction reads generalizing w with
  | nil => exact ⟨rfl, rfl⟩
  | failed => exact absurd (success _ List.mem_cons_self) Bool.false_ne_true
  | @found name rest inspection =>
    cases calls with
    | cons made _ =>
      have told : some inspection = _ := (isMap made).1
      obtain ⟨configuration, present, rfl⟩ := Option.map_eq_some_iff.mp told.symm
      have first : (containers w).first? (name :: rest) = some (name, configuration) := by
        simp only [Containers.first?, List.findSome?_cons, present, Option.map_some]
      simp only [Containers.carried, Containers.inspected?, first]
      exact ⟨rfl, rfl⟩
  | @absent name rest xs result _ ih =>
    cases calls with
    | cons made others =>
      have told : none = _ := (isMap made).1
      have absent := Option.map_eq_none_iff.mp told.symm
      have unchanged : containers _ = containers w := (isMap made).2
      have skipped : (containers w).first? (name :: rest) = (containers w).first? rest := by
        simp only [Containers.first?, List.findSome?_cons, absent, Option.map_none]
      have later := ih others (List.forall_mem_cons.mp success).2
      rw [unchanged] at later
      simp only [Containers.carried, Containers.inspected?, skipped]
      exact later

theorem Removes.of_map {names : List String} {result : Except Error Nat}
    (removes : Removes names xs result) (calls : engine.Calls w xs after)
    (success : ∀ x ∈ xs, x.succeeded) :
    (∃ count, result = .ok count) ∧ containers after = (containers w).without names := by
  induction removes generalizing w with
  | nil =>
    cases calls
    exact ⟨⟨0, rfl⟩, rfl⟩
  | @failed name _ e real =>
    have failed := success _ List.mem_cons_self
    cases e with
    | containerNotFound other => exact absurd rfl (real other)
    | _ => cases failed
  | @present name rest xs result _ ih =>
    cases calls with
    | cons made others =>
      obtain ⟨⟨count, rfl⟩, rest⟩ := ih others (List.forall_mem_cons.mp success).2
      refine ⟨⟨_, rfl⟩, ?_⟩
      rw [rest, (isMap made).2]
      funext other
      by_cases same : other = name
      · simp [Containers.without, Exchange.effect, same]
      · simp [Containers.without, Exchange.effect, same]
  | @missing name _ rest xs result _ ih =>
    cases calls with
    | cons made others =>
      obtain ⟨⟨count, rfl⟩, rest⟩ := ih others (List.forall_mem_cons.mp success).2
      have absent : containers w name = none := (isMap made).1
      refine ⟨⟨_, rfl⟩, ?_⟩
      rw [rest, (isMap made).2]
      funext other
      by_cases same : other = name
      · simp [Containers.without, Exchange.effect, same, absent]
      · simp [Containers.without, Exchange.effect, same]

theorem Starts.of_map {label : String} {services : List Service} {result : Except Error Unit}
    (starts : Starts label services xs result) (calls : engine.Calls w xs after)
    (success : ∀ x ∈ xs, x.succeeded) :
    result = .ok () ∧
      xs.filterMap Exchange.started? =
        services.map (fun service => (service.name, service.labeled label)) ∧
      containers after = (containers w).started label services := by
  induction starts generalizing w with
  | nil =>
    cases calls
    exact ⟨rfl, rfl, rfl⟩
  | failed => exact absurd (success _ List.mem_cons_self) Bool.false_ne_true
  | more _ ih =>
    cases calls with
    | cons made others =>
      obtain ⟨done, begun, rest⟩ := ih others (List.forall_mem_cons.mp success).2
      refine ⟨done, ?_, ?_⟩
      · rw [List.map_cons, ← begun]
        rfl
      · rw [rest, (isMap made).2]
        rfl

end Steps

/-! ### Whole turns -/

/-- An intent has been carried out: which history was read, what was made of
it, and which containers there are now. -/
structure Intent.IsDone (intent : Intent) (limit : Option Nat) (before after : Containers)
    (inspections starts : List Exchange) (history : History) (turn : Turn) : Prop where
  read : before.carried intent.names = .ok history
  found : inspections.findSome? Exchange.found? = before.inspected? intent.names
  chosen : intent.turn history = .ok turn
  begun : starts.filterMap Exchange.started? = turn.manifest.services.map fun service =>
    (service.name, service.labeled (history.push turn.manifest limit).labelText)
  containers : after = (before.without turn.old).started
    (history.push turn.manifest limit).labelText turn.manifest.services

/-- If all its calls succeed, an intent is given up before anything is
changed, or it is done. -/
theorem CarriesOut.of_map {W : Type} {engine : Engine W} {containers : W → Containers}
    (isMap : engine.IsMap containers) {limit : Option Nat} (positive : limit ≠ some 0)
    {intent : Intent} {inspections removals starts : List Exchange}
    {result : Except Error Answer} {w after : W}
    (carries : CarriesOut limit intent inspections removals starts result)
    (calls : engine.Calls w (inspections ++ (removals ++ starts)) after)
    (success : ∀ x ∈ inspections ++ (removals ++ starts), x.succeeded) :
    (∃ e, (containers w).carried intent.names >>= intent.turn = .error e ∧ result = .error e ∧
        containers after = containers w) ∨
      ∃ history turn, result = .ok turn.answer ∧
        intent.IsDone limit (containers w) (containers after) inspections starts history turn := by
  obtain ⟨asked, inspected, changed⟩ := calls.split
  obtain ⟨cleared, removed, started⟩ := changed.split
  obtain ⟨inspectedWell, changedWell⟩ := List.forall_mem_append.mp success
  obtain ⟨removedWell, startedWell⟩ := List.forall_mem_append.mp changedWell
  obtain ⟨_, reads⟩ := carries.reads
  have sameContainers : containers asked = containers w := by
    apply isMap.askingIsHarmless.calls inspected
    intro x member
    obtain ⟨_, _, rfl⟩ := reads.inspects x member
    rfl
  cases carries with
  | unread reads =>
    obtain ⟨carried, _⟩ := reads.of_map isMap inspected inspectedWell
    cases removed
    cases started
    refine .inl ⟨_, ?_, rfl, sameContainers⟩
    rw [← carried]
    rfl
  | refused reads refused =>
    obtain ⟨carried, _⟩ := reads.of_map isMap inspected inspectedWell
    cases removed
    cases started
    refine .inl ⟨_, ?_, rfl, sameContainers⟩
    rw [← carried]
    exact refused
  | unremoved _ _ removes =>
    obtain ⟨⟨_, failed⟩, _⟩ := removes.of_map isMap removed removedWell
    cases failed
  | @turned _ _ history turn _ _ reads chosen removes brings =>
    obtain ⟨carried, found⟩ := reads.of_map isMap inspected inspectedWell
    obtain ⟨_, without⟩ := removes.of_map isMap removed removedWell
    cases brings with
    | idle none =>
      rw [History.active?_push positive] at none
      cases none
    | starting active starts =>
      rw [History.active?_push positive] at active
      cases active
      obtain ⟨rfl, begun, after⟩ := starts.of_map isMap started startedWell
      refine .inr ⟨history, turn, rfl, ⟨carried.symm, found, chosen, begun, ?_⟩⟩
      rw [after, without, sameContainers]

theorem Change.Resolves.changesNothing {now : String} {change : Change}
    {requests : List CreateRequest} {xs : List Exchange} {result : Except Error Intent}
    (resolves : change.Resolves now requests xs result) : ∀ x ∈ xs, x.changes = false := by
  intro x member
  obtain ⟨_, _, rfl⟩ := resolves.asks x member
  rfl

/-! ### Calls -/

/-- One call of a run, with its plan and its time. -/
structure Call (W : Type) where
  planner : Engine W → Planner W
  now : String
  change : Change

namespace Call

variable {W : Type}

def setup (call : Call W) (limit : Option Nat) : Setup W :=
  ⟨call.planner, limit, call.now⟩

/-- What the call does. -/
def perform (call : Call W) (limit : Option Nat) (engine : Engine W) : Act W Answer :=
  (call.setup limit).perform call.change.action engine

/-- What the call captures. -/
def plan (call : Call W) (engine : Engine W) : Act W (List CreateRequest) :=
  (call.planner engine).collect call.change.flags call.change.skipBuilds

/-- Planning keeps what the planner keeps. -/
theorem plan_kept {α : Type} {engine : Engine W} {view : W → α} {call : Call W}
    (aside : (call.planner engine).Keeps view) {captured : Except Error (List CreateRequest)}
    {w between : W} (planned : (call.plan engine).on w = (captured, between)) :
    view between = view w := by
  have kept := aside.collect call.change.flags call.change.skipBuilds w
  unfold plan at planned
  rwa [planned] at kept

/-- In a watched world a call says what its phases say and nothing else. -/
theorem own_eq {engine : Engine W} {call : Call (Watched W)}
    (unsaid : (call.planner engine.watched).Keeps Watched.own) {limit : Option Nat}
    {captured : Except Error (List CreateRequest)} {phases : Phases}
    {result : Except Error Answer} {s between after : Watched W}
    (planned : (call.plan engine.watched).on s = (captured, between))
    (calls : engine.watched.Calls between phases.all after)
    (makes : call.change.Makes call.now limit captured phases result) :
    after.own = s.own ++ phases.all := by
  rw [calls.own makes.noBuilds, Call.plan_kept unsaid planned]

end Call

/-- A call that succeeds has carried out its intent. -/
theorem Call.succeeded_cases {W : Type} {engine : Engine W} {containers : W → Containers}
    (isMap : engine.IsMap containers) {limit : Option Nat} (positive : limit ≠ some 0)
    {call : Call W} (aside : (call.planner engine).Keeps containers) {w after : W}
    {answer : Answer} (run : (call.perform limit engine).on w = (.ok answer, after)) :
    ∃ requests between phases intent history turn,
      (call.plan engine).on w = (.ok requests, between) ∧
        engine.Calls between phases.all after ∧
        call.change.Makes call.now limit (.ok requests) phases (.ok answer) ∧
        call.change.Resolves call.now requests phases.resolutions (.ok intent) ∧
        intent.IsDone limit (containers w) (containers after) phases.inspections phases.starts
          history turn := by
  obtain ⟨captured, between, phases, planned, calls, makes⟩ := (call.setup limit).change_cases run
  have kept := Call.plan_kept aside planned
  have success := makes.orderly.all rfl
  cases makes with
  | @carriedOut requests resolutions intent inspections removals starts _ resolves carries =>
    obtain ⟨_, carriedWell⟩ := List.forall_mem_append.mp success
    obtain ⟨middle, resolved, carried⟩ := calls.split
    have same := (isMap.askingIsHarmless.calls resolved resolves.changesNothing).trans kept
    rcases carries.of_map isMap positive carried carriedWell with
      ⟨e, _, failed, _⟩ | ⟨history, turn, _, done⟩
    · cases failed
    · rw [same] at done
      exact ⟨requests, between, _, intent, history, turn, planned, calls,
        .carriedOut resolves carries, resolves, done⟩

end ComposeDeploy
