import ComposeDeploy.Proofs.Deployment.Reach
import ComposeDeploy.Proofs.Deployment.Replay
import ComposeDeploy.Proofs.Deployment.Tenure

/-!
A history never holds a history.

The label goes onto a copy of a service, never onto the service that is
remembered. So if no captured body sets the label itself, no service of any
history that a container tells ever carries it: containers come about only by
being started (`Engine.Calls.started_of_some`), so what holds of all that is
started holds in every world between two exchanges, whatever succeeds or fails
(`CleanRun.tellPlain`). What the bodies set is overwritten: each container is
started with the history that the call has read and the deployment that it
makes (`Call.HasSaid.start`).
-/

namespace ComposeDeploy

/-! ### Plain histories -/

/-- No service of the deployment carries a history. -/
def Manifest.IsPlain (manifest : Manifest) : Prop :=
  ∀ service ∈ manifest.services, service.configuration.label? historyLabel = none

/-- No service of any deployment carries a history. -/
def History.IsPlain (history : History) : Prop :=
  ∀ manifest ∈ history.entries, manifest.IsPlain

/-- The container tells a history, and a plain one. -/
def Configuration.TellsPlain (configuration : Configuration) : Prop :=
  ∃ history, configuration.history = .ok history ∧ history.IsPlain

/-- Every container tells a plain history. -/
def Containers.TellPlain (c : Containers) : Prop :=
  ∀ name configuration, c name = some configuration → configuration.TellsPlain

theorem History.isPlain_empty : History.empty.IsPlain :=
  List.forall_mem_nil _

theorem History.IsPlain.push {history : History} (plain : history.IsPlain) {manifest : Manifest}
    (added : manifest.IsPlain) (limit : Option Nat) : (history.push manifest limit).IsPlain := by
  intro entry member
  rw [History.entries_push] at member
  rcases List.mem_append.mp (mem_newestOf member) with earlier | new
  · exact plain entry earlier
  · rwa [List.mem_singleton.mp new]

/-- A container without the label tells the empty history. -/
theorem Configuration.tellsPlain_of_unlabeled {configuration : Configuration}
    (unlabeled : configuration.label? historyLabel = none) : configuration.TellsPlain :=
  ⟨.empty, by rw [history, unlabeled]; rfl, History.isPlain_empty⟩

theorem Service.labeled_tellsPlain (service : Service) {history : History}
    (plain : history.IsPlain) : (service.labeled history.labelText).TellsPlain :=
  ⟨history, service.history_labeled history, plain⟩

theorem Containers.TellPlain.carried {c : Containers} (plain : c.TellPlain) {names : List String}
    {history : History} (carried : c.carried names = .ok history) : history.IsPlain := by
  unfold Containers.carried at carried
  split at carried
  · cases carried
    exact History.isPlain_empty
  · next first =>
    obtain ⟨_, there⟩ := Containers.first?_eq_some first
    obtain ⟨told, tells, isPlain⟩ := plain _ _ there
    rw [carried] at tells
    cases tells
    exact isPlain

/-! ### Where containers come from -/

/-- Only by being started a container comes about. -/
theorem Exchange.effect_eq_some {x : Exchange} {c : Containers} {name : String}
    {configuration : Configuration} (there : x.effect c name = some configuration) :
    c name = some configuration ∨ x = .start name configuration (.ok ()) := by
  cases x with
  | start container labeled answer =>
    cases answer with
    | error e => exact .inl there
    | ok =>
      by_cases same : name = container
      · subst same
        cases (Function.update_self ..).symm.trans there
        exact .inr rfl
      · exact .inl ((Function.update_of_ne same _ _).symm.trans there)
  | remove container answer =>
    cases answer with
    | error e => exact .inl there
    | ok =>
      by_cases same : name = container
      · subst same
        cases (Function.update_self ..).symm.trans there
      · exact .inl ((Function.update_of_ne same _ _).symm.trans there)
  | version | resolve | inspect | build => exact .inl there

section Engines

variable {W : Type} {engine : Engine W} {containers : W → Containers}
  (isMap : engine.IsMap containers) {xs : List Exchange} {w after : W}
  (calls : engine.Calls w xs after)
include isMap calls

/-- A container is there from before, or it has been started. -/
theorem Engine.Calls.started_of_some {name : String} {configuration : Configuration}
    (there : containers after name = some configuration) :
    containers w name = some configuration ∨ .start name configuration (.ok ()) ∈ xs := by
  induction calls with
  | nil => exact .inl there
  | cons made _ ih =>
    rcases ih there with before | later
    · rw [(isMap made).2] at before
      rcases Exchange.effect_eq_some before with before | rfl
      · exact .inl before
      · exact .inr List.mem_cons_self
    · exact .inr (List.mem_cons_of_mem _ later)

/-- Containers go on telling plain histories as long as those that are started
do. -/
theorem Engine.Calls.tellPlain (plain : (containers w).TellPlain)
    (started : ∀ name configuration answer, .start name configuration answer ∈ xs →
      configuration.TellsPlain) : (containers after).TellPlain := by
  intro name configuration there
  rcases calls.started_of_some isMap there with before | member
  · exact plain name configuration before
  · exact started name configuration _ member

end Engines

/-! ### What a call starts -/

/-- What is started are the services of one deployment with one label. -/
theorem Starts.labeled {label : String} {services : List Service} {xs : List Exchange}
    {result : Except Error Unit} (starts : Starts label services xs result) :
    ∀ x ∈ xs, ∃ service ∈ services, ∃ answer,
      x = .start service.name (service.labeled label) answer := by
  induction starts with
  | nil => exact List.forall_mem_nil _
  | failed => exact List.forall_mem_singleton.mpr ⟨_, List.mem_cons_self, _, rfl⟩
  | more _ ih =>
    refine List.forall_mem_cons.mpr ⟨⟨_, List.mem_cons_self, _, rfl⟩, ?_⟩
    intro x member
    obtain ⟨service, listed, answer, rfl⟩ := ih x member
    exact ⟨service, List.mem_cons_of_mem _ listed, answer, rfl⟩

/-- A change that starts something has read a history and chosen its turn. -/
theorem CarriesOut.labeled {limit : Option Nat} {intent : Intent}
    {inspections removals starts : List Exchange} {result : Except Error Answer}
    (carries : CarriesOut limit intent inspections removals starts result) :
    starts = [] ∨
      ∃ history turn, Reads intent.names inspections (.ok history) ∧
        intent.turn history = .ok turn ∧
        ∀ x ∈ starts, ∃ (service : Service) (answer : Except Error Unit),
          x = .start service.name
            (service.labeled (history.push turn.manifest limit).labelText) answer := by
  cases carries with
  | unread | refused | unremoved => exact .inl rfl
  | @turned _ _ history turn _ _ reads chosen _ brings =>
    refine .inr ⟨history, turn, reads, chosen, ?_⟩
    intro x member
    obtain ⟨service, _, answer, rfl⟩ := brings.startsActive.labeled x member
    exact ⟨service, answer, rfl⟩

theorem Configuration.label?_pinnedTo (c : Configuration) (id name : String) :
    (c.pinnedTo id).label? name = c.label? name := by
  have same : (c.pinnedTo id).labels? = c.labels? :=
    (c.repins_pinnedTo id).others labelsSlot (by decide)
  rw [label?, same, label?]

/-- The body of the request does not set the label of the history. -/
def CreateRequest.IsUnlabeled (request : CreateRequest) : Prop :=
  ∀ configuration, request.configuration = .ok configuration →
    configuration.label? historyLabel = none

theorem Pins.unlabeled {requests : List CreateRequest} {xs : List Exchange}
    {services : List Service} (pins : Pins requests xs (.ok services))
    (clean : ∀ request ∈ requests, request.IsUnlabeled) :
    ∀ service ∈ services, service.configuration.label? historyLabel = none := by
  generalize outcome : Except.ok services = result at pins
  induction pins generalizing services with
  | nil =>
    cases outcome
    exact List.forall_mem_nil _
  | refused => cases outcome
  | unresolved => cases outcome
  | @more request _ template _ id _ result wanted _ ih =>
    cases result with
    | error e => cases outcome
    | ok others =>
      cases outcome
      obtain ⟨first, later⟩ := List.forall_mem_cons.mp clean
      refine List.forall_mem_cons.mpr ⟨?_, ih later rfl⟩
      exact (template.label?_pinnedTo id historyLabel).trans
        (first template (CreateRequest.wanted_eq_ok wanted).1)

/-- From a plain history and bodies without the label a plain deployment is made. -/
theorem Change.Resolves.plain {now : String} {change : Change} {requests : List CreateRequest}
    {xs : List Exchange} {intent : Intent} {history : History} {turn : Turn}
    (resolves : change.Resolves now requests xs (.ok intent))
    (clean : ∀ request ∈ requests, request.IsUnlabeled) (plain : history.IsPlain)
    (chosen : intent.turn history = .ok turn) : turn.manifest.IsPlain := by
  cases change with
  | deploy options =>
    obtain ⟨services, pins, rfl⟩ := resolves.pinned
    cases chosen
    exact pins.unlabeled clean
  | rollback options =>
    obtain ⟨index, target, restored, made, _⟩ := resolves.restored chosen
    rw [made]
    exact plain target (History.mem_of_get? (History.restoration_cases restored).2)

/-! ### Between two exchanges of a call -/

section Calls

variable {W : Type} {engine : Engine W} {containers : W → Containers} {limit : Option Nat}
  {call : Call W} {w u : W} {said : List Exchange}

/-- `said` are the first exchanges that a call makes in the world `w`, and `u` is
the world after them. -/
inductive Call.HasSaid (call : Call W) (engine : Engine W) (limit : Option Nat) (w : W)
    (said : List Exchange) (u : W) : Prop where
  | mk {captured : Except Error (List CreateRequest)} {between : W} {phases : Phases}
      {rest : List Exchange} :
    (call.plan engine).on w = (captured, between) →
      call.change.Makes call.now limit captured phases ((call.perform limit engine).on w).1 →
      phases.all = said ++ rest →
      engine.Calls between said u →
      engine.Calls u rest ((call.perform limit engine).on w).2 →
      HasSaid call engine limit w said u

/-- Only the last phase starts containers. -/
theorem Change.Makes.mem_starts {now : String} {change : Change}
    {captured : Except Error (List CreateRequest)} {phases : Phases} {result : Except Error Answer}
    (makes : change.Makes now limit captured phases result) {name : String}
    {configuration : Configuration} {answer : Except Error Unit}
    (member : .start name configuration answer ∈ phases.all) :
    .start name configuration answer ∈ phases.starts := by
  rw [Phases.all] at member
  rcases List.mem_append.mp member with resolution | member
  · obtain ⟨_, _, isResolve⟩ := makes.resolves _ resolution
    cases isResolve
  rcases List.mem_append.mp member with inspection | member
  · obtain ⟨_, _, isInspect⟩ := makes.inspects _ inspection
    cases isInspect
  rcases List.mem_append.mp member with removal | start
  · cases makes with
    | unplanned => cases removal
    | unresolved => cases removal
    | carriedOut _ carries =>
      obtain ⟨_, _, removes⟩ := carries.removes
      obtain ⟨_, _, isRemove⟩ := removes.removes _ removal
      cases isRemove
  · exact start

/-- In the end a call has said all that it says. -/
theorem Call.hasSaid_end (call : Call W) (engine : Engine W) (limit : Option Nat) (w : W) :
    ∃ said, call.HasSaid engine limit w said ((call.perform limit engine).on w).2 := by
  have run : (call.perform limit engine).on w =
      (((call.perform limit engine).on w).1, ((call.perform limit engine).on w).2) := rfl
  obtain ⟨captured, between, phases, planned, calls, makes⟩ := (call.setup limit).change_cases run
  exact ⟨phases.all, .mk planned makes (List.append_nil _).symm calls .nil⟩

/-- What a call starts carries the history that the call has read with the
deployment that it makes. -/
structure Call.StartsWith (call : Call W) (engine : Engine W) (containers : W → Containers)
    (limit : Option Nat) (w : W) (requests : List CreateRequest) (intent : Intent)
    (history : History) (turn : Turn) (configuration : Configuration) : Prop where
  read : (containers w).carried (requests.map CreateRequest.name) = .ok history
  chosen : intent.turn history = .ok turn
  made : call.made engine history w = .ok turn.manifest
  carries : ∃ service : Service,
    configuration = service.labeled (history.push turn.manifest limit).labelText

theorem Call.HasSaid.start (isMap : engine.IsMap containers)
    (aside : (call.planner engine).Keeps containers)
    (hasSaid : call.HasSaid engine limit w said u) {name : String} {configuration : Configuration}
    {answer : Except Error Unit} (member : .start name configuration answer ∈ said) :
    ∃ requests between xs intent history turn,
      (call.plan engine).on w = (.ok requests, between) ∧
        call.change.Resolves call.now requests xs (.ok intent) ∧
        call.StartsWith engine containers limit w requests intent history turn configuration := by
  obtain @⟨_, between, phases, rest, planned, makes, whole, first, later⟩ := hasSaid
  have kept := Call.plan_kept aside planned
  have calls : engine.Calls between phases.all _ := whole ▸ first.append later
  have started : .start name configuration answer ∈ phases.starts :=
    makes.mem_starts (whole ▸ List.mem_append_left rest member)
  generalize ((call.perform limit engine).on w).1 = result at makes
  cases makes with
  | unplanned => cases started
  | unresolved => cases started
  | @carriedOut requests resolutions intent inspections removals starts _ resolves carries =>
    rcases carries.labeled with none | ⟨history, turn, reads, chosen, labeled⟩
    · rw [none] at started
      cases started
    obtain ⟨middle, resolved, carried⟩ := calls.split
    obtain ⟨_, inspected, _⟩ := carried.split
    have same := (isMap.askingIsHarmless.calls resolved resolves.changesNothing).trans kept
    obtain ⟨read, _⟩ := reads.of_map isMap inspected (reads.orderly.all rfl)
    rw [same, resolves.complete.2] at read
    obtain ⟨service, _, isStart⟩ := labeled _ started
    cases isStart
    exact ⟨requests, between, resolutions, intent, history, turn, planned, resolves, read.symm,
      chosen, resolves.made_of_turn planned resolved chosen, service, rfl⟩

theorem Call.HasSaid.mem_of_new (isMap : engine.IsMap containers)
    (aside : (call.planner engine).Keeps containers)
    (hasSaid : call.HasSaid engine limit w said u) {name : String} {configuration : Configuration}
    (absent : containers w name = none) (there : containers u name = some configuration) :
    .start name configuration (.ok ()) ∈ said := by
  obtain ⟨planned, _, _, calls, _⟩ := hasSaid
  rcases calls.started_of_some isMap there with before | member
  · rw [Call.plan_kept aside planned, absent] at before
    cases before
  · exact member

end Calls

/-! ### Runs -/

section Runs

variable {W : Type} {engine : Engine W} {containers : W → Containers} {start : W}

/-- The call's planner changes no container, and no body that it captures sets
the label of the history. -/
structure Call.IsClean (call : Call W) (engine : Engine W) (containers : W → Containers) (w : W) :
    Prop where
  aside : (call.planner engine).Keeps containers
  unlabeled : ∀ requests between, (call.plan engine).on w = (.ok requests, between) →
    ∀ request ∈ requests, request.IsUnlabeled

/-- The runs of clean calls, each with a limit of its own, and the worlds that
they lead to, whether the calls succeed or fail. -/
inductive CleanRun (engine : Engine W) (containers : W → Containers) (start : W) : W → Prop where
  | start : CleanRun engine containers start start
  | call {w : W} (call : Call W) (limit : Option Nat) :
    CleanRun engine containers start w → call.IsClean engine containers w →
      CleanRun engine containers start ((call.perform limit engine).on w).2

/-- The worlds that a clean run visits: those before and after its calls, and
those between two exchanges of a call. -/
inductive Visits (engine : Engine W) (containers : W → Containers) (start : W) : W → Prop where
  | resting {w : W} : CleanRun engine containers start w → Visits engine containers start w
  | during {w u : W} {call : Call W} {limit : Option Nat} {said : List Exchange} :
    CleanRun engine containers start w → call.IsClean engine containers w →
      call.HasSaid engine limit w said u → Visits engine containers start u

theorem Call.HasSaid.tellPlain (isMap : engine.IsMap containers) {call : Call W}
    {limit : Option Nat} {w u : W} {said : List Exchange}
    (hasSaid : call.HasSaid engine limit w said u) (clean : call.IsClean engine containers w)
    (plain : (containers w).TellPlain) : (containers u).TellPlain := by
  have started : ∀ name configuration answer, .start name configuration answer ∈ said →
      configuration.TellsPlain := by
    intro name configuration answer member
    obtain ⟨requests, between, _, _, history, turn, planned, resolves, startsWith⟩ :=
      hasSaid.start isMap clean.aside member
    obtain ⟨service, rfl⟩ := startsWith.carries
    have known := plain.carried startsWith.read
    have added := resolves.plain (clean.unlabeled requests between planned) known startsWith.chosen
    exact service.labeled_tellsPlain (known.push added limit)
  obtain ⟨planned, _, _, calls, _⟩ := hasSaid
  rw [← Call.plan_kept clean.aside planned] at plain
  exact calls.tellPlain isMap plain started

theorem CleanRun.tellPlain (isMap : engine.IsMap containers)
    (unlabeled : ∀ name configuration, containers start name = some configuration →
      configuration.label? historyLabel = none) {w : W} (run : CleanRun engine containers start w) :
    (containers w).TellPlain := by
  induction run with
  | start =>
    intro name configuration there
    exact Configuration.tellsPlain_of_unlabeled (unlabeled name configuration there)
  | @call w call limit _ clean ih =>
    obtain ⟨said, hasSaid⟩ := call.hasSaid_end engine limit w
    exact hasSaid.tellPlain isMap clean ih

/-- From containers without the label and with bodies that do not set it, every
container tells a history none of whose services carries the label, in each
world that a run visits. Whatever the bodies set, a container is started with
the history that its call has read and the deployment that the call makes. -/
theorem Visits.historiesNeverNest (isMap : engine.IsMap containers) :
    (∀ start, (∀ name configuration, containers start name = some configuration →
        configuration.label? historyLabel = none) →
      ∀ u, Visits engine containers start u → (containers u).TellPlain) ∧
    ∀ (call : Call W) (limit : Option Nat) (w u : W) (said : List Exchange),
      (call.planner engine).Keeps containers → call.HasSaid engine limit w said u →
      ∀ name configuration answer, .start name configuration answer ∈ said →
      ∃ requests between history manifest, (call.plan engine).on w = (.ok requests, between) ∧
        (containers w).carried (requests.map CreateRequest.name) = .ok history ∧
        call.made engine history w = .ok manifest ∧
        configuration.label? historyLabel = some (history.push manifest limit).labelText ∧
        configuration.history = .ok (history.push manifest limit) := by
  constructor
  · intro start unlabeled u visits
    cases visits with
    | resting run => exact run.tellPlain isMap unlabeled
    | during run clean hasSaid =>
      exact hasSaid.tellPlain isMap clean (run.tellPlain isMap unlabeled)
  · intro call limit w u said aside hasSaid name configuration answer member
    obtain ⟨requests, between, _, _, history, turn, planned, _, startsWith⟩ :=
      hasSaid.start isMap aside member
    obtain ⟨service, rfl⟩ := startsWith.carries
    refine ⟨requests, between, history, turn.manifest, planned, startsWith.read, startsWith.made,
      ?_, service.history_labeled _⟩
    rw [Service.labeled, Configuration.label?_withLabel, if_pos rfl]

end Runs

/-! ### A small shop -/

namespace Shop

/-- The shop before anything runs. -/
def vacant : World :=
  (.empty, .ofList [("nginx", "sha256:1")])

theorem vacant_containers (name : String) : containers vacant name = none := by
  simp [containers, ModelEngine.Place.containers, ModelEngine.view, ModelEngine.Place.faultless,
    vacant]

theorem call_isClean (change : Change) (w : World) :
    (call change).IsClean engine containers w where
  aside := Planner.reporting_keeps _
  unlabeled := by
    intro requests between planned request member configuration described
    cases planned
    have plain : (CreateRequest.configuration
        ⟨"shop_web_1", "\x7b\"Image\":\"nginx\"\x7d".toUTF8⟩).map
          (Configuration.label? · historyLabel) = .ok none := by
      decide +kernel
    rw [← List.mem_singleton.mp member, described] at plain
    exact Except.ok.inj plain

/-- A deployment whose body sets the label of the history itself. -/
def posing : Call World where
  planner _ := .reporting [⟨"shop_web_1",
    "\x7b\"Image\":\"nginx\",\"Labels\":\x7b\"zodiacManifest\":\"[]\"\x7d\x7d".toUTF8⟩]
  now := "2024-02-03T04:05:06Z"
  change := deploy "posing"

end Shop

theorem Visits.historiesNeverNest_shop :
    (∃ w, Visits Shop.engine Shop.containers Shop.vacant w ∧
      (Shop.containers w "shop_web_1").isSome ∧ (Shop.containers w).TellPlain) ∧
    ∃ said u configuration history manifest,
      Shop.posing.HasSaid Shop.engine none Shop.vacant said u ∧
      .start "shop_web_1" configuration (.ok ()) ∈ said ∧
      Shop.posing.made Shop.engine history Shop.vacant = .ok manifest ∧
      configuration.label? historyLabel = some (history.push manifest none).labelText := by
  have neverNest := Visits.historiesNeverNest Shop.isMap
  constructor
  · have first : CleanRun Shop.engine Shop.containers Shop.vacant _ :=
      .call (Shop.call (Shop.deploy "first")) none .start (Shop.call_isClean _ _)
    have visits := Visits.resting
      (first.call (Shop.call (Shop.deploy "second")) none (Shop.call_isClean _ _))
    refine ⟨_, visits, by decide +kernel, neverNest.1 Shop.vacant ?_ _ visits⟩
    intro name configuration there
    rw [Shop.vacant_containers] at there
    cases there
  · obtain ⟨said, hasSaid⟩ := Shop.posing.hasSaid_end Shop.engine none Shop.vacant
    have there : (Shop.containers ((Shop.posing.perform none Shop.engine).on Shop.vacant).2
        "shop_web_1").isSome := by
      decide +kernel
    obtain ⟨configuration, there⟩ := Option.isSome_iff_exists.mp there
    have aside : (Shop.posing.planner Shop.engine).Keeps Shop.containers :=
      Planner.reporting_keeps _
    have member := hasSaid.mem_of_new Shop.isMap aside (Shop.vacant_containers "shop_web_1") there
    obtain ⟨_, _, history, manifest, _, _, made, carries, _⟩ :=
      neverNest.2 Shop.posing none Shop.vacant _ said aside hasSaid _ configuration _ member
    exact ⟨said, _, configuration, history, manifest, hasSaid, member, made, carries⟩

end ComposeDeploy
