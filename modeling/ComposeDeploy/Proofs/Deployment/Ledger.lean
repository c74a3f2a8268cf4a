import ComposeDeploy.Proofs.Deployment.Effects

/-!
The labels of the running containers are a database.

A run of deployments and rollbacks is compared with a ledger that remembers
every deployment. `History.IsStored` says how the containers of an engine hold
the newest deployments of a ledger: as one and the same label on each container
of the active deployment. A call that makes a deployment stores the longer
ledger and a failing call changes nothing (`Call.step`), so every run keeps its
ledger stored (`Run.isStored`).
-/

namespace ComposeDeploy

variable {W : Type}

/-! ### Calls -/

namespace Call

/-- The deployment that a call makes when `history` is what is remembered. -/
def made (call : Call W) (engine : Engine W) (history : History) (w : W) :
    Except Error Manifest :=
  match (call.plan engine).on w with
  | (.error e, _) => .error e
  | (.ok requests, between) =>
    match call.change with
    | .deploy options =>
      ((engine.pinAll requests).on between).1.map fun services =>
        ⟨services, call.now, options.message⟩
    | .rollback options =>
      (history.restoration options.index).map fun (_, target) => target.remadeAt call.now

/-- The ledger after a call: with the deployment that the call makes, if it
makes one. -/
def recorded (call : Call W) (engine : Engine W) (limit : Option Nat) (ledger : History) (w : W) :
    History :=
  match call.made engine (ledger.newest limit) w with
  | .ok manifest => ledger.push manifest none
  | .error _ => ledger

end Call

/-- Container names of one application: they are distinct, no foreign
container has one of them, and the active deployment, if any, has one. -/
structure History.AreOwn (ledger : History) (foreign : Containers) (names : List String) :
    Prop where
  distinct : names.Nodup
  apart : ∀ name ∈ names, foreign name = none
  overlap : ∀ active, ledger.active? = some active → ∃ name ∈ names, name ∈ active.containerNames

/-- The call's planner changes no container, and what it captures belongs to
the application. -/
structure Call.IsAdmissible (call : Call W) (engine : Engine W) (containers : W → Containers)
    (foreign : Containers) (ledger : History) (w : W) : Prop where
  aside : (call.planner engine).Keeps containers
  own : ∀ requests between, (call.plan engine).on w = (.ok requests, between) →
    ledger.AreOwn foreign (requests.map CreateRequest.name)

/-- The runs of admissible calls, each with the ledger and the world that it
leads to. The containers at the start are foreign. -/
inductive Run (engine : Engine W) (limit : Option Nat) (containers : W → Containers) (start : W) :
    History → W → Prop where
  | start : Run engine limit containers start .empty start
  | call {ledger : History} {w : W} (call : Call W) :
    Run engine limit containers start ledger w →
      call.IsAdmissible engine containers (containers start) ledger w →
      Run engine limit containers start (call.recorded engine limit ledger w)
        ((call.perform limit engine).on w).2

/-! ### Stored ledgers -/

/-- The containers hold the newest deployments of a ledger, beside foreign
ones. -/
structure History.IsStored (ledger : History) (limit : Option Nat) (foreign c : Containers) :
    Prop where
  beside : ∀ name, foreign name ≠ none → c name = foreign name
  present : ∀ active, ledger.active? = some active → ∀ service ∈ active.services,
    c service.name = some (service.labeled (ledger.newest limit).labelText)
  absent : ∀ name, foreign name = none → name ∉ ledger.activeNames → c name = none
  /-- Every deployment can become active again. -/
  distinct : ∀ manifest ∈ ledger.entries, manifest.containerNames.Nodup
  apart : ∀ manifest ∈ ledger.entries, ∀ name ∈ manifest.containerNames, foreign name = none

/-- A turn replaces the active deployment of a ledger by one of the same
application. -/
structure Turn.Replaces (turn : Turn) (ledger : History) (foreign : Containers) : Prop where
  covers : ∀ name ∈ ledger.activeNames, name ∈ turn.old
  oldApart : ∀ name ∈ turn.old, foreign name = none
  distinct : turn.manifest.containerNames.Nodup
  apart : ∀ name ∈ turn.manifest.containerNames, foreign name = none

namespace History

namespace IsStored

variable {ledger : History} {limit : Option Nat} {foreign c : Containers}

theorem start (c : Containers) : History.empty.IsStored limit c c where
  beside _ _ := rfl
  present _ inactive := nomatch inactive
  absent _ own _ := own
  distinct _ member := absurd member List.not_mem_nil
  apart _ member := absurd member List.not_mem_nil

/-- Each container of the active deployment carries the history. -/
theorem history (stored : ledger.IsStored limit foreign c) {name : String}
    (member : name ∈ ledger.activeNames) :
    ∃ configuration, c name = some configuration ∧
      configuration.history = .ok (ledger.newest limit) := by
  obtain ⟨active, isActive, listed⟩ := mem_activeNames.mp member
  obtain ⟨service, running, rfl⟩ := List.mem_map.mp listed
  exact ⟨_, stored.present active isActive service running, service.history_labeled _⟩

/-- Whichever of the captured containers exists first, it carries the
history. -/
theorem carried (stored : ledger.IsStored limit foreign c) {names : List String}
    (own : ledger.AreOwn foreign names) : c.carried names = .ok (ledger.newest limit) := by
  unfold Containers.carried
  cases first : c.first? names with
  | none =>
    have noContainer := Containers.first?_eq_none.mp first
    rcases ledger.eq_empty_or_push with rfl | ⟨others, active, rfl⟩
    · rw [newest_empty]
    · have isActive := others.active?_append active
      obtain ⟨name, captured, listed⟩ := own.overlap active isActive
      obtain ⟨configuration, there, _⟩ := stored.history (mem_activeNames.mpr ⟨_, isActive, listed⟩)
      rw [noContainer name captured] at there
      cases there
  | some found =>
    obtain ⟨name, configuration⟩ := found
    obtain ⟨captured, there⟩ := Containers.first?_eq_some first
    by_cases active : name ∈ ledger.activeNames
    · obtain ⟨same, there', carries⟩ := stored.history active
      rw [there] at there'
      cases there'
      exact carries
    · have gone := stored.absent name (own.apart name captured) active
      rw [there] at gone
      cases gone

/-- Replacing the active deployment stores the longer ledger. -/
theorem push (stored : ledger.IsStored limit foreign c) {turn : Turn}
    (replaces : turn.Replaces ledger foreign) :
    (ledger.push turn.manifest none).IsStored limit foreign
      ((c.without turn.old).started ((ledger.newest limit).push turn.manifest limit).labelText
        turn.manifest.services) := by
  have isActive := ledger.active?_append turn.manifest
  have entries : (ledger.push turn.manifest none).entries = ledger.entries ++ [turn.manifest] := rfl
  constructor
  · intro name isForeign
    have notNew : name ∉ turn.manifest.containerNames :=
      fun member => isForeign (replaces.apart name member)
    have notOld : name ∉ turn.old := fun member => isForeign (replaces.oldApart name member)
    rw [Containers.started_of_notMem notNew, Containers.without, if_neg notOld]
    exact stored.beside name isForeign
  · intro active same service running
    rw [isActive] at same
    cases same
    rw [Containers.started_of_nodup replaces.distinct running, push_newest]
  · intro name own inactive
    have notNew : name ∉ turn.manifest.containerNames :=
      fun member => inactive (mem_activeNames.mpr ⟨_, isActive, member⟩)
    rw [Containers.started_of_notMem notNew, Containers.without]
    split
    · rfl
    · next notOld =>
      exact stored.absent name own fun member => notOld (replaces.covers name member)
  · intro manifest member
    rw [entries] at member
    rcases List.mem_append.mp member with earlier | new
    · exact stored.distinct manifest earlier
    · rw [List.mem_singleton.mp new]
      exact replaces.distinct
  · intro manifest member
    rw [entries] at member
    rcases List.mem_append.mp member with earlier | new
    · exact stored.apart manifest earlier
    · rw [List.mem_singleton.mp new]
      exact replaces.apart

end IsStored

end History

/-! ### One call -/

theorem Setup.mem_stale {names : List String} {history : History} {name : String} :
    name ∈ Setup.stale names history ↔ name ∈ names ∨ name ∈ history.activeNames := by
  have unfolded : Setup.stale names history =
      names ++ history.activeNames.filter fun name => !names.contains name := rfl
  rw [unfolded, List.mem_append, List.mem_filter]
  constructor
  · rintro (new | ⟨active, _⟩)
    · exact .inl new
    · exact .inr active
  · rintro (new | active)
    · exact .inl new
    · by_cases new : name ∈ names
      · exact .inl new
      · exact .inr ⟨active, by simpa using new⟩

/-- An intent that was resolved for an application's own requests replaces its
active deployment. -/
theorem Change.Resolves.replaces {now : String} {change : Change} {requests : List CreateRequest}
    {xs : List Exchange} {intent : Intent} {limit : Option Nat} {ledger : History}
    {foreign c : Containers} {turn : Turn} (positive : limit ≠ some 0)
    (resolves : change.Resolves now requests xs (.ok intent))
    (stored : ledger.IsStored limit foreign c)
    (own : ledger.AreOwn foreign (requests.map CreateRequest.name))
    (chosen : intent.turn (ledger.newest limit) = .ok turn) : turn.Replaces ledger foreign := by
  have activeApart : ∀ name ∈ ledger.activeNames, foreign name = none := by
    intro name member
    obtain ⟨active, isActive, listed⟩ := History.mem_activeNames.mp member
    exact stored.apart active (History.mem_of_active? isActive) name listed
  cases change with
  | deploy options =>
    obtain ⟨names, old⟩ := resolves.deployed chosen
    constructor
    · intro name active
      rw [old]
      apply Setup.mem_stale.mpr
      right
      rwa [History.activeNames_newest positive]
    · intro name stale
      rw [old] at stale
      rcases Setup.mem_stale.mp stale with new | active
      · exact own.apart name new
      · rw [History.activeNames_newest positive] at active
        exact activeApart name active
    · rw [names]
      exact own.distinct
    · rw [names]
      exact own.apart
  | rollback options =>
    obtain ⟨index, target, found, made, old⟩ := resolves.restored chosen
    have listed : target ∈ ledger.entries :=
      mem_newestOf (History.mem_of_get? (History.restoration_cases found).2)
    rw [History.activeNames_newest positive] at old
    constructor
    · rw [old]
      intro name active
      exact active
    · rw [old]
      exact activeApart
    · rw [made]
      exact stored.distinct target listed
    · rw [made]
      exact stored.apart target listed

/-- What a call makes of a history is what its intent makes of it. -/
theorem Change.Resolves.made {call : Call W} {engine : Engine W} {requests : List CreateRequest}
    {xs : List Exchange} {intent : Except Error Intent} {w between after : W} {history : History}
    (planned : (call.plan engine).on w = (.ok requests, between))
    (resolves : call.change.Resolves call.now requests xs intent)
    (calls : engine.Calls between xs after) :
    call.made engine history w =
      (intent >>= fun intent => intent.turn history).map Turn.manifest := by
  unfold Call.made
  rw [planned]
  generalize call.change = change at resolves
  cases resolves with
  | @deploy options _ services pins =>
    simp only [pins.on calls]
    cases services <;> rfl
  | @rollback options =>
    simp only [bind, Except.bind, Intent.toRestore]
    cases history.restoration options.index <;> rfl

theorem Engine.IsFaultless.succeeded {engine : Engine W} (faultless : engine.IsFaultless)
    {xs : List Exchange} {w after : W} (calls : engine.Calls w xs after)
    (handles : ∀ x ∈ xs, x.handlesContainer) : ∀ x ∈ xs, x.succeeded := by
  induction calls with
  | nil => exact List.forall_mem_nil _
  | cons made _ ih =>
    obtain ⟨first, others⟩ := List.forall_mem_cons.mp handles
    exact List.forall_mem_cons.mpr ⟨faultless made first, ih others⟩

theorem CarriesOut.handlesContainer {limit : Option Nat} {intent : Intent}
    {inspections removals starts : List Exchange} {result : Except Error Answer}
    (carries : CarriesOut limit intent inspections removals starts result) :
    ∀ x ∈ inspections ++ (removals ++ starts), x.handlesContainer := by
  obtain ⟨_, reads⟩ := carries.reads
  obtain ⟨_, _, removes⟩ := carries.removes
  obtain ⟨_, _, _, starts⟩ := carries.startsUp
  intro x member
  rcases List.mem_append.mp member with inspection | member
  · obtain ⟨_, _, rfl⟩ := reads.inspects x inspection
    rfl
  rcases List.mem_append.mp member with removal | start
  · obtain ⟨_, _, rfl⟩ := removes.removes x removal
    rfl
  · obtain ⟨_, _, _, rfl⟩ := starts.starts x start
    rfl

/-- The containers tell what the ledger tells. -/
structure LabelsTell (engine : Engine W) (limit : Option Nat) (containers : W → Containers)
    (start : W) (ledger : History) (w : W) : Prop where
  /-- Foreign containers are as they were. -/
  beside : ∀ name, containers start name ≠ none → containers w name = containers start name
  /-- The other containers are those of the last deployment, -/
  exact : ∀ name, containers start name = none →
    (containers w name ≠ none ↔ name ∈ ledger.activeNames)
  /-- configured as it says, -/
  configured : ∀ active, ledger.active? = some active → ∀ service ∈ active.services,
    containers w service.name = some (service.labeled (ledger.newest limit).labelText)
  /-- and each carries the newest deployments of the ledger. -/
  carries : ∀ name ∈ ledger.activeNames, ∃ configuration,
    containers w name = some configuration ∧
      configuration.history = .ok (ledger.newest limit)
  /-- A call that succeeds has made the deployment that the ledger records. -/
  success : ∀ (call : Call W) (answer : Answer),
    call.IsAdmissible engine containers (containers start) ledger w →
      ((call.perform limit engine).on w).1 = .ok answer →
      ∃ manifest, call.made engine (ledger.newest limit) w = .ok manifest ∧
        call.recorded engine limit ledger w = ledger.push manifest none
  /-- A call that fails changes neither the ledger nor a container. -/
  failure : ∀ (call : Call W) (e : Error),
    call.IsAdmissible engine containers (containers start) ledger w →
      ((call.perform limit engine).on w).1 = .error e →
      call.made engine (ledger.newest limit) w = .error e ∧
        call.recorded engine limit ledger w = ledger ∧
        containers ((call.perform limit engine).on w).2 = containers w

section Runs

variable {engine : Engine W} {limit : Option Nat} {containers : W → Containers} {start : W}
  (positive : limit ≠ some 0) (isMap : engine.IsMap containers) (faultless : engine.IsFaultless)
include positive isMap faultless

/-- Carrying out an intent of the application does what it makes of the newest
deployments: it fails and changes nothing, or it replaces containers. -/
theorem CarriesOut.of_stored {ledger : History} {foreign : Containers} {intent : Intent}
    {inspections removals starts : List Exchange} {result : Except Error Answer} {w after : W}
    (carries : CarriesOut limit intent inspections removals starts result)
    (calls : engine.Calls w (inspections ++ (removals ++ starts)) after)
    (stored : ledger.IsStored limit foreign (containers w))
    (own : ledger.AreOwn foreign intent.names) :
    (∃ e, intent.turn (ledger.newest limit) = .error e ∧ result = .error e ∧
        containers after = containers w) ∨
      ∃ turn, intent.turn (ledger.newest limit) = .ok turn ∧ result = .ok turn.answer ∧
        containers after = ((containers w).without turn.old).started
          ((ledger.newest limit).push turn.manifest limit).labelText turn.manifest.services := by
  have read : (containers w).carried intent.names = .ok (ledger.newest limit) :=
    stored.carried own
  have success := faultless.succeeded calls carries.handlesContainer
  rcases carries.of_map isMap positive calls success with
    ⟨e, refused, failed, unchanged⟩ | ⟨history, turn, answered, done⟩
  · rw [read] at refused
    exact .inl ⟨e, refused, failed, unchanged⟩
  · have known := done.read
    rw [read] at known
    cases known
    exact .inr ⟨turn, done.chosen, answered, done.containers⟩

/-- A call that makes a deployment stores the longer ledger; any other fails
and changes nothing. -/
theorem Call.step {ledger : History} {foreign : Containers} {w : W} (call : Call W)
    (stored : ledger.IsStored limit foreign (containers w))
    (admissible : call.IsAdmissible engine containers foreign ledger w) :
    (∃ manifest answer, call.made engine (ledger.newest limit) w = .ok manifest ∧
        ((call.perform limit engine).on w).1 = .ok answer ∧
        (ledger.push manifest none).IsStored limit foreign
          (containers ((call.perform limit engine).on w).2)) ∨
      ∃ e, call.made engine (ledger.newest limit) w = .error e ∧
        ((call.perform limit engine).on w).1 = .error e ∧
        containers ((call.perform limit engine).on w).2 = containers w := by
  rcases run : (call.perform limit engine).on w with ⟨result, after⟩
  obtain ⟨captured, between, phases, planned, calls, makes⟩ := (call.setup limit).change_cases run
  have planned : (call.plan engine).on w = (captured, between) := planned
  have aside := Call.plan_kept admissible.aside planned
  cases makes with
  | @unplanned e =>
    cases calls
    refine .inr ⟨e, ?_, rfl, aside⟩
    unfold Call.made
    rw [planned]
  | @unresolved requests resolutions e resolves =>
    have resolved : engine.Calls between resolutions after := by
      simpa only [Phases.all, List.append_nil] using calls
    have same := isMap.askingIsHarmless.calls resolved resolves.changesNothing
    exact .inr ⟨e, resolves.made planned resolved, rfl, same.trans aside⟩
  | @carriedOut requests resolutions intent inspections removals starts result resolves carries =>
    obtain ⟨middle, resolved, carried⟩ := calls.split
    have made : call.made engine (ledger.newest limit) w =
        (intent.turn (ledger.newest limit)).map Turn.manifest := resolves.made planned resolved
    have same : containers middle = containers w :=
      (isMap.askingIsHarmless.calls resolved resolves.changesNothing).trans aside
    have own := admissible.own requests between planned
    have ownNames : ledger.AreOwn foreign intent.names := by
      rw [resolves.complete.2]
      exact own
    rw [← same] at stored
    rcases carries.of_stored positive isMap faultless carried stored ownNames with
      ⟨e, refused, failed, unchanged⟩ | ⟨turn, chosen, answered, replaced⟩
    · refine .inr ⟨e, ?_, failed, unchanged.trans same⟩
      rw [made, refused]
      rfl
    · refine .inl ⟨turn.manifest, turn.answer, ?_, answered, ?_⟩
      · rw [made, chosen]
        rfl
      · rw [replaced]
        exact stored.push (resolves.replaces positive stored own chosen)

/-- Every run keeps its ledger stored beside the foreign containers. -/
theorem Run.isStored {ledger : History} {w : W} (run : Run engine limit containers start ledger w) :
    ledger.IsStored limit (containers start) (containers w) := by
  induction run with
  | start => exact History.IsStored.start _
  | call call _ admissible ih =>
    rcases call.step positive isMap faultless ih admissible with
      ⟨manifest, _, made, _, stored⟩ | ⟨e, made, _, unchanged⟩
    · simp only [Call.recorded, made]
      exact stored
    · simp only [Call.recorded, made, unchanged]
      exact ih

/-- After every run, the labels of the running containers tell the newest
deployments of the ledger, and the next call adds to both or changes nothing. -/
theorem Run.labelsTell {ledger : History} {w : W}
    (run : Run engine limit containers start ledger w) :
    LabelsTell engine limit containers start ledger w := by
  have stored := run.isStored positive isMap faultless
  constructor
  · exact stored.beside
  · intro name own
    constructor
    · intro there
      by_contra inactive
      exact there (stored.absent name own inactive)
    · intro active
      obtain ⟨configuration, there, _⟩ := stored.history active
      rw [there]
      exact Option.some_ne_none configuration
  · exact stored.present
  · intro name active
    exact stored.history active
  · intro call answer admissible succeeded
    rcases call.step positive isMap faultless stored admissible with
      ⟨manifest, _, made, _, _⟩ | ⟨e, _, failed, _⟩
    · exact ⟨manifest, made, by simp only [Call.recorded, made]⟩
    · rw [succeeded] at failed
      cases failed
  · intro call e admissible failed
    rcases call.step positive isMap faultless stored admissible with
      ⟨_, _, _, succeeded, _⟩ | ⟨e', made, failed', unchanged⟩
    · rw [failed] at succeeded
      cases succeeded
    · rw [failed] at failed'
      cases failed'
      exact ⟨made, by simp only [Call.recorded, made], unchanged⟩

end Runs

/-! ### A small shop -/

namespace Shop

/-- Its containers and the images that can be found. -/
abbrev World := Dictionary (Option Configuration) × Dictionary String

def engine : Engine World :=
  ModelEngine.engine "shop" .faultless

/-- The containers of the shop. -/
def containers : World → Containers :=
  ModelEngine.Place.faultless.containers

/-- At first there is a foreign container only. -/
def start : World :=
  (.ofList [("registry", none)], .ofList [("nginx", "sha256:1")])

/-- A change of the one container of the shop. -/
def call (change : Change) : Call World where
  planner _ := .reporting [⟨"shop_web_1", "\x7b\"Image\":\"nginx\"\x7d".toUTF8⟩]
  now := "2024-02-03T04:05:06Z"
  change

def deploy (message : String) : Change :=
  .deploy ⟨⟨none, none⟩, message, false⟩

def rollback : Change :=
  .rollback ⟨⟨none, none⟩, none, false⟩

/-- The ledger and the containers after some changes. -/
def after (changes : List Change) : History × World :=
  changes.foldl
    (fun (ledger, w) change =>
      ((call change).recorded engine (some 2) ledger w,
        (((call change).perform (some 2) engine).on w).2))
    (.empty, start)

theorem isMap : engine.IsMap containers :=
  ModelEngine.isMap ModelEngine.Place.faultless_isLawful "shop"

theorem isFaultless : engine.IsFaultless :=
  ModelEngine.isFaultless (fun _ => rfl) "shop"

theorem call_isAdmissible (change : Change) {ledger : History} {w : World}
    (overlap : ledger.active?.all fun active => active.containerNames.contains "shop_web_1") :
    (call change).IsAdmissible engine containers (containers start) ledger w where
  aside := Planner.reporting_keeps _
  own := by
    intro requests between planned
    cases planned
    constructor
    · decide
    · decide +kernel
    · intro active isActive
      rw [isActive] at overlap
      exact ⟨"shop_web_1", List.mem_singleton_self _, by simpa using overlap⟩

/-- The shop can make these changes in a row. -/
abbrev RunsBy (changes : List Change) : Prop :=
  Run engine (some 2) containers start (after changes).1 (after changes).2

theorem RunsBy.snoc {changes : List Change} (run : RunsBy changes) (change : Change)
    (overlap : (after changes).1.active?.all fun active =>
      active.containerNames.contains "shop_web_1") : RunsBy (changes ++ [change]) := by
  unfold RunsBy after
  rw [List.foldl_append]
  exact .call (call change) run (call_isAdmissible change overlap)

end Shop

theorem Run.labelsTell_shop :
    (Shop.after [Shop.deploy "first", Shop.deploy "second", Shop.rollback]).1.entries.map
        Manifest.message = ["first", "second", "first"] ∧
      LabelsTell Shop.engine (some 2) Shop.containers Shop.start
        (Shop.after [Shop.deploy "first", Shop.deploy "second", Shop.rollback]).1
        (Shop.after [Shop.deploy "first", Shop.deploy "second", Shop.rollback]).2 := by
  have none : Shop.RunsBy [] := .start
  have first : Shop.RunsBy [Shop.deploy "first"] := none.snoc _ (by decide +kernel)
  have second : Shop.RunsBy [Shop.deploy "first", Shop.deploy "second"] :=
    first.snoc _ (by decide +kernel)
  have third : Shop.RunsBy [Shop.deploy "first", Shop.deploy "second", Shop.rollback] :=
    second.snoc _ (by decide +kernel)
  exact ⟨by decide +kernel, Run.labelsTell (by decide) Shop.isMap Shop.isFaultless third⟩

end ComposeDeploy
