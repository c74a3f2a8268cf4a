import ComposeDeploy.Proofs.Deployment.Ledger

/-!
A rollback restores what a deployment started.

Along a run of successful calls, a `Lineage` tells for every entry of every
label which deployment of the run first made it. It is computed from what the
calls say to the engine alone, and it is sound: the services of an entry are
those that its deployment started, up to the history that they carry
(`Lineage.IsSound`). So what a rollback starts is what that deployment started
(`RecordedRun.rollback_restores`), however many labels have been written, read
and cut in between.
-/

namespace ComposeDeploy

/-! ### Configurations up to a label -/

theorem Entries.put_put {α : Type} (name : String) (first second : α)
    (entries : List (String × α)) :
    put name second (put name first entries) = put name second entries := by
  induction entries with
  | nil => simp [put]
  | cons entry rest ih =>
    obtain ⟨n, v⟩ := entry
    by_cases same : n = name
    · simp [put, same]
    · simp [put, same, ih]

theorem Dictionary.insert_insert {α : Type} (d : Dictionary α) (name : String) (first second : α) :
    (d.insert name first).insert name second = d.insert name second :=
  Dictionary.ext (Entries.put_put name first second d.entries)

theorem Configuration.withLabels_withLabels (c : Configuration) (first second : Option Labels) :
    (c.withLabels first).withLabels second = c.withLabels second :=
  congrArg mk (labelsSlot.set_set first second c.values)

/-- Only the last value of a label counts. -/
theorem Configuration.withLabel_withLabel (c : Configuration) (name first second : String) :
    (c.withLabel name first).withLabel name second = c.withLabel name second := by
  unfold withLabel
  rw [labels?_withLabels, Option.getD_some, Dictionary.insert_insert, withLabels_withLabels]

theorem Service.labeled_withLabel (service : Service) (first second : String) :
    (service.labeled first).withLabel historyLabel second = service.labeled second :=
  service.configuration.withLabel_withLabel historyLabel first second

/-! ### Lineage -/

/-- Where the entries of a history come from, oldest first: what the deployment
of the run that first made the entry said to the engine, or nothing if it was
made before the run. -/
abbrev Origins := List (Option (List Exchange))

/-- The origins of the history entries that each container carries. -/
abbrev Lineage := String → Origins

/-- The container from which a change reads the history, and that history. -/
def readFrom? (xs : List Exchange) : Option (String × History) :=
  (xs.findSome? Exchange.found?).bind fun (container, inspection) =>
    (History.ofLabelText inspection.historyText?).toOption.map fun history => (container, history)

namespace Lineage

/-- The lineage before a run: nothing is known of the entries there are. -/
def unknown (c : Containers) : Lineage := fun name =>
  match (c name).map Configuration.history with
  | some (.ok history) => history.entries.map fun _ => none
  | _ => []

/-- The origins of the entries that a change reads. -/
def inherited (lineage : Lineage) (xs : List Exchange) : Origins :=
  match readFrom? xs with
  | none => []
  | some (container, _) => lineage container

/-- The origin of the entry that a change appends: a deployment is its own
origin, and a rollback hands on that of the entry which it restores. -/
def origin (lineage : Lineage) (change : Change) (xs : List Exchange) :
    Option (List Exchange) :=
  match change with
  | .deploy _ => some xs
  | .rollback options =>
    match readFrom? xs with
    | none => none
    | some (container, history) =>
      match history.rollbackPosition options.index with
      | .error _ => none
      | .ok index => ((lineage container)[index]?).join

/-- The lineage after a change: the containers that it started carry what it
read and one entry more. -/
def after (lineage : Lineage) (limit : Option Nat) (change : Change) (xs : List Exchange) :
    Lineage := fun name =>
  if name ∈ (xs.filterMap Exchange.started?).map Prod.fst then
    newestOf limit (lineage.inherited xs ++ [lineage.origin change xs])
  else lineage name

end Lineage

/-- A deployment adds itself to the deployments of a run. -/
def Change.deployments (deployments : List (List Exchange)) (xs : List Exchange) :
    Change → List (List Exchange)
  | .deploy _ => deployments ++ [xs]
  | .rollback _ => deployments

theorem Change.mem_deployments {change : Change} {deployments : List (List Exchange)}
    {xs deployment : List Exchange} (earlier : deployment ∈ deployments) :
    deployment ∈ change.deployments deployments xs := by
  cases change with
  | deploy => exact List.mem_append_left _ earlier
  | rollback => exact earlier

/-- The runs of successful calls, each with what its deployments said to the
engine, oldest first, and with the lineage to which it leads. -/
inductive RecordedRun {W : Type} (engine : Engine W) (limit : Option Nat)
    (containers : W → Containers) : List (List Exchange) → Lineage → Watched W → Prop where
  | start (s : Watched W) :
    RecordedRun engine limit containers [] (.unknown (containers s.world)) s
  | call {deployments : List (List Exchange)} {lineage : Lineage} {s after : Watched W}
      {answer : Answer} {xs : List Exchange} (call : Call (Watched W)) :
    RecordedRun engine limit containers deployments lineage s →
      (call.planner engine.watched).Keeps (fun s => (containers s.world, s.own)) →
      (call.perform limit engine.watched).on s = (.ok answer, after) →
      after.own = s.own ++ xs →
      RecordedRun engine limit containers (call.change.deployments deployments xs)
        (lineage.after limit call.change xs) after

/-- The services of an entry are those that a deployment started, up to the
history that they carry. -/
def Manifest.ComesFrom (manifest : Manifest) : Option (List Exchange) → Prop
  | none => True
  | some xs => ∃ text, xs.filterMap Exchange.started? =
      manifest.services.map fun service => (service.name, service.labeled text)

/-- Every entry of a history that a container carries comes from its origin,
and every origin is a deployment of the run. -/
structure Lineage.IsSound (lineage : Lineage) (deployments : List (List Exchange))
    (c : Containers) : Prop where
  comesFrom : ∀ name configuration history, c name = some configuration →
    configuration.history = .ok history →
    List.Forall₂ (fun origin manifest => manifest.ComesFrom origin) (lineage name) history.entries
  listed : ∀ name deployment, some deployment ∈ lineage name → deployment ∈ deployments

/-! ### What a change reads and starts -/

theorem Change.Resolves.eq_nil {now : String} {options : Restoration}
    {requests : List CreateRequest} {resolutions : List Exchange} {intent : Except Error Intent}
    (resolves : Change.Resolves now requests (.rollback options) resolutions intent) :
    resolutions = [] := by
  cases resolves
  rfl

namespace Change.Makes

variable {change : Change} {now : String} {limit : Option Nat}
  {captured : Except Error (List CreateRequest)} {phases : Phases} {result : Except Error Answer}

/-- Only inspections find containers. -/
theorem found? (makes : change.Makes now limit captured phases result) :
    phases.all.findSome? Exchange.found? = phases.inspections.findSome? Exchange.found? := by
  have resolutions : phases.resolutions.findSome? Exchange.found? = none := by
    apply List.findSome?_eq_none_iff.mpr
    intro x member
    obtain ⟨_, _, rfl⟩ := makes.resolves x member
    rfl
  have removals : phases.removals.findSome? Exchange.found? = none := by
    apply List.findSome?_eq_none_iff.mpr
    intro x member
    obtain ⟨_, _, rfl⟩ := makes.inOrder.removals x member
    rfl
  have starts : phases.starts.findSome? Exchange.found? = none := by
    apply List.findSome?_eq_none_iff.mpr
    intro x member
    obtain ⟨_, _, _, rfl⟩ := makes.inOrder.starts x member
    rfl
  simp only [Phases.all, List.findSome?_append, resolutions, removals, starts, Option.none_or,
    Option.or_none]

/-- A rollback resolves no image. -/
theorem resolvesNothing {requests : List CreateRequest} {options : Restoration}
    {intent : Except Error Intent}
    (makes : Change.Makes (.rollback options) now limit captured phases result)
    (resolves : Change.Resolves now requests (.rollback options) phases.resolutions intent) :
    ∀ x ∈ phases.all, ∀ reference result, x ≠ .resolve reference result := by
  rintro x member reference result rfl
  rw [Phases.all, resolves.eq_nil, List.nil_append] at member
  rcases List.mem_append.mp member with inspection | member
  · obtain ⟨_, _, other⟩ := makes.inspects _ inspection
    cases other
  rcases List.mem_append.mp member with removal | start
  · obtain ⟨_, _, other⟩ := makes.inOrder.removals _ removal
    cases other
  · obtain ⟨_, _, _, other⟩ := makes.inOrder.starts _ start
    cases other

end Change.Makes

/-- A change reads the history of a container, or there is none to read. -/
theorem Intent.IsDone.readFrom? {intent : Intent} {limit : Option Nat} {before after : Containers}
    {xs inspections starts : List Exchange} {history : History} {turn : Turn}
    (done : intent.IsDone limit before after inspections starts history turn)
    (found : xs.findSome? Exchange.found? = inspections.findSome? Exchange.found?) :
    (ComposeDeploy.readFrom? xs = none ∧ history = .empty) ∨
      ∃ container configuration, before container = some configuration ∧
        configuration.history = .ok history ∧
        ComposeDeploy.readFrom? xs = some (container, history) := by
  have read := done.read
  have inspected := found.trans done.found
  unfold Containers.carried at read
  unfold Containers.inspected? at inspected
  unfold ComposeDeploy.readFrom?
  cases first : before.first? intent.names with
  | none =>
    rw [first] at read inspected
    cases read
    exact .inl ⟨by rw [inspected]; rfl, rfl⟩
  | some found =>
    obtain ⟨container, configuration⟩ := found
    simp only [first, Option.map_some] at read inspected
    refine .inr ⟨container, configuration, (Containers.first?_eq_some first).2, read, ?_⟩
    have told : History.ofLabelText (Inspection.historyText? ⟨configuration.labels?⟩) =
        .ok history := read
    simp only [inspected, Option.bind_some, told]
    rfl

/-- A rollback appends the entry at its position again. -/
theorem Change.Resolves.restores {now : String} {options : Restoration}
    {requests : List CreateRequest} {resolutions : List Exchange} {intent : Intent}
    {history : History} {turn : Turn}
    (resolves : Change.Resolves now requests (.rollback options) resolutions (.ok intent))
    (chosen : intent.turn history = .ok turn) :
    ∃ index target, history.rollbackPosition options.index = .ok index ∧
      history.get? index = some target ∧ turn.manifest = target.remadeAt now := by
  obtain ⟨index, target, restored, made, _⟩ := resolves.restored chosen
  obtain ⟨position, found⟩ := History.restoration_cases restored
  exact ⟨index, target, position, found, made⟩

/-! ### Soundness -/

theorem forall₂_getElem? {α β : Type} {R : α → β → Prop} {as : List α} {bs : List β}
    (agree : List.Forall₂ R as bs) {index : Nat} {b : β} (found : bs[index]? = some b) :
    ∃ a, as[index]? = some a ∧ R a b := by
  induction agree generalizing index with
  | nil => cases found
  | cons first _ ih =>
    cases index with
    | zero =>
      cases found
      exact ⟨_, rfl, first⟩
    | succ index => exact ih found

namespace Lineage.IsSound

variable {lineage : Lineage} {deployments : List (List Exchange)} {c : Containers}

theorem unknown (c : Containers) : (Lineage.unknown c).IsSound [] c where
  comesFrom name configuration history there carries := by
    have nothingKnown : Lineage.unknown c name = history.entries.map fun _ => none := by
      simp only [Lineage.unknown, there, Option.map_some, carries]
    rw [nothingKnown, List.forall₂_map_left_iff]
    exact List.forall₂_same.mpr fun _ _ => trivial
  listed name deployment member := by
    unfold Lineage.unknown at member
    split at member
    · obtain ⟨_, _, absurdity⟩ := List.mem_map.mp member
      cases absurdity
    · exact absurd member List.not_mem_nil

/-- What a change reads comes from its origins. -/
theorem inherits (sound : lineage.IsSound deployments c) {intent : Intent} {limit : Option Nat}
    {after : Containers} {xs inspections starts : List Exchange} {history : History} {turn : Turn}
    (done : intent.IsDone limit c after inspections starts history turn)
    (found : xs.findSome? Exchange.found? = inspections.findSome? Exchange.found?) :
    List.Forall₂ (fun origin manifest => manifest.ComesFrom origin) (lineage.inherited xs)
      history.entries := by
  unfold Lineage.inherited
  rcases done.readFrom? found with ⟨nothing, rfl⟩ | ⟨container, configuration, there, carries, read⟩
  · rw [nothing]
    exact .nil
  · rw [read]
    exact sound.comesFrom container configuration history there carries

/-- The entry that a change appends comes from its origin. -/
theorem appends (sound : lineage.IsSound deployments c) {now : String} {change : Change}
    {requests : List CreateRequest} {intent : Intent} {limit : Option Nat} {after : Containers}
    {xs resolutions inspections starts : List Exchange} {history : History} {turn : Turn}
    (resolves : change.Resolves now requests resolutions (.ok intent))
    (done : intent.IsDone limit c after inspections starts history turn)
    (found : xs.findSome? Exchange.found? = inspections.findSome? Exchange.found?)
    (begun : xs.filterMap Exchange.started? = starts.filterMap Exchange.started?) :
    turn.manifest.ComesFrom (lineage.origin change xs) := by
  cases change with
  | deploy options => exact ⟨_, begun.trans done.begun⟩
  | rollback options =>
    obtain ⟨index, target, chosen, listed, same⟩ := resolves.restores done.chosen
    unfold Lineage.origin
    rcases done.readFrom? found with ⟨_, rfl⟩ | ⟨container, configuration, there, carries, read⟩
    · cases listed
    · have agree := sound.comesFrom container configuration history there carries
      obtain ⟨origin, known, comesFrom⟩ := forall₂_getElem? agree listed
      simp only [read, chosen, known, Option.join_some, same]
      exact comesFrom

/-- The origins of what a change reads and appends are deployments of the
run. -/
theorem origin_listed (sound : lineage.IsSound deployments c) {change : Change}
    {xs deployment : List Exchange}
    (known : some deployment ∈ lineage.inherited xs ++ [lineage.origin change xs]) :
    deployment ∈ change.deployments deployments xs := by
  rcases List.mem_append.mp known with inherited | appended
  · unfold Lineage.inherited at inherited
    split at inherited
    · exact absurd inherited List.not_mem_nil
    · exact Change.mem_deployments (sound.listed _ deployment inherited)
  · have appended := List.mem_singleton.mp appended
    cases change with
    | deploy options =>
      cases appended
      exact List.mem_append_right _ (List.mem_singleton_self _)
    | rollback options =>
      simp only [Lineage.origin] at appended
      split at appended
      · cases appended
      · split at appended
        · cases appended
        · have restored := Option.join_eq_some_iff.mp appended.symm
          exact sound.listed _ deployment (List.mem_of_getElem? restored)

/-- A successful change keeps the lineage sound. -/
theorem changed (sound : lineage.IsSound deployments c) {now : String} {change : Change}
    {requests : List CreateRequest} {intent : Intent} {limit : Option Nat} {after : Containers}
    {xs resolutions inspections starts : List Exchange} {history : History} {turn : Turn}
    (resolves : change.Resolves now requests resolutions (.ok intent))
    (done : intent.IsDone limit c after inspections starts history turn)
    (found : xs.findSome? Exchange.found? = inspections.findSome? Exchange.found?)
    (begun : xs.filterMap Exchange.started? = starts.filterMap Exchange.started?) :
    (lineage.after limit change xs).IsSound (change.deployments deployments xs) after := by
  have names : (xs.filterMap Exchange.started?).map Prod.fst = turn.manifest.containerNames := by
    rw [begun, done.begun, List.map_map]
    rfl
  constructor
  · intro name configuration carried there carries
    rw [done.containers] at there
    unfold Lineage.after
    rw [names]
    by_cases started : name ∈ turn.manifest.containerNames
    · rw [if_pos started]
      obtain ⟨service, _, _, container⟩ := Containers.started_of_mem started
      rw [container] at there
      cases there
      rw [service.history_labeled] at carries
      cases carries
      rw [History.entries_push]
      exact forall₂_newestOf (List.rel_append (sound.inherits done found)
        (.cons (sound.appends resolves done found begun) .nil))
    · rw [if_neg started]
      rw [Containers.started_of_notMem started, Containers.without] at there
      split at there
      · cases there
      · exact sound.comesFrom name configuration carried there carries
  · intro name deployment member
    unfold Lineage.after at member
    split at member
    · exact sound.origin_listed (mem_newestOf member)
    · exact Change.mem_deployments (sound.listed name deployment member)

end Lineage.IsSound

/-! ### Runs -/

/-- A rollback that says `xs` to the engine reads the history of a container
and restores the deployment at a position of it. -/
structure RestoresOrigin (deployments : List (List Exchange)) (lineage : Lineage)
    (options : Restoration) (xs : List Exchange) (container : String) (history : History)
    (index : Nat) : Prop where
  /-- It resolves no image. -/
  resolvesNothing : ∀ x ∈ xs, ∀ reference result, x ≠ .resolve reference result
  read : readFrom? xs = some (container, history)
  chosen : history.rollbackPosition options.index = .ok index
  /-- The lineage has an origin for every entry of the history. -/
  aligned : (lineage container).length = history.length
  /-- If the entry comes from a deployment of the run, what that deployment
  started is started again, in the same order and in the same configurations up
  to the history that they carry. -/
  restores : ∀ deployment, (lineage container)[index]? = some (some deployment) →
    deployment ∈ deployments ∧
      ∃ text, xs.filterMap Exchange.started? =
        (deployment.filterMap Exchange.started?).map fun (name, configuration) =>
          (name, configuration.withLabel historyLabel text)

namespace RecordedRun

variable {W : Type} {engine : Engine W} {limit : Option Nat} {containers : W → Containers}
  (isMap : engine.IsMap containers) (positive : limit ≠ some 0)
include isMap positive

/-- What a successful call of a run says to the engine is what its phases
say. -/
theorem call_cases {call : Call (Watched W)}
    (aside : (call.planner engine.watched).Keeps fun s => (containers s.world, s.own))
    {s after : Watched W} {answer : Answer}
    (succeeded : (call.perform limit engine.watched).on s = (.ok answer, after)) :
    ∃ requests phases intent history turn,
      after.own = s.own ++ phases.all ∧
        call.change.Makes call.now limit (.ok requests) phases (.ok answer) ∧
        call.change.Resolves call.now requests phases.resolutions (.ok intent) ∧
        intent.IsDone limit (containers s.world) (containers after.world) phases.inspections
          phases.starts history turn := by
  obtain ⟨requests, between, phases, intent, history, turn, planned, calls, makes, resolves,
    done⟩ := Call.succeeded_cases isMap.watched positive (aside.map Prod.fst) succeeded
  exact ⟨requests, phases, intent, history, turn,
    Call.own_eq (aside.map Prod.snd) planned calls makes, makes, resolves, done⟩

/-- The lineage of every run is sound. -/
theorem isSound {deployments : List (List Exchange)} {lineage : Lineage} {s : Watched W}
    (run : RecordedRun engine limit containers deployments lineage s) :
    lineage.IsSound deployments (containers s.world) := by
  induction run with
  | start s => exact .unknown _
  | call call _ aside succeeded own ih =>
    obtain ⟨_, phases, _, _, _, log, makes, resolves, done⟩ :=
      call_cases isMap positive aside succeeded
    rw [own] at log
    cases List.append_cancel_left log
    exact ih.changed resolves done makes.found? makes.started?

/-- Every successful rollback of a run restores what a deployment of the run
started, if the entry that it restores comes from one. -/
theorem rollback_restores {deployments : List (List Exchange)} {lineage : Lineage}
    {s after : Watched W} (run : RecordedRun engine limit containers deployments lineage s)
    {call : Call (Watched W)}
    (aside : (call.planner engine.watched).Keeps fun s => (containers s.world, s.own))
    {options : Restoration} (rollback : call.change = .rollback options) {answer : Answer}
    (succeeded : (call.perform limit engine.watched).on s = (.ok answer, after)) :
    ∃ xs container history index, after.own = s.own ++ xs ∧
      RestoresOrigin deployments lineage options xs container history index := by
  have sound := run.isSound isMap positive
  obtain ⟨requests, phases, intent, history, turn, own, makes, resolves, done⟩ :=
    call_cases isMap positive aside succeeded
  rw [rollback] at makes resolves
  obtain ⟨index, target, chosen, listed, same⟩ := resolves.restores done.chosen
  rcases done.readFrom? makes.found? with
    ⟨_, rfl⟩ | ⟨container, configuration, there, carries, read⟩
  · cases listed
  have agree := sound.comesFrom container configuration history there carries
  refine ⟨phases.all, container, history, index, own, makes.resolvesNothing resolves, read, chosen,
    agree.length_eq, ?_⟩
  intro deployment known
  obtain ⟨origin, known', comesFrom⟩ := forall₂_getElem? agree listed
  rw [known] at known'
  cases known'
  refine ⟨sound.listed container deployment (List.mem_of_getElem? known), ?_⟩
  obtain ⟨text, begun⟩ := comesFrom
  refine ⟨(history.push turn.manifest limit).labelText, ?_⟩
  rw [makes.started?, done.begun, begun, List.map_map, same]
  apply List.map_congr_left
  intro service _
  exact congrArg (service.name, ·) (service.labeled_withLabel _ _).symm

end RecordedRun

/-! ### A depot -/

namespace Depot

/-- Its containers and the images that can be found. -/
abbrev World := Dictionary (Option Configuration) × Dictionary String

def engine : Engine World :=
  ModelEngine.engine "depot" .faultless

/-- The containers of the depot. -/
def containers : World → Containers :=
  ModelEngine.Place.faultless.containers

/-- The depot before the first call. -/
def empty : Watched World :=
  ⟨(.empty, .empty), []⟩

/-- Every call finds other images. -/
def call (images : List (String × String)) (change : Change) : Call (Watched World) where
  planner _ := {
    Planner.reporting [⟨"shop_web_1", "\x7b\"Image\":\"nginx\"\x7d".toUTF8⟩] with
    serve := fun _ => Act.of fun s => (.ok (), ⟨(s.world.1, .ofList images), s.log⟩) }
  now := "2024-02-03T04:05:06Z"
  change

def deploy (id message : String) : Call (Watched World) :=
  call [("nginx", id)] (.deploy ⟨⟨none, none⟩, message, false⟩)

/-- Goes back when the image is no longer to be found. -/
def rollback : Call (Watched World) :=
  call [] (.rollback ⟨⟨none, none⟩, none, false⟩)

/-- What there is to tell after some calls. -/
structure State where
  ledger : History
  deployments : List (List Exchange)
  lineage : Lineage
  depot : Watched World

def State.start : State :=
  ⟨.empty, [], .unknown (containers empty.world), empty⟩

def State.next (state : State) (call : Call (Watched World)) : State :=
  let after := ((call.perform (some 2) engine.watched).on state.depot).2
  let xs := after.own.drop state.depot.own.length
  { ledger := call.recorded engine.watched (some 2) state.ledger state.depot
    deployments := call.change.deployments state.deployments xs
    lineage := state.lineage.after (some 2) call.change xs
    depot := after }

/-- The state tells of a run of successful calls. -/
structure State.IsReached (state : State) : Prop where
  run : Run engine.watched (some 2) (fun s => containers s.world) empty state.ledger state.depot
  recorded : RecordedRun engine (some 2) containers state.deployments state.lineage state.depot

theorem isMap : engine.IsMap containers :=
  ModelEngine.isMap ModelEngine.Place.faultless_isLawful "depot"

theorem isFaultless : engine.IsFaultless :=
  ModelEngine.isFaultless (fun _ => rfl) "depot"

theorem staysAside (images : List (String × String)) (change : Change) :
    ((call images change).planner engine.watched).Keeps fun s => (containers s.world, s.own) where
  serve _ _ := rfl
  compose _ := .pure ()
  stop := .pure ()
  requests := .pure _

theorem call_isAdmissible (images : List (String × String)) (change : Change) {ledger : History}
    {s : Watched World}
    (overlap : ledger.active?.all fun active => active.containerNames.contains "shop_web_1") :
    (call images change).IsAdmissible engine.watched (fun s => containers s.world)
      (containers empty.world) ledger s where
  aside := (staysAside images change).map Prod.fst
  own := by
    intro requests between planned
    cases planned
    constructor
    · decide
    · intro name _
      rfl
    · intro active isActive
      rw [isActive] at overlap
      exact ⟨"shop_web_1", List.mem_singleton_self _, by simpa using overlap⟩

/-- A call whose deployment can be made succeeds. -/
theorem State.IsReached.succeeds {state : State} (reached : state.IsReached)
    (images : List (String × String)) (change : Change)
    (overlap : state.ledger.active?.all fun active => active.containerNames.contains "shop_web_1")
    (isMade : ((call images change).made engine.watched (state.ledger.newest (some 2))
      state.depot).isOk) :
    ∃ answer, ((call images change).perform (some 2) engine.watched).on state.depot =
      (.ok answer, (state.next (call images change)).depot) := by
  have stored := reached.run.isStored (by decide) isMap.watched isFaultless.watched
  rcases Call.step (by decide) isMap.watched isFaultless.watched (call images change) stored
    (call_isAdmissible images change overlap) with ⟨_, answer, _, answered, _⟩ | ⟨e, failed, _⟩
  · exact ⟨answer, Prod.ext answered rfl⟩
  · rw [failed] at isMade
    cases isMade

theorem State.IsReached.next {state : State} (reached : state.IsReached)
    (images : List (String × String)) (change : Change)
    (overlap : state.ledger.active?.all fun active => active.containerNames.contains "shop_web_1")
    (isMade : ((call images change).made engine.watched (state.ledger.newest (some 2))
      state.depot).isOk) : (state.next (call images change)).IsReached := by
  obtain ⟨answer, succeeded⟩ := reached.succeeds images change overlap isMade
  obtain ⟨_, phases, _, _, _, own, _⟩ :=
    RecordedRun.call_cases isMap (by decide) (staysAside images change) succeeded
  refine ⟨.call _ reached.run (call_isAdmissible images change overlap), ?_⟩
  have said : (state.next (call images change)).depot.own.drop state.depot.own.length =
      phases.all := by
    rw [own, List.drop_left]
  exact .call _ reached.recorded (staysAside images change) succeeded
    (own.trans (congrArg _ said.symm))

/-- After two deployments of one image that was built anew. -/
def twice : State :=
  (State.start.next (deploy "sha256:1" "first")).next (deploy "sha256:2" "second")

theorem twice_isReached : twice.IsReached := by
  have recorded : RecordedRun engine (some 2) containers [] (.unknown (containers empty.world))
      empty := .start empty
  have start : State.start.IsReached := ⟨.start, recorded⟩
  have first := start.next [("nginx", "sha256:1")] (deploy "sha256:1" "first").change
    (by decide +kernel) (by decide +kernel)
  exact first.next [("nginx", "sha256:2")] (deploy "sha256:2" "second").change
    (by decide +kernel) (by decide +kernel)

end Depot

theorem RecordedRun.rollback_restores_depot :
    ∃ xs container history index,
      (Depot.twice.next Depot.rollback).depot.own = Depot.twice.depot.own ++ xs ∧
        RestoresOrigin Depot.twice.deployments Depot.twice.lineage ⟨⟨none, none⟩, none, false⟩ xs
          container history index := by
  obtain ⟨answer, succeeded⟩ := Depot.twice_isReached.succeeds [] Depot.rollback.change
    (by decide +kernel) (by decide +kernel)
  exact RecordedRun.rollback_restores Depot.isMap (by decide) Depot.twice_isReached.recorded
    (Depot.staysAside [] Depot.rollback.change) rfl succeeded

end ComposeDeploy
