import ComposeDeploy.Proofs.Container.Slots
import ComposeDeploy.Proofs.Deployment.Occupancy

/-!
What a deployment starts, request by request.

A `Replica` follows one captured request: what its body describes, which image
it names and what the engine takes that image to be, the configuration that is
remembered and the one that is started. A deployment that succeeds makes one
replica for each request, in order, and remembers all of them in the label that
they carry (`Call.deploy_replays`).
-/

namespace ComposeDeploy

/-! ### Replicas -/

/-- What became of one captured request. -/
structure Replica where
  request : CreateRequest
  /-- What the body of the request describes. -/
  template : Configuration
  /-- The image that the body names. -/
  reference : String
  /-- What the engine takes that image to be. -/
  id : String
  remembered : Configuration
  started : Configuration

namespace Replica

/-- The service that is remembered. -/
def service (replica : Replica) : Service where
  name := replica.request.name
  templateImage := some replica.reference
  configuration := replica.remembered

/-- The exchange that settled the image. -/
def resolution (replica : Replica) : Exchange :=
  .resolve replica.reference (.ok replica.id)

/-- The exchange that started the container. -/
def start (replica : Replica) : Exchange :=
  .start replica.request.name replica.started (.ok ())

/-- What is remembered is the request with its image settled, and what is
started is that with the label `text` and nothing else. -/
structure IsFaithful (replica : Replica) (text : String) : Prop where
  described : replica.request.configuration = .ok replica.template
  named : replica.template.image? = some replica.reference
  remembered : replica.template.Repins replica.remembered replica.id
  started : replica.remembered.Relabels replica.started historyLabel text

end Replica

/-- Whether a call asks for an image. -/
def Exchange.isResolution : Exchange → Bool
  | .resolve .. => true
  | _ => false

/-- The exchanges `xs` start the requests as `replicas`, which a history in the
label `text` remembers as its newest deployment. -/
structure Replays (now message : String) (requests : List CreateRequest)
    (replicas : List Replica) (text : String) (xs : List Exchange) : Prop where
  requests : replicas.map Replica.request = requests
  faithful : ∀ replica ∈ replicas, replica.IsFaithful text
  resolutions : xs.filter Exchange.isResolution = replicas.map Replica.resolution
  starts : xs.filter Exchange.isStart = replicas.map Replica.start
  told : ∃ history, History.ofLabelText (some text) = .ok history ∧
    history.active? = some ⟨replicas.map Replica.service, now, message⟩

/-! ### Single steps -/

theorem CreateRequest.wanted_eq_ok {request : CreateRequest} {configuration : Configuration}
    {reference : String} (wanted : request.wanted = .ok (configuration, reference)) :
    request.configuration = .ok configuration ∧ configuration.image? = some reference := by
  unfold CreateRequest.wanted at wanted
  cases described : request.configuration with
  | error e =>
    rw [described] at wanted
    cases wanted
  | ok template =>
    simp only [described] at wanted
    cases named : template.image?.filter fun image => Text.trim image ≠ "" with
    | none =>
      rw [named] at wanted
      cases wanted
    | some image =>
      rw [named] at wanted
      cases wanted
      exact ⟨rfl, (Option.filter_eq_some_iff.mp named).1⟩

/-- Requests that have been pinned can be replicated, whatever label the
replicas are to carry. -/
theorem Pins.replicas {requests : List CreateRequest} {xs : List Exchange}
    {services : List Service} (pins : Pins requests xs (.ok services)) (text : String) :
    ∃ replicas : List Replica, replicas.map Replica.request = requests ∧
      replicas.map Replica.service = services ∧ replicas.map Replica.resolution = xs ∧
      ∀ replica ∈ replicas, replica.IsFaithful text ∧
        replica.started = replica.service.labeled text := by
  generalize outcome : Except.ok services = result at pins
  induction pins generalizing services with
  | nil =>
    cases outcome
    exact ⟨[], rfl, rfl, rfl, List.forall_mem_nil _⟩
  | refused => cases outcome
  | unresolved => cases outcome
  | @more request _ template reference id _ result wanted _ ih =>
    cases result with
    | error e => cases outcome
    | ok others =>
      cases outcome
      obtain ⟨replicas, rfl, rfl, rfl, faithful⟩ := ih rfl
      obtain ⟨described, named⟩ := CreateRequest.wanted_eq_ok wanted
      have first : Replica.IsFaithful ⟨request, template, reference, id, template.pinnedTo id,
          (template.pinnedTo id).withLabel historyLabel text⟩ text :=
        ⟨described, named, template.repins_pinnedTo id, Configuration.relabels_withLabel _ _ _⟩
      exact ⟨_ :: replicas, rfl, rfl, rfl, List.forall_mem_cons.mpr ⟨⟨first, rfl⟩, faithful⟩⟩

theorem Starts.complete {label : String} {services : List Service} {xs : List Exchange}
    (starts : Starts label services xs (.ok ())) :
    xs = services.map fun service => .start service.name (service.labeled label) (.ok ()) := by
  induction services generalizing xs with
  | nil =>
    cases starts
    rfl
  | cons service rest ih =>
    cases starts with
    | more others => rw [List.map_cons, ← ih others]

/-! ### Whole deployments -/

/-- An intent that was carried out has read a history and taken its turn, and all
services of the new deployment were started. -/
theorem CarriesOut.complete {limit : Option Nat} (positive : limit ≠ some 0) {intent : Intent}
    {inspections removals starts : List Exchange} {answer : Answer}
    (carries : CarriesOut limit intent inspections removals starts (.ok answer)) :
    ∃ history turn, Reads intent.names inspections (.ok history) ∧
      intent.turn history = .ok turn ∧ answer = turn.answer ∧
      Starts (history.push turn.manifest limit).labelText turn.manifest.services starts (.ok ()) := by
  generalize outcome : Except.ok answer = result at carries
  cases carries with
  | unread => cases outcome
  | refused => cases outcome
  | unremoved => cases outcome
  | @turned _ _ history turn _ result reads chosen _ brings =>
    cases result with
    | error e => cases outcome
    | ok =>
      cases outcome
      have starts := brings.startsActive
      rw [History.activeServices_push positive] at starts
      exact ⟨history, turn, reads, chosen, rfl, starts⟩

namespace Change.Makes

variable {now : String} {limit : Option Nat} {change : Change}
  {captured : Except Error (List CreateRequest)} {phases : Phases} {result : Except Error Answer}

/-- The resolutions alone ask for images, and the starts alone start
containers. -/
theorem kinds (makes : change.Makes now limit captured phases result) :
    (∀ x ∈ phases.resolutions, x.isResolution = true ∧ x.isStart = false) ∧
      (∀ x ∈ phases.inspections ++ phases.removals,
        x.isResolution = false ∧ x.isStart = false) ∧
      ∀ x ∈ phases.starts, x.isResolution = false ∧ x.isStart = true := by
  refine ⟨?_, ?_, ?_⟩
  · intro x member
    obtain ⟨_, _, rfl⟩ := makes.resolves x member
    exact ⟨rfl, rfl⟩
  · intro x member
    rcases List.mem_append.mp member with inspection | removal
    · obtain ⟨_, _, rfl⟩ := makes.inspects x inspection
      exact ⟨rfl, rfl⟩
    · obtain ⟨_, _, rfl⟩ := makes.inOrder.removals x removal
      exact ⟨rfl, rfl⟩
  · intro x member
    obtain ⟨_, _, _, rfl⟩ := makes.inOrder.starts x member
    exact ⟨rfl, rfl⟩

theorem filter_all (makes : change.Makes now limit captured phases result) :
    phases.all.filter Exchange.isResolution = phases.resolutions ∧
      phases.all.filter Exchange.isStart = phases.starts := by
  obtain ⟨resolutions, others, starts⟩ := makes.kinds
  have all : phases.all =
      phases.resolutions ++ ((phases.inspections ++ phases.removals) ++ phases.starts) := by
    rw [Phases.all, List.append_assoc]
  rw [all]
  constructor
  · have asked := List.filter_eq_self.mpr fun x member => (resolutions x member).1
    have unasked := List.filter_eq_nil_iff.mpr fun x member =>
      Bool.eq_false_iff.mp (others x member).1
    have begun := List.filter_eq_nil_iff.mpr fun x member =>
      Bool.eq_false_iff.mp (starts x member).1
    rw [List.filter_append, List.filter_append, asked, unasked, begun, List.append_nil,
      List.append_nil]
  · have asked := List.filter_eq_nil_iff.mpr fun x member =>
      Bool.eq_false_iff.mp (resolutions x member).2
    have unasked := List.filter_eq_nil_iff.mpr fun x member =>
      Bool.eq_false_iff.mp (others x member).2
    have begun := List.filter_eq_self.mpr fun x member => (starts x member).2
    rw [List.filter_append, List.filter_append, asked, unasked, begun, List.nil_append,
      List.nil_append]

end Change.Makes

/-- A deployment that succeeds starts every captured request as it was
captured, but for the image that it settles and the label in which it remembers
what it has started. -/
theorem Call.deploy_replays {W : Type} {engine : Engine W} {limit : Option Nat}
    (positive : limit ≠ some 0) {call : Call (Watched W)} {options : Rollout}
    (deploys : call.change = .deploy options)
    (unsaid : (call.planner engine.watched).Keeps Watched.own) {s after : Watched W}
    {answer : Answer} (run : (call.perform limit engine.watched).on s = (.ok answer, after)) :
    ∃ requests between xs replicas text,
      (call.plan engine.watched).on s = (.ok requests, between) ∧
        after.own = s.own ++ xs ∧
        Replays call.now options.message requests replicas text xs ∧
        answer = .plain
          ("Successfully deployed " ++ toString requests.length ++ " container(s)") := by
  obtain ⟨captured, between, phases, planned, calls, makes⟩ := (call.setup limit).change_cases run
  have makes : call.change.Makes call.now limit captured phases (.ok answer) := makes
  have own := Call.own_eq unsaid planned calls makes
  obtain ⟨asked, begun⟩ := makes.filter_all
  cases makes with
  | @carriedOut requests resolutions intent inspections removals starts _ resolves carries =>
    rw [deploys] at resolves
    obtain ⟨services, pins, rfl⟩ := resolves.pinned
    obtain ⟨history, turn, _, chosen, rfl, starting⟩ := carries.complete positive
    cases chosen
    have told := (history.push ⟨services, call.now, options.message⟩ limit).ofLabelText_labelText
    have active := History.active?_push positive history ⟨services, call.now, options.message⟩
    have started : starts = services.map fun service => .start service.name (service.labeled
        (history.push ⟨services, call.now, options.message⟩ limit).labelText) (.ok ()) :=
      starting.complete
    generalize history.push ⟨services, call.now, options.message⟩ limit = next
      at told active started
    obtain ⟨replicas, rfl, rfl, resolved, faithful⟩ := pins.replicas next.labelText
    refine ⟨_, between, _, replicas, next.labelText, planned, own,
      ⟨rfl, fun replica member => (faithful replica member).1, asked.trans resolved.symm, ?_,
        next, told, active⟩, ?_⟩
    · rw [begun, started, List.map_map]
      apply List.map_congr_left
      intro replica member
      show Exchange.start _ _ _ = Exchange.start _ _ _
      rw [(faithful replica member).2]
      rfl
    · simp only [List.length_map]

namespace Shop

/-- A request with a history label of its own. -/
def labeledRequest (name : String) : CreateRequest :=
  ⟨name, ("\x7b\"Image\":\"nginx\",\"Labels\":" ++
    "\x7b\"zodiacManifest\":\"\",\"tier\":\"front\"\x7d\x7d").toUTF8⟩

/-- A deployment that captures one name twice. -/
def twice : Call (Watched World) where
  planner _ := .reporting
    [request "shop_web_1", labeledRequest "shop_web_1", request "shop_db_1"]
  now := "2024-02-03T04:05:06Z"
  change := deploy "twice"

end Shop

theorem Call.deploy_replays_shop :
    ∃ after replicas text,
      (Shop.twice.perform (some 2) Shop.engine.watched).on ⟨Shop.start, []⟩ =
          (.ok (.plain "Successfully deployed 3 container(s)"), after) ∧
        Replays "2024-02-03T04:05:06Z" "twice"
          [Shop.request "shop_web_1", Shop.labeledRequest "shop_web_1", Shop.request "shop_db_1"]
          replicas text after.own := by
  have succeeded : ((Shop.twice.perform (some 2) Shop.engine.watched).on ⟨Shop.start, []⟩).1 =
      .ok (.plain "Successfully deployed 3 container(s)") := by decide +kernel
  rcases run : (Shop.twice.perform (some 2) Shop.engine.watched).on ⟨Shop.start, []⟩
    with ⟨result, after⟩
  rw [run] at succeeded
  cases succeeded
  obtain ⟨requests, between, xs, replicas, text, planned, own, replays, _⟩ :=
    Call.deploy_replays (by decide) rfl (Planner.reporting_keeps _) run
  cases planned
  refine ⟨after, replicas, text, rfl, ?_⟩
  rw [own]
  exact replays

end ComposeDeploy
