import ComposeDeploy.Proofs.Deployment.Survival

/-!
Applications that come to an engine without a container of their own.

A `Tenure` is a run of successful calls of such an application, in which every
call captures names of its own that the history installed last admits. If each
call captures a name of the active deployment, the containers of the application
are those of the active deployment all along (`Tenure.isRunning`). What holds of
the names that the calls capture holds of all names that are remembered,
whether the calls meet the active deployment or not (`Tenure.remembersOnly`).
-/

namespace ComposeDeploy

variable {W : Type}

/-! ### The turn of a successful call -/

/-- The names that a turn starts are those captured, or those of a deployment
that is remembered. -/
theorem Change.Resolves.known {now : String} {change : Change} {requests : List CreateRequest}
    {xs : List Exchange} {intent : Intent} {history : History} {turn : Turn}
    (resolves : change.Resolves now requests xs (.ok intent))
    (chosen : intent.turn history = .ok turn) :
    turn.manifest.containerNames = requests.map CreateRequest.name ∨
      ∃ entry ∈ history.entries, turn.manifest.containerNames = entry.containerNames := by
  cases change with
  | deploy options => exact .inl (resolves.deployed chosen).1
  | rollback options =>
    obtain ⟨index, target, restored, made, _⟩ := resolves.restored chosen
    have remembered := History.mem_of_get? (History.restoration_cases restored).2
    exact .inr ⟨target, remembered, by rw [made]; rfl⟩

/-- A successful call takes the turn that it chooses after reading a history, and
installs that history with one deployment more. -/
theorem Call.succeeded_turn {engine : Engine W} {limit : Option Nat}
    {containers : W → Containers} (isMap : engine.IsMap containers) {call : Call W}
    (aside : (call.planner engine).Keeps containers) {w between after : W}
    {requests : List CreateRequest} {answer : Answer} {installed : History}
    (planned : (call.plan engine).on w = (.ok requests, between))
    (run : (call.perform limit engine).on w = (.ok answer, after))
    (installs : call.installed engine limit (containers w) w = .ok installed) :
    ∃ (phases : Phases) (intent : Intent) (history : History) (turn : Turn),
      engine.Calls between phases.all after ∧
        call.change.Resolves call.now requests phases.resolutions (.ok intent) ∧
        (containers w).carried (requests.map CreateRequest.name) = .ok history ∧
        intent.turn history = .ok turn ∧ installed = history.push turn.manifest limit ∧
        containers after = ((containers w).without turn.old).broughtUp installed := by
  obtain ⟨_, _, phases, intent, history, turn, planned', calls, _, resolves, read, chosen, made,
    leaves⟩ := Call.succeeded_leaves isMap aside run
  rw [planned] at planned'
  cases planned'
  have pushed : call.installed engine limit (containers w) w =
      .ok (history.push turn.manifest limit) := by
    unfold Call.installed
    rw [planned]
    simp only [read, made, bind, Except.bind]
    rfl
  rw [installs] at pushed
  cases pushed
  exact ⟨phases, intent, history, turn, calls, resolves, read, chosen, rfl, leaves.succeeded.2.2⟩

/-! ### Tenures -/

/-- The runs of successful calls from a world in which the application has no
container, each with the history that the last call has installed. What a call
may capture depends on the history that is installed before it. -/
inductive Tenure (engine : Engine W) (limit : Option Nat) (containers : W → Containers)
    (own : String → Prop) (admits : History → List String → Prop) : History → W → Prop where
  | start {w : W} :
    (∀ name, own name → containers w name = none) →
      Tenure engine limit containers own admits .empty w
  | call {previous installed : History} {w between after : W} {requests : List CreateRequest}
      {answer : Answer} (call : Call W) :
    Tenure engine limit containers own admits previous w →
      (call.planner engine).Keeps containers →
      (call.plan engine).on w = (.ok requests, between) →
      (∀ name ∈ requests.map CreateRequest.name, own name) →
      admits previous (requests.map CreateRequest.name) →
      (call.perform limit engine).on w = (.ok answer, after) →
      call.installed engine limit (containers w) w = .ok installed →
      Tenure engine limit containers own admits installed after

/-- What is admitted need not be as strict. -/
theorem Tenure.imp {engine : Engine W} {limit : Option Nat} {containers : W → Containers}
    {own : String → Prop} {strict admits : History → List String → Prop}
    (weaker : ∀ history names, strict history names → admits history names) {previous : History}
    {w : W} (tenure : Tenure engine limit containers own strict previous w) :
    Tenure engine limit containers own admits previous w := by
  induction tenure with
  | start bare => exact .start bare
  | call call _ aside planned isOwn admitted run installs ih =>
    exact .call call ih aside planned isOwn (weaker _ _ admitted) run installs

/-! ### Calls that meet the active deployment -/

/-- If a deployment is active, one of its names is among these. -/
def History.Meets (history : History) (names : List String) : Prop :=
  ∀ active, history.active? = some active → ∃ name ∈ names, name ∈ active.containerNames

theorem History.Meets.empty (names : List String) : History.empty.Meets names :=
  fun _ inactive => nomatch inactive

theorem History.Meets.of_mem {history : History} {names : List String} {name : String}
    (captured : name ∈ names) (active : name ∈ history.activeNames) : history.Meets names := by
  obtain ⟨manifest, isActive, listed⟩ := History.mem_activeNames.mp active
  intro other isActive'
  rw [isActive] at isActive'
  cases isActive'
  exact ⟨name, captured, listed⟩

namespace History.IsRunning

variable {history : History} {own : String → Prop} {c : Containers}

theorem start (bare : ∀ name, own name → c name = none) : History.empty.IsRunning own c where
  carry := c.carry_empty
  absent name isOwn _ := bare name isOwn

/-- A call that meets the active deployment reads its history. -/
theorem carried_of_meets (running : history.IsRunning own c) {names : List String}
    (isOwn : ∀ name ∈ names, own name) (meets : history.Meets names) :
    c.carried names = .ok history := by
  cases isActive : history.active? with
  | none =>
    obtain rfl := History.active?_eq_none.mp isActive
    apply Containers.carried_eq_empty
    intro name member
    exact running.absent name (isOwn name member) List.not_mem_nil
  | some active =>
    obtain ⟨name, member, listed⟩ := meets active isActive
    exact running.carried isOwn
      ⟨name, member, History.mem_activeNames.mpr ⟨active, isActive, listed⟩⟩

end History.IsRunning

/-! ### What is remembered -/

/-- The names of each deployment that is remembered satisfy a condition. -/
def History.RemembersOnly (history : History) (P : List String → Prop) : Prop :=
  ∀ manifest ∈ history.entries, P manifest.containerNames

namespace History.RemembersOnly

variable {history : History} {P : List String → Prop} (only : history.RemembersOnly P)
include only

theorem push {manifest : Manifest} (named : P manifest.containerNames) (limit : Option Nat) :
    (history.push manifest limit).RemembersOnly P := by
  intro other member
  rw [entries_push] at member
  rcases List.mem_append.mp (mem_newestOf member) with earlier | new
  · exact only other earlier
  · rw [List.mem_singleton.mp new]
    exact named

/-- The names that a turn starts satisfy the condition if those captured do. -/
theorem started {names : List String} (captured : P names) {manifest : Manifest}
    (known : manifest.containerNames = names ∨
      ∃ entry ∈ history.entries, manifest.containerNames = entry.containerNames) :
    P manifest.containerNames := by
  rcases known with same | ⟨entry, remembered, same⟩
  · rwa [same]
  · rw [same]
    exact only entry remembered

end History.RemembersOnly

/-- Every container of an application carries a history, and the names of each
deployment in it satisfy a condition. -/
def Containers.RememberOnly (c : Containers) (own : String → Prop) (P : List String → Prop) :
    Prop :=
  ∀ name configuration, own name → c name = some configuration →
    ∃ history, configuration.Carries history ∧ history.RemembersOnly P

namespace Containers.RememberOnly

variable {c : Containers} {own : String → Prop} {P : List String → Prop}
  (only : c.RememberOnly own P)
include only

theorem carried {names : List String} (isOwn : ∀ name ∈ names, own name) {history : History}
    (read : c.carried names = .ok history) : history.RemembersOnly P := by
  unfold Containers.carried at read
  split at read
  · cases read
    exact List.forall_mem_nil _
  · next name configuration first =>
    obtain ⟨member, there⟩ := Containers.first?_eq_some first
    obtain ⟨told, carries, remembered⟩ := only name configuration (isOwn name member) there
    rw [carries.read] at read
    cases read
    exact remembered

theorem replaced (old : List String) {next : History} (remembered : next.RemembersOnly P) :
    ((c.without old).broughtUp next).RememberOnly own P := by
  intro name configuration isOwn there
  by_cases active : name ∈ next.activeNames
  · obtain ⟨carrier, there', carries⟩ := Containers.carry_broughtUp (c.without old) next name active
    rw [there] at there'
    cases there'
    exact ⟨next, carries, remembered⟩
  · rw [Containers.broughtUp_of_notMem active] at there
    unfold Containers.without at there
    split at there
    · cases there
    · exact only name configuration isOwn there

end Containers.RememberOnly

/-! ### What holds all along -/

section Tenures

variable {engine : Engine W} {limit : Option Nat} {containers : W → Containers}
  (isMap : engine.IsMap containers) {own : String → Prop} {previous : History} {w : W}
include isMap

/-- As long as all calls meet the active deployment, it is running. -/
theorem Tenure.isRunning
    (tenure : Tenure engine limit containers own History.Meets previous w) :
    previous.IsRunning own (containers w) := by
  induction tenure with
  | start bare => exact .start bare
  | call call _ aside planned isOwn meets run installs ih =>
    obtain ⟨_, _, history, turn, _, resolves, read, chosen, _, left⟩ :=
      Call.succeeded_turn isMap aside planned run installs
    rw [ih.carried_of_meets isOwn meets] at read
    cases read
    rw [left]
    exact ih.replaced (resolves.covers chosen).1 _

/-- What holds of the names that the calls capture holds of all names that are
remembered, in the history installed last and in those that the containers
carry. -/
theorem Tenure.remembersOnly {admits : History → List String → Prop} {P : List String → Prop}
    (captured : ∀ history names, admits history names → (∀ name ∈ names, own name) → P names)
    (tenure : Tenure engine limit containers own admits previous w) :
    previous.RemembersOnly P ∧ (containers w).RememberOnly own P := by
  induction tenure with
  | start bare =>
    refine ⟨List.forall_mem_nil _, ?_⟩
    intro name configuration isOwn there
    rw [bare name isOwn] at there
    cases there
  | call call _ aside planned isOwn admitted run installs ih =>
    obtain ⟨_, _, history, turn, _, resolves, read, chosen, rfl, left⟩ :=
      Call.succeeded_turn isMap aside planned run installs
    have remembered := ih.2.carried isOwn read
    have named := remembered.started (captured _ _ admitted isOwn) (resolves.known chosen)
    have installed := remembered.push named limit
    rw [left]
    exact ⟨installed, ih.2.replaced turn.old installed⟩

/-- Every further call that succeeds goes on with the tenure. -/
theorem Tenure.extend {admits : History → List String → Prop}
    (tenure : Tenure engine limit containers own admits previous w) (call : Call W)
    (aside : (call.planner engine).Keeps containers) {between after : W}
    {requests : List CreateRequest} (planned : (call.plan engine).on w = (.ok requests, between))
    (isOwn : ∀ name ∈ requests.map CreateRequest.name, own name)
    (admitted : admits previous (requests.map CreateRequest.name)) {answer : Answer}
    (run : (call.perform limit engine).on w = (.ok answer, after)) :
    ∃ installed, call.installed engine limit (containers w) w = .ok installed ∧
      Tenure engine limit containers own admits installed after := by
  obtain ⟨_, _, _, installs, _⟩ := Call.installs isMap aside run
  exact ⟨_, installs, .call call tenure aside planned isOwn admitted run installs⟩

end Tenures

/-! ### Deployments that find their images -/

/-- Requests can be pinned if their images are found. -/
theorem Pins.isOk_of_found {engine : Engine W} {images : W → String → Option String}
    (finds : engine.FindsBy images) (findsAll : engine.FindsAll images)
    {requests : List CreateRequest} {xs : List Exchange} {result : Except Error (List Service)}
    (pins : Pins requests xs result) {w after : W} (calls : engine.Calls w xs after)
    (found : ∀ request ∈ requests, ∃ configuration reference,
      request.wanted = .ok (configuration, reference) ∧ images w reference ≠ none) :
    result.isOk := by
  induction pins generalizing w with
  | nil => rfl
  | refused refused =>
    obtain ⟨_, _, wanted, _⟩ := found _ List.mem_cons_self
    rw [refused] at wanted
    cases wanted
  | unresolved wanted =>
    obtain ⟨_, _, wanted', known⟩ := found _ List.mem_cons_self
    rw [wanted] at wanted'
    cases wanted'
    cases calls with
    | cons made _ => exact absurd (findsAll made) known
  | more _ _ ih =>
    cases calls with
    | cons made rest =>
      rw [Except.isOk_map]
      apply ih rest
      intro request member
      rw [finds.kept made]
      exact found request (List.mem_cons_of_mem _ member)

/-! ### Tenures of a shop -/

namespace Shop

/-- The request for a service of the shop. -/
def request (name : String) : CreateRequest :=
  ⟨name, "\x7b\"Image\":\"nginx\"\x7d".toUTF8⟩

theorem map_name_request (names : List String) :
    (names.map request).map CreateRequest.name = names := by
  rw [List.map_map]
  exact List.map_id' names

/-- The shop has come to a world in which a history is installed, and the image of
its services is still known. -/
structure Holds (admits : History → List String → Prop) (previous : History) (s : Watched World) :
    Prop where
  tenure : Tenure engine.watched (some 2) (fun s => containers s.world)
    (fun name => containers start name = none) admits previous s
  stocked : images s.world "nginx" ≠ none

variable {admits : History → List String → Prop}

theorem opened_holds : Holds admits .empty ⟨start, []⟩ where
  tenure := .start fun _ own => own
  stocked := by decide +kernel

theorem deployOf_requests (names : List String) (s : Watched World) :
    ((deployOf names).plan engine.watched).on s = (.ok (names.map request), s) := rfl

theorem finds : engine.FindsBy images :=
  ModelEngine.findsBy ModelEngine.Place.faultless_keepsImages "shop"

theorem findsAll : engine.FindsAll images :=
  ModelEngine.findsAll "shop" .faultless

/-- As long as their image is known, services can be deployed. -/
theorem Holds.deployOf_made {previous : History} {s : Watched World}
    (holds : Holds admits previous s) {names : List String}
    (wanted : ∀ name ∈ names, (request name).wanted.map Prod.snd = .ok "nginx")
    (history : History) : ((deployOf names).made engine.watched history s).isOk := by
  have found : ∀ wish ∈ names.map request, ∃ configuration reference,
      wish.wanted = .ok (configuration, reference) ∧ images s.world reference ≠ none := by
    intro wish member
    obtain ⟨name, listed, rfl⟩ := List.mem_map.mp member
    have named := wanted name listed
    cases wish : (request name).wanted with
    | error e =>
      rw [wish] at named
      cases named
    | ok asked =>
      obtain ⟨configuration, reference⟩ := asked
      rw [wish] at named
      cases named
      exact ⟨configuration, "nginx", rfl, holds.stocked⟩
  rcases run : (engine.watched.pinAll (names.map request)).on s with ⟨result, after⟩
  obtain ⟨xs, calls, pins⟩ := Engine.pinAll_cases run
  have isOk := pins.isOk_of_found finds.watched findsAll.watched calls found
  have made : (deployOf names).made engine.watched history s =
      result.map fun services => ⟨services, (deployOf names).now, ""⟩ := by
    unfold Call.made
    rw [deployOf_requests]
    show Except.map _ ((engine.watched.pinAll (names.map request)).on s).1 = _
    rw [run]
  rwa [made, Except.isOk_map]

/-- A deployment of services whose image is known goes on with what the shop has
read. Of other containers it removes those of the active deployment. -/
theorem Holds.deploy {previous : History} {s : Watched World} (holds : Holds admits previous s)
    {names : List String}
    (wanted : ∀ name ∈ names, (request name).wanted.map Prod.snd = .ok "nginx")
    (isOwn : ∀ name ∈ names, containers start name = none) (admitted : admits previous names)
    {history : History} (read : (containers s.world).carried names = .ok history) :
    ∃ manifest, manifest.containerNames = names ∧
      Holds admits (history.push manifest (some 2)) (deployed names s) ∧
      (containers (deployed names s).world).Carry (history.push manifest (some 2)) ∧
      ∀ name ∉ names, containers (deployed names s).world name =
        (containers s.world).without history.activeNames name := by
  have aside := (deployOf_staysAside names).map Prod.fst
  have planned := deployOf_requests names s
  obtain ⟨answer, run⟩ := deployOf_succeeds read (holds.deployOf_made wanted history)
  obtain ⟨installed, installs, tenure⟩ := holds.tenure.extend isMap.watched (deployOf names) aside
    planned (by rwa [map_name_request]) (by rwa [map_name_request]) run
  obtain ⟨phases, intent, history', turn, calls, resolves, read', chosen, rfl, left⟩ :=
    Call.succeeded_turn isMap.watched aside planned run installs
  rw [map_name_request, read] at read'
  cases read'
  obtain ⟨named, old⟩ := Change.Resolves.deployed resolves chosen
  rw [map_name_request] at named old
  refine ⟨turn.manifest, named, ⟨tenure, ?_⟩, ?_, ?_⟩
  · rw [finds.watched.calls calls]
    exact holds.stocked
  · rw [left]
    exact Containers.carry_broughtUp _ _
  · intro name absent
    have inactive : name ∉ (history.push turn.manifest (some 2)).activeNames := by
      intro active
      have new := History.mem_of_mem_activeNames_push active
      rw [named] at new
      exact absent new
    rw [left, Containers.broughtUp_of_notMem inactive, old]
    unfold Containers.without
    simp only [Setup.mem_stale, absent, false_or]

end Shop

end ComposeDeploy
