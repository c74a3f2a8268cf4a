import ComposeDeploy.Proofs.Deployment.Aftermath

/-!
How a deployment takes over from the one before it.

A deployment knows of its predecessor only what the first existing container of
its own names carries. Whatever history that is, the deployment removes what
only the old deployment ran and hands the history on with one entry more
(`Call.deploy_extends`). It is the predecessor's history if that container is
one of the predecessor's (`Succession.deploy_takesOver`), and it is the history
that several containers share if that container carries a label at all
(`Call.deploy_copiesForward`). Otherwise the old deployment stays where it is or
its history is lost, as a shop shows that renames its service and one that has
a container of another origin.
-/

namespace ComposeDeploy

variable {W : Type}

/-! ### Taking over -/

/-- A call takes over from the active deployment of a history: what it says to
the engine is `xs`, and what it makes is the deployment `manifest` of `names`. -/
structure Call.TakesOver (call : Call (Watched W)) (engine : Engine W) (limit : Option Nat)
    (containers : W → Containers) (history : History) (names : List String)
    (s after : Watched W) (manifest : Manifest) (xs : List Exchange) : Prop where
  own : after.own = s.own ++ xs
  made : call.made engine.watched history s = .ok manifest
  named : manifest.containerNames = names
  /-- What only the old deployment ran is gone. -/
  removed : ∀ name ∈ history.activeNames, name ∉ names → containers after.world name = none
  /-- All services are started, unless nothing may be remembered. -/
  begun : limit ≠ some 0 → (xs.filterMap Exchange.started?).map Prod.fst = names
  /-- Each started container carries the old history and one entry more. -/
  carried : ∀ name ∈ (xs.filterMap Exchange.started?).map Prod.fst, ∃ configuration,
    containers after.world name = some configuration ∧
      configuration.Carries (history.push manifest limit)

section Deploy

variable {engine : Engine W} {limit : Option Nat} {containers : W → Containers}
  (isMap : engine.IsMap containers) {call : Call (Watched W)}
  (aside : (call.planner engine.watched).Keeps fun s => (containers s.world, s.own))
  {options : Rollout} (deploys : call.change = .deploy options)
  {s between after : Watched W} {requests : List CreateRequest} {answer : Answer}
  (planned : (call.plan engine.watched).on s = (.ok requests, between))
  (succeeded : (call.perform limit engine.watched).on s = (.ok answer, after))
include isMap aside deploys planned succeeded

/-- A successful deployment takes over from the active deployment of the
history that it reads. -/
theorem Call.deploy_extends {history : History}
    (read : (containers s.world).carried (requests.map CreateRequest.name) = .ok history) :
    ∃ manifest xs, call.TakesOver engine limit containers history
      (requests.map CreateRequest.name) s after manifest xs := by
  obtain ⟨_, _, phases, intent, _, turn, planned', calls, makes, resolves, read', chosen, made,
    leaves⟩ := Call.succeeded_leaves isMap.watched (aside.map Prod.fst) succeeded
  obtain ⟨_, begun, left⟩ := leaves.succeeded
  rw [planned] at planned'
  cases planned'
  rw [read] at read'
  cases read'
  have deployed := resolves
  rw [deploys] at deployed
  obtain ⟨names, old⟩ := deployed.deployed chosen
  have started : (phases.all.filterMap Exchange.started?).map Prod.fst =
      (history.push turn.manifest limit).activeNames := by
    rw [makes.started?, begun, List.map_map]
    exact History.map_name_activeServices _
  refine ⟨turn.manifest, phases.all, Call.own_eq (aside.map Prod.snd) planned calls makes, made,
    names, ?_, ?_, ?_⟩
  · intro name active absent
    have stale : name ∈ turn.old := by
      rw [old]
      exact Setup.mem_stale.mpr (.inr active)
    have notNew : name ∉ (history.push turn.manifest limit).activeNames := by
      intro member
      have new := History.mem_of_mem_activeNames_push member
      rw [names] at new
      exact absent new
    rw [left, Containers.broughtUp_of_notMem notNew, Containers.without, if_pos stale]
  · intro positive
    rw [started, History.activeNames_push positive, names]
  · rw [started, left]
    exact Containers.carry_broughtUp _ _

end Deploy

/-! ### Runs of successful calls -/

/-- The history that a call installs where the containers are `c`: the one that
it reads, with the deployment that it makes. -/
def Call.installed (call : Call W) (engine : Engine W) (limit : Option Nat) (c : Containers)
    (w : W) : Except Error History :=
  match (call.plan engine).on w with
  | (.error e, _) => .error e
  | (.ok requests, _) => do
    let history ← c.carried (requests.map CreateRequest.name)
    let manifest ← call.made engine history w
    return history.push manifest limit

/-- The runs of successful calls from a world in which the application has no
container, each with the history that the last call has installed. Every call
may capture other names. -/
inductive Succession (engine : Engine W) (limit : Option Nat) (containers : W → Containers)
    (own : String → Prop) : History → W → Prop where
  | start {w : W} :
    (∀ name, own name → containers w name = none) → Succession engine limit containers own .empty w
  | call {previous installed : History} {w after : W} {answer : Answer} (call : Call W) :
    Succession engine limit containers own previous w →
      (call.planner engine).Keeps containers →
      (call.perform limit engine).on w = (.ok answer, after) →
      call.installed engine limit (containers w) w = .ok installed →
      Succession engine limit containers own installed after

section Installs

variable {engine : Engine W} {limit : Option Nat} {containers : W → Containers}
  (isMap : engine.IsMap containers)
include isMap

/-- A call that succeeds brings up the history that it installs. -/
theorem Call.installs {call : Call W} (aside : (call.planner engine).Keeps containers)
    {w after : W} {answer : Answer}
    (run : (call.perform limit engine).on w = (.ok answer, after)) :
    ∃ (history : History) (manifest : Manifest) (old : List String),
      call.installed engine limit (containers w) w = .ok (history.push manifest limit) ∧
        containers after =
          ((containers w).without old).broughtUp (history.push manifest limit) := by
  obtain ⟨requests, between, _, _, history, turn, planned, _, _, _, read, _, made, leaves⟩ :=
    Call.succeeded_leaves isMap aside run
  refine ⟨history, turn.manifest, turn.old, ?_, leaves.succeeded.2.2⟩
  unfold Call.installed
  rw [planned]
  simp only [read, made, bind, Except.bind]
  rfl

namespace Succession

variable {own : String → Prop} {previous : History} {w : W}

/-- The containers of the active deployment carry the installed history. -/
theorem carry (succession : Succession engine limit containers own previous w) :
    (containers w).Carry previous := by
  cases succession with
  | start => exact Containers.carry_empty _
  | call call _ aside run installs =>
    obtain ⟨history, manifest, old, installed, left⟩ := Call.installs isMap aside run
    rw [installs] at installed
    cases installed
    rw [left]
    exact Containers.carry_broughtUp _ _

/-- If nothing may be remembered, nothing is. -/
theorem eq_empty (succession : Succession engine limit containers own previous w)
    (zero : limit = some 0) : previous = .empty := by
  cases succession with
  | start => rfl
  | call call _ aside run installs =>
    obtain ⟨history, manifest, _, installed, _⟩ := Call.installs isMap aside run
    rw [installs, zero, History.push_zero] at installed
    cases installed
    rfl

/-- As long as nothing is active, the application has no container. -/
theorem bare (succession : Succession engine limit containers own previous w)
    (inactive : previous.active? = none) : ∀ name, own name → containers w name = none := by
  induction succession with
  | start bare => exact bare
  | call call earlier aside run installs ih =>
    obtain ⟨history, manifest, old, installed, left⟩ := Call.installs isMap aside run
    rw [installs] at installed
    cases installed
    -- Something is active as soon as it may be remembered.
    have zero : limit = some 0 := by
      by_contra positive
      rw [History.active?_push positive] at inactive
      cases inactive
    intro name isOwn
    have absent := ih (by rw [earlier.eq_empty isMap zero]; rfl) name isOwn
    rw [left, zero, History.push_zero, Containers.broughtUp_of_notMem List.not_mem_nil,
      Containers.without, absent]
    split <;> rfl

/-- Every further call that succeeds goes on with the run. -/
theorem extend (succession : Succession engine limit containers own previous w)
    (call : Call W) (aside : (call.planner engine).Keeps containers) {after : W} {answer : Answer}
    (run : (call.perform limit engine).on w = (.ok answer, after)) :
    ∃ installed, call.installed engine limit (containers w) w = .ok installed ∧
      Succession engine limit containers own installed after := by
  obtain ⟨_, _, _, installed, _⟩ := Call.installs isMap aside run
  exact ⟨_, installed, .call call succession aside run installed⟩

/-- What a call reads is what has been installed, provided the first of its
names that has a container is active. -/
theorem reads (succession : Succession engine limit containers own previous w)
    {names : List String} (isOwn : ∀ name ∈ names, own name)
    (meets : ∀ active, previous.active? = some active → ∃ name configuration,
      (containers w).first? names = some (name, configuration) ∧ name ∈ active.containerNames) :
    (containers w).carried names = .ok previous := by
  unfold Containers.carried
  cases isActive : previous.active? with
  | none =>
    have first : (containers w).first? names = none := by
      apply Containers.first?_eq_none.mpr
      intro name member
      exact succession.bare isMap isActive name (isOwn name member)
    rw [first, History.active?_eq_none.mp isActive]
  | some active =>
    obtain ⟨name, configuration, first, listed⟩ := meets active isActive
    obtain ⟨carrier, there, carries⟩ := succession.carry isMap name
      (History.mem_activeNames.mpr ⟨active, isActive, listed⟩)
    rw [(Containers.first?_eq_some first).2] at there
    cases there
    rw [first]
    exact carries.read

end Succession

end Installs

/-- After every run of successful calls, a deployment that succeeds takes over
from the active one, provided the first of its names that has a container is a
name of the active one. -/
theorem Succession.deploy_takesOver {engine : Engine W} {limit : Option Nat}
    {containers : W → Containers} {own : String → Prop} {previous : History} {s : Watched W}
    (isMap : engine.IsMap containers)
    (succession : Succession engine.watched limit (fun s => containers s.world) own previous s)
    {call : Call (Watched W)}
    (aside : (call.planner engine.watched).Keeps fun s => (containers s.world, s.own))
    {options : Rollout} (deploys : call.change = .deploy options) {between after : Watched W}
    {requests : List CreateRequest} {answer : Answer}
    (planned : (call.plan engine.watched).on s = (.ok requests, between))
    (isOwn : ∀ name ∈ requests.map CreateRequest.name, own name)
    (meets : ∀ active, previous.active? = some active → ∃ name configuration,
      (containers s.world).first? (requests.map CreateRequest.name) = some (name, configuration) ∧
        name ∈ active.containerNames)
    (succeeded : (call.perform limit engine.watched).on s = (.ok answer, after)) :
    ∃ manifest xs, call.TakesOver engine limit containers previous
      (requests.map CreateRequest.name) s after manifest xs := by
  have read := succession.reads isMap.watched isOwn meets
  exact Call.deploy_extends isMap aside deploys planned succeeded read

/-! ### Fleets of a shop -/

namespace Shop

/-- Deploys services of these names. -/
def deployOf (names : List String) : Call (Watched World) where
  planner _ := .reporting (names.map fun name => ⟨name, "\x7b\"Image\":\"nginx\"\x7d".toUTF8⟩)
  now := "2024-02-03T04:05:06Z"
  change := deploy ""

/-- The shop after a deployment of these names. -/
def deployed (names : List String) (s : Watched World) : Watched World :=
  (((deployOf names).perform (some 2) engine.watched).on s).2

/-- The installed history and the shop after deployments of these names. -/
def successive (fleets : List (List String)) : History × Watched World :=
  fleets.foldl
    (fun (previous, s) names =>
      (((deployOf names).installed engine.watched (some 2) (containers s.world) s).toOption.getD
        previous, deployed names s))
    (.empty, ⟨start, []⟩)

/-- The shop comes to these fleets one after the other. -/
abbrev Succeeds (fleets : List (List String)) : Prop :=
  Succession engine.watched (some 2) (fun s => containers s.world)
    (fun name => containers start name = none) (successive fleets).1 (successive fleets).2

theorem deployOf_staysAside (names : List String) :
    ((deployOf names).planner engine.watched).Keeps fun s => (containers s.world, s.own) :=
  Planner.reporting_keeps _

theorem deployOf_plan (names : List String) (s : Watched World) :
    ((deployOf names).plan engine.watched).on s =
      (.ok (names.map fun name => ⟨name, "\x7b\"Image\":\"nginx\"\x7d".toUTF8⟩), s) := rfl

/-- A deployment succeeds if it reads some history and finds its images. -/
theorem deployOf_succeeds {names : List String} {s : Watched World} {history : History}
    (read : (containers s.world).carried names = .ok history)
    (isMade : ((deployOf names).made engine.watched history s).isOk) :
    ∃ answer, ((deployOf names).perform (some 2) engine.watched).on s =
      (.ok answer, deployed names s) := by
  cases made : (deployOf names).made engine.watched history s with
  | error e =>
    rw [made] at isMade
    cases isMade
  | ok manifest =>
    have read : (containers s.world).carried
        ((names.map fun name => ⟨name, "\x7b\"Image\":\"nginx\"\x7d".toUTF8⟩).map
          CreateRequest.name) = .ok history := by
      rw [List.map_map]
      exact (congrArg _ (List.map_id' names)).trans read
    obtain ⟨answer, answered⟩ := Call.succeeds isMap.watched isFaultless.watched
      ((deployOf_staysAside names).map Prod.fst) (deployOf_plan names s) read made
    exact ⟨answer, Prod.ext answered rfl⟩

theorem succeeds_nil : Succeeds [] :=
  .start fun _ own => own

theorem Succeeds.snoc {fleets : List (List String)} (succeeds : Succeeds fleets)
    {names : List String} {history : History}
    (read : (containers (successive fleets).2.world).carried names = .ok history)
    (isMade : ((deployOf names).made engine.watched history (successive fleets).2).isOk) :
    Succeeds (fleets ++ [names]) := by
  obtain ⟨answer, run⟩ := deployOf_succeeds read isMade
  obtain ⟨installed, installs, extended⟩ :=
    succeeds.extend isMap.watched (deployOf names) ((deployOf_staysAside names).map Prod.fst) run
  unfold Succeeds successive
  rw [List.foldl_append]
  show Succession _ _ _ _ (((deployOf names).installed engine.watched (some 2)
    (containers (successive fleets).2.world) (successive fleets).2).toOption.getD _) _
  rw [installs]
  exact extended

/-- Its first fleet. -/
theorem succeeds_first {names : List String}
    (bare : ∀ name ∈ names, containers start name = none)
    (isMade : ((deployOf names).made engine.watched .empty ⟨start, []⟩).isOk) :
    Succeeds [names] := by
  have read : (containers start).carried names = .ok .empty :=
    Succession.reads isMap.watched succeeds_nil bare fun _ inactive => nomatch inactive
  exact succeeds_nil.snoc read isMade

/-- The shop with two services. -/
def paired : History × Watched World :=
  successive [["shop_web_1", "shop_db_1"]]

theorem paired_succeeds : Succeeds [["shop_web_1", "shop_db_1"]] :=
  succeeds_first (by decide +kernel) (by decide +kernel)

end Shop

theorem Succession.deploy_takesOver_shop :
    ∃ manifest xs, (Shop.deployOf ["shop_web_1", "shop_api_1"]).TakesOver Shop.engine (some 2)
      Shop.containers Shop.paired.1 ["shop_web_1", "shop_api_1"] Shop.paired.2
      (Shop.deployed ["shop_web_1", "shop_api_1"] Shop.paired.2) manifest xs := by
  have own : ∀ name ∈ ["shop_web_1", "shop_api_1"], Shop.containers Shop.start name = none := by
    decide +kernel
  have meets : ∀ active, Shop.paired.1.active? = some active → ∃ name configuration,
      (Shop.containers Shop.paired.2.world).first? ["shop_web_1", "shop_api_1"] =
          some (name, configuration) ∧ name ∈ active.containerNames := by
    intro active isActive
    have found : ((Shop.containers Shop.paired.2.world).first? ["shop_web_1", "shop_api_1"]).map
        Prod.fst = some "shop_web_1" := by decide +kernel
    obtain ⟨⟨name, configuration⟩, first, rfl⟩ := Option.map_eq_some_iff.mp found
    have listed : Shop.paired.1.active?.all fun active =>
        active.containerNames.contains "shop_web_1" := by decide +kernel
    rw [isActive] at listed
    exact ⟨"shop_web_1", configuration, first, by simpa using listed⟩
  have read := Shop.paired_succeeds.reads Shop.isMap.watched own meets
  obtain ⟨answer, succeeded⟩ := Shop.deployOf_succeeds read (by decide +kernel)
  exact Succession.deploy_takesOver Shop.isMap Shop.paired_succeeds (Shop.deployOf_staysAside _) rfl
    (Shop.deployOf_plan _ _) own meets succeeded

/-- A shop that renames its only service succeeds and leaves the old container
where it is. -/
theorem Shop.deploy_abandons_renamed :
    Shop.Succeeds [["shop_web_1"]] ∧
      (∃ answer, ((Shop.deployOf ["shop_api_1"]).perform (some 2) Shop.engine.watched).on
          (Shop.successive [["shop_web_1"]]).2 =
        (.ok answer, Shop.deployed ["shop_api_1"] (Shop.successive [["shop_web_1"]]).2)) ∧
      ¬ ∃ manifest xs, (Shop.deployOf ["shop_api_1"]).TakesOver Shop.engine (some 2)
        Shop.containers (Shop.successive [["shop_web_1"]]).1 ["shop_api_1"]
        (Shop.successive [["shop_web_1"]]).2
        (Shop.deployed ["shop_api_1"] (Shop.successive [["shop_web_1"]]).2) manifest xs := by
  refine ⟨Shop.succeeds_first (by decide +kernel) (by decide +kernel), ?_, ?_⟩
  · have noContainer : ∀ name ∈ ["shop_api_1"],
        Shop.containers (Shop.successive [["shop_web_1"]]).2.world name = none := by
      decide +kernel
    have read : (Shop.containers (Shop.successive [["shop_web_1"]]).2.world).carried
        ["shop_api_1"] = .ok .empty := by
      unfold Containers.carried
      rw [Containers.first?_eq_none.mpr noContainer]
    exact Shop.deployOf_succeeds read (by decide +kernel)
  · rintro ⟨manifest, xs, takesOver⟩
    have gone := takesOver.removed "shop_web_1" (by decide +kernel) (by decide)
    have there : Shop.containers (Shop.deployed ["shop_api_1"]
        (Shop.successive [["shop_web_1"]]).2).world "shop_web_1" ≠ none := by decide +kernel
    exact there gone

/-! ### Copying a history forward -/

/-- If all labelled containers among those of its names carry one history and
the first that exists is labelled, a successful deployment copies that history
forward. -/
theorem Call.deploy_copiesForward {engine : Engine W} {limit : Option Nat}
    {containers : W → Containers} (isMap : engine.IsMap containers) {call : Call (Watched W)}
    (aside : (call.planner engine.watched).Keeps fun s => (containers s.world, s.own))
    {options : Rollout} (deploys : call.change = .deploy options) {s between after : Watched W}
    {requests : List CreateRequest} {answer : Answer}
    (planned : (call.plan engine.watched).on s = (.ok requests, between)) {history : History}
    (agree : ∀ name ∈ requests.map CreateRequest.name, ∀ configuration,
      containers s.world name = some configuration →
        configuration.label? historyLabel ≠ none → configuration.Carries history)
    {name : String} {configuration : Configuration}
    (first : (containers s.world).first? (requests.map CreateRequest.name) =
      some (name, configuration))
    (labelled : configuration.label? historyLabel ≠ none)
    (succeeded : (call.perform limit engine.watched).on s = (.ok answer, after)) :
    ∃ manifest xs, call.TakesOver engine limit containers history
      (requests.map CreateRequest.name) s after manifest xs := by
  obtain ⟨captured, there⟩ := Containers.first?_eq_some first
  have read : (containers s.world).carried (requests.map CreateRequest.name) = .ok history := by
    unfold Containers.carried
    rw [first]
    exact (agree name captured configuration there labelled).read
  exact Call.deploy_extends isMap aside deploys planned succeeded read

namespace Shop

/-- The shop with two services, after the container of one has been replaced by
one of another origin. -/
def patched : Watched World :=
  ⟨(paired.2.world.1.insert "shop_web_1" none, paired.2.world.2), paired.2.log⟩

theorem containers_patched :
    containers patched.world =
      Function.update (containers paired.2.world) "shop_web_1" (some .empty) := by
  funext name
  by_cases same : name = "shop_web_1"
  · simp [containers, patched, ModelEngine.Place.containers, ModelEngine.Place.faultless,
      ModelEngine.view, Dictionary.get?_insert, same]
  · simp [containers, patched, ModelEngine.Place.containers, ModelEngine.Place.faultless,
      ModelEngine.view, Dictionary.get?_insert, same]

/-- The container that has been left alone carries the history. -/
theorem patched_carries : ∃ configuration,
    containers patched.world "shop_db_1" = some configuration ∧
      configuration.Carries paired.1 := by
  rw [containers_patched, Function.update_of_ne (by decide)]
  exact paired_succeeds.carry isMap.watched "shop_db_1" (by decide +kernel)

theorem patched_agrees {name : String} (member : name = "shop_web_1" ∨ name = "shop_db_1")
    {configuration : Configuration} (there : containers patched.world name = some configuration)
    (labelled : configuration.label? historyLabel ≠ none) : configuration.Carries paired.1 := by
  rcases member with rfl | rfl
  · rw [containers_patched, Function.update_self] at there
    cases there
    exact absurd rfl labelled
  · obtain ⟨carrier, there', carries⟩ := patched_carries
    rw [there] at there'
    cases there'
    exact carries

end Shop

theorem Call.deploy_copiesForward_shop :
    ∃ manifest xs, (Shop.deployOf ["shop_db_1", "shop_web_1"]).TakesOver Shop.engine (some 2)
      Shop.containers Shop.paired.1 ["shop_db_1", "shop_web_1"] Shop.patched
      (Shop.deployed ["shop_db_1", "shop_web_1"] Shop.patched) manifest xs := by
  obtain ⟨configuration, there, carries⟩ := Shop.patched_carries
  have first : (Shop.containers Shop.patched.world).first? ["shop_db_1", "shop_web_1"] =
      some ("shop_db_1", configuration) := by
    simp only [Containers.first?, List.findSome?_cons, there, Option.map_some]
  have labelled : configuration.label? historyLabel ≠ none := by
    obtain ⟨text, label, _⟩ := carries
    rw [label]
    exact Option.some_ne_none text
  have read : (Shop.containers Shop.patched.world).carried ["shop_db_1", "shop_web_1"] =
      .ok Shop.paired.1 := by
    unfold Containers.carried
    rw [first]
    exact carries.read
  obtain ⟨answer, succeeded⟩ := Shop.deployOf_succeeds read (by decide +kernel)
  refine Call.deploy_copiesForward Shop.isMap (Shop.deployOf_staysAside _) rfl
    (Shop.deployOf_plan _ _) ?_ first labelled succeeded
  intro name member configuration there labelled
  exact Shop.patched_agrees (List.mem_pair.mp member).symm there labelled

/-- If a container of another origin comes first, the deployment succeeds,
removes the last container that carries the history and does not copy it. -/
theorem Shop.deploy_forgets_behindUnlabelled :
    (∀ name ∈ ["shop_web_1", "shop_db_1"], ∀ configuration,
      Shop.containers Shop.patched.world name = some configuration →
        configuration.label? historyLabel ≠ none → configuration.Carries Shop.paired.1) ∧
      (∃ configuration, Shop.containers Shop.patched.world "shop_db_1" = some configuration ∧
        configuration.Carries Shop.paired.1) ∧
      (∃ answer, ((Shop.deployOf ["shop_web_1", "shop_db_1"]).perform (some 2)
          Shop.engine.watched).on Shop.patched =
        (.ok answer, Shop.deployed ["shop_web_1", "shop_db_1"] Shop.patched)) ∧
      (Shop.deployed ["shop_web_1", "shop_db_1"] Shop.patched).own.any
        (fun x => x matches .remove "shop_db_1" (.ok _)) ∧
      ¬ ∃ manifest xs, (Shop.deployOf ["shop_web_1", "shop_db_1"]).TakesOver Shop.engine (some 2)
        Shop.containers Shop.paired.1 ["shop_web_1", "shop_db_1"] Shop.patched
        (Shop.deployed ["shop_web_1", "shop_db_1"] Shop.patched) manifest xs := by
  have read : (Shop.containers Shop.patched.world).carried ["shop_web_1", "shop_db_1"] =
      .ok .empty := by
    rw [Shop.containers_patched]
    unfold Containers.carried Containers.first?
    rw [List.findSome?_cons, Function.update_self]
    rfl
  obtain ⟨answer, succeeded⟩ := Shop.deployOf_succeeds read (by decide +kernel)
  refine ⟨?_, Shop.patched_carries, ⟨answer, succeeded⟩, by decide +kernel, ?_⟩
  · intro name member configuration there labelled
    exact Shop.patched_agrees (List.mem_pair.mp member) there labelled
  · rintro ⟨manifest, xs, takesOver⟩
    obtain ⟨fresh, ys, fromEmpty⟩ := Call.deploy_extends Shop.isMap (Shop.deployOf_staysAside _) rfl
      (Shop.deployOf_plan _ _) succeeded read
    obtain ⟨configuration, there, carries⟩ := takesOver.carried "shop_web_1"
      (by rw [takesOver.begun (by decide)]; exact List.mem_cons_self)
    obtain ⟨carrier, there', carries'⟩ := fromEmpty.carried "shop_web_1"
      (by rw [fromEmpty.begun (by decide)]; exact List.mem_cons_self)
    rw [there] at there'
    cases there'
    have same := congrArg History.length (Except.ok.inj (carries.read.symm.trans carries'.read))
    have remembered : Shop.paired.1.length = 1 := by decide +kernel
    simp only [History.push, History.length_keepNewest] at same
    simp only [History.length, History.empty, List.length_append, List.length_cons,
      List.length_nil] at same remembered
    omega

end ComposeDeploy
