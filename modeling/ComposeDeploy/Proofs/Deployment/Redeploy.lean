import ComposeDeploy.Proofs.Deployment.Occupancy

/-!
A rollback is a redeploy.

A rollback removes the active deployment and takes the services of an earlier
one as they are remembered; a deployment also removes what it captured and gets
its services by pinning requests. Where both read the same history and make the
same deployment, they leave the same containers (`Call.Finds.replaces`), up to
the time of the new entry (`Call.rollback_redeploys`).
-/

namespace ComposeDeploy

variable {W : Type}

/-! ### Running beside others -/

namespace Containers

/-- An application that has been brought up beside foreign containers runs the
active deployment. -/
theorem broughtUp_isRunning (foreign : Containers) (history : History) :
    history.IsRunning (fun name => foreign name = none) (foreign.broughtUp history) where
  carry := foreign.carry_broughtUp history
  absent name isOwn inactive := by rw [broughtUp_of_notMem inactive, isOwn]

/-- With the active deployment and nothing foreign removed, the foreign
containers are left. -/
theorem without_broughtUp {foreign : Containers} {history : History} {old : List String}
    (covers : ∀ name ∈ history.activeNames, name ∈ old)
    (apart : ∀ name ∈ old, foreign name = none ∨ name ∈ history.activeNames) :
    (foreign.broughtUp history).without old = foreign.without history.activeNames := by
  funext name
  unfold without
  by_cases active : name ∈ history.activeNames
  · rw [if_pos (covers name active), if_pos active]
  · rw [if_neg active]
    by_cases removed : name ∈ old
    · rw [if_pos removed, (apart name removed).resolve_right active]
    · rw [if_neg removed, broughtUp_of_notMem active]

/-- Which service a name gets depends neither on the label nor on what was there
before. -/
theorem started_alike {name : String} {services : List Service}
    (member : name ∈ services.map Service.name) :
    ∃ service ∈ services, service.name = name ∧
      ∀ (c : Containers) label, c.started label services name = some (service.labeled label) := by
  induction services with
  | nil => cases member
  | cons service rest ih =>
    by_cases again : name ∈ rest.map Service.name
    · obtain ⟨later, listed, named, started⟩ := ih again
      exact ⟨later, List.mem_cons_of_mem _ listed, named, fun c label => started _ label⟩
    · have named : service.name = name := by
        rcases List.mem_cons.mp member with same | later
        · exact same.symm
        · exact absurd later again
      subst named
      refine ⟨service, List.mem_cons_self, rfl, fun c label => ?_⟩
      exact (started_of_notMem again).trans (Function.update_self ..)

end Containers

/-! ### Replacing what runs -/

/-- A call captures nothing foreign, and at least one container of the active
deployment. -/
structure Call.Finds (call : Call W) (engine : Engine W) (containers : W → Containers)
    (foreign : Containers) (history : History) (w : W) (requests : List CreateRequest)
    (between : W) : Prop where
  aside : (call.planner engine).Keeps containers
  planned : (call.plan engine).on w = (.ok requests, between)
  apart : ∀ name ∈ requests.map CreateRequest.name, foreign name = none
  meets : ∃ name ∈ requests.map CreateRequest.name, name ∈ history.activeNames

section Replacing

variable {engine : Engine W} {containers : W → Containers} (isMap : engine.IsMap containers)
  {foreign : Containers} {history : History} {w : W}
  (running : containers w = foreign.broughtUp history) {call : Call W}
  {requests : List CreateRequest} {between : W}
  (finds : call.Finds engine containers foreign history w requests between)

include running finds in
/-- A call that finds the application reads its history. -/
theorem Call.Finds.read :
    (containers w).carried (requests.map CreateRequest.name) = .ok history := by
  rw [running]
  exact (foreign.broughtUp_isRunning history).carried finds.apart finds.meets

include isMap running finds in
/-- A call that succeeds has replaced the active deployment by the one that it
makes. -/
theorem Call.Finds.replaced {manifest : Manifest}
    (made : call.made engine history w = .ok manifest) {limit : Option Nat} {answer : Answer}
    {after : W} (run : (call.perform limit engine).on w = (.ok answer, after)) :
    containers after =
      (foreign.without history.activeNames).broughtUp (history.push manifest limit) := by
  obtain ⟨requests', _, _, intent, history', turn, planned, _, _, resolves, read', chosen, made',
    leaves⟩ := Call.succeeded_leaves isMap finds.aside run
  cases finds.planned.symm.trans planned
  cases (finds.read running).symm.trans read'
  cases made.symm.trans made'
  obtain ⟨covers, among⟩ := resolves.covers chosen
  rw [leaves.succeeded.2.2, running, Containers.without_broughtUp covers]
  intro name old
  exact (among name old).imp_left (finds.apart name)

include isMap finds in
/-- Without faults, it succeeds. -/
theorem Call.Finds.replaces (faultless : engine.IsFaultless) (limit : Option Nat)
    (running : containers w = foreign.broughtUp history) {manifest : Manifest}
    (made : call.made engine history w = .ok manifest) :
    ∃ answer after, (call.perform limit engine).on w = (.ok answer, after) ∧
      containers after =
        (foreign.without history.activeNames).broughtUp (history.push manifest limit) := by
  obtain ⟨answer, succeeded⟩ : ∃ answer, ((call.perform limit engine).on w).1 = .ok answer :=
    Call.succeeds isMap faultless finds.aside finds.planned (finds.read running) made
  rcases run : (call.perform limit engine).on w with ⟨result, after⟩
  rw [run] at succeeded
  cases succeeded
  exact ⟨answer, after, rfl, finds.replaced isMap running made run⟩

end Replacing

/-! ### Main result -/

/-- Two worlds in which one deployment was made again at two times: the names of
the deployment have the same services, each with a history that differs from the
other in the time of its newest entry, and all other containers are the same. -/
structure History.IsRemade (history : History) (limit : Option Nat) (target : Manifest)
    (now later : String) (c d : Containers) : Prop where
  others : ∀ name, name ∉ target.containerNames → c name = d name
  started : ∀ name ∈ target.containerNames, ∃ service ∈ target.services, service.name = name ∧
    c name = some (service.labeled (history.push (target.remadeAt now) limit).labelText) ∧
    d name = some (service.labeled (history.push (target.remadeAt later) limit).labelText)
  carry : c.Carry (history.push (target.remadeAt now) limit) ∧
    d.Carry (history.push (target.remadeAt later) limit)
  earlier : ∃ earlier, (history.push (target.remadeAt now) limit).entries =
      earlier ++ [target.remadeAt now] ∧
    (history.push (target.remadeAt later) limit).entries = earlier ++ [target.remadeAt later]

/-- A deployment that is brought up at two times is remade. -/
theorem History.isRemade_broughtUp {limit : Option Nat} (positive : limit ≠ some 0)
    (history : History) (target : Manifest) (now later : String) (base : Containers) :
    history.IsRemade limit target now later
      (base.broughtUp (history.push (target.remadeAt now) limit))
      (base.broughtUp (history.push (target.remadeAt later) limit)) where
  others name absent := by
    have inactive : ∀ time, name ∉ (history.push (target.remadeAt time) limit).activeNames := by
      intro time
      rwa [activeNames_push positive]
    rw [Containers.broughtUp_of_notMem (inactive now),
      Containers.broughtUp_of_notMem (inactive later)]
  started name member := by
    obtain ⟨service, listed, named, started⟩ := Containers.started_alike member
    refine ⟨service, listed, named, ?_, ?_⟩
    all_goals
      rw [Containers.broughtUp, activeServices_push positive]
      exact started _ _
  carry := ⟨base.carry_broughtUp _, base.carry_broughtUp _⟩
  earlier := by
    obtain ⟨earlier, kept⟩ := newestOf_concat positive history.entries
    exact ⟨earlier, (entries_push ..).trans (kept _), (entries_push ..).trans (kept _)⟩

/-- Rolling back to a deployment and deploying the same services once more leave
the same, up to the time of the new entry. -/
theorem Call.rollback_redeploys {engine : Engine W} {containers : W → Containers}
    (isMap : engine.IsMap containers) (faultless : engine.IsFaultless) {limit : Option Nat}
    (positive : limit ≠ some 0) {foreign : Containers} {history : History} {w : W}
    (running : containers w = foreign.broughtUp history) {back forth : Call W}
    {restoration : Restoration} (rollsBack : back.change = .rollback restoration)
    {requests : List CreateRequest} {between : W}
    (finds : back.Finds engine containers foreign history w requests between)
    {index : Nat} {target : Manifest}
    (found : history.restoration restoration.index = .ok (index, target))
    (apart : ∀ name ∈ target.containerNames, foreign name = none)
    (meets : ∃ name ∈ target.containerNames, name ∈ history.activeNames)
    {rollout : Rollout} (deploys : forth.change = .deploy rollout)
    (message : rollout.message = target.message)
    (aside : (forth.planner engine).Keeps containers)
    {captured : List CreateRequest} {planning : W}
    (planned : (forth.plan engine).on w = (.ok captured, planning))
    (pinned : ((engine.pinAll captured).on planning).1 = .ok target.services) :
    ∃ answer after answer' after', (back.perform limit engine).on w = (.ok answer, after) ∧
      (forth.perform limit engine).on w = (.ok answer', after') ∧
      history.IsRemade limit target back.now forth.now (containers after) (containers after') ∧
      (back.now = forth.now → containers after = containers after') := by
  have names : target.containerNames = captured.map CreateRequest.name := by
    rcases run : (engine.pinAll captured).on planning with ⟨result, after⟩
    rw [run] at pinned
    cases pinned
    obtain ⟨_, _, pins⟩ := Engine.pinAll_cases run
    exact pins.complete.1
  have restores : back.made engine history w = .ok (target.remadeAt back.now) := by
    simp only [Call.made, finds.planned, rollsBack, found]
    rfl
  have makes : forth.made engine history w = .ok (target.remadeAt forth.now) := by
    simp only [Call.made, planned, deploys, pinned, message]
    rfl
  rw [names] at apart meets
  have finds' : forth.Finds engine containers foreign history w captured planning :=
    ⟨aside, planned, apart, meets⟩
  obtain ⟨answer, after, rolledBack, left⟩ := finds.replaces isMap faultless limit running restores
  obtain ⟨answer', after', deployed, left'⟩ := finds'.replaces isMap faultless limit running makes
  refine ⟨answer, after, answer', after', rolledBack, deployed, ?_, ?_⟩
  · rw [left, left']
    exact history.isRemade_broughtUp positive target back.now forth.now _
  · intro same
    rw [left, left', same]

namespace Shop

/-- The services of these names, as they are remembered. -/
def fleet (names : List String) : List Service :=
  (((engine.pinAll (names.map request)).on start).1).toOption.getD []

/-- A shop that has given up one of its two services. -/
def shrunk : History :=
  ⟨[⟨fleet ["shop_web_1", "shop_db_1"], "2024-02-01T00:00:00Z", "both"⟩,
    ⟨fleet ["shop_web_1"], "2024-02-02T00:00:00Z", "one"⟩]⟩

/-- The shop that runs a history beside the container of someone else. -/
def beside (history : History) : World :=
  (history.activeServices.foldl
    (fun known service =>
      known.insert service.name (some (service.labeled history.labelText))) start.1, start.2)

theorem containers_beside (history : History) :
    containers (beside history) = (containers start).broughtUp history :=
  containers_foldl_insert history.labelText start.2 history.activeServices start.1

/-- A call for which requests of these names are captured. -/
def planning (names : List String) (now : String) (change : Change) : Call World where
  planner _ := .reporting (names.map request)
  now
  change

theorem planning_plan (names : List String) (now : String) (change : Change) (w : World) :
    ((planning names now change).plan engine).on w = (.ok (names.map request), w) := rfl

/-- Rolls the shop back to both services. -/
def back : Call World :=
  planning ["shop_web_1"] "2024-02-03T00:00:00Z" rollback

/-- Deploys both services once more. -/
def forth : Call World :=
  planning ["shop_web_1", "shop_db_1"] "2024-02-04T00:00:00Z" (deploy "both")

/-- The deployment that both calls make. -/
def both : Manifest :=
  ⟨fleet ["shop_web_1", "shop_db_1"], "2024-02-01T00:00:00Z", "both"⟩

theorem both_names : both.containerNames = ["shop_web_1", "shop_db_1"] := by
  decide +kernel

theorem shrunk_activeNames : shrunk.activeNames = ["shop_web_1"] := by
  decide +kernel

theorem shrunk_restoration : shrunk.restoration none = .ok (0, both) := by
  decide +kernel

theorem both_pinned :
    ((engine.pinAll (["shop_web_1", "shop_db_1"].map request)).on (beside shrunk)).1 =
      .ok both.services := by
  decide +kernel

theorem both_apart : ∀ name ∈ both.containerNames, containers start name = none := by
  decide +kernel

theorem back_finds :
    back.Finds engine containers (containers start) shrunk (beside shrunk)
      (["shop_web_1"].map request) (beside shrunk) where
  aside := Planner.reporting_keeps _
  planned := planning_plan _ _ _ _
  apart := by decide +kernel
  meets := by
    rw [map_name_request, shrunk_activeNames]
    exact ⟨"shop_web_1", List.mem_cons_self, List.mem_cons_self⟩

end Shop

theorem Call.rollback_redeploys_shop :
    ∃ answer after answer' after',
      (Shop.back.perform (some 2) Shop.engine).on (Shop.beside Shop.shrunk) = (.ok answer, after) ∧
        (Shop.forth.perform (some 2) Shop.engine).on (Shop.beside Shop.shrunk) =
          (.ok answer', after') ∧
        Shop.shrunk.IsRemade (some 2) Shop.both Shop.back.now Shop.forth.now
          (Shop.containers after) (Shop.containers after') := by
  have meets : ∃ name ∈ Shop.both.containerNames, name ∈ Shop.shrunk.activeNames := by
    rw [Shop.both_names, Shop.shrunk_activeNames]
    exact ⟨"shop_web_1", List.mem_cons_self, List.mem_cons_self⟩
  have aside : (Shop.forth.planner Shop.engine).Keeps Shop.containers := Planner.reporting_keeps _
  have positive : some 2 ≠ some 0 := by decide
  obtain ⟨answer, after, answer', after', rolledBack, deployed, remade, _⟩ :=
    Call.rollback_redeploys Shop.isMap Shop.isFaultless positive
      (Shop.containers_beside Shop.shrunk) rfl Shop.back_finds Shop.shrunk_restoration
      Shop.both_apart meets rfl rfl aside (Shop.planning_plan _ _ _ _) Shop.both_pinned
  exact ⟨answer, after, answer', after', rolledBack, deployed, remade⟩

end ComposeDeploy
