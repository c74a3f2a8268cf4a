import ComposeDeploy.Proofs.Deployment.Tenure

/-!
Starts over names in use.

A container is created again and again until it can be, so a start under a name
that some container has would never end on a real engine.
`Engine.StartsOver` says that a conversation calls for such a start. A change
only comes to it by a service that it starts without having removed the
container of that name (`CarriesOut.clashes`). A deployment removes all names
that it starts; a rollback removes those of the active deployment and starts
those of the restored one. So a rollback starts over just the names of the
restored deployment that are not active and that some container has
(`Tenure.startsOver_revives`). There are none as long as every call meets the
active deployment (`Tenure.startsOver_nothing`); a shop whose fleets have nothing
in common comes to one.
-/

namespace ComposeDeploy

variable {W : Type}

/-- A conversation that begins in a world calls for a start under a name at a
moment when there is a container of that name. -/
inductive Engine.StartsOver (engine : Engine W) (containers : W → Containers) (name : String) :
    W → List Exchange → Prop where
  | now {w : W} {configuration : Configuration} {result : Except Error Unit}
      {xs : List Exchange} :
    containers w name ≠ none →
      StartsOver engine containers name w (.start name configuration result :: xs)
  | later {x : Exchange} {xs : List Exchange} {w between : W} :
    x.Made engine w between → StartsOver engine containers name between xs →
      StartsOver engine containers name w (x :: xs)

/-- Whether a call is for a start. -/
def Exchange.isStart : Exchange → Bool
  | .start .. => true
  | _ => false

namespace Engine.StartsOver

variable {engine : Engine W} {containers : W → Containers} {name : String} {w between : W}
  {xs ys : List Exchange}

/-- Calls that start nothing do not start over. -/
theorem of_append (idle : ∀ x ∈ xs, x.isStart = false)
    (occupied : engine.StartsOver containers name w (xs ++ ys)) :
    ∃ between, engine.Calls w xs between ∧ engine.StartsOver containers name between ys := by
  induction xs generalizing w with
  | nil => exact ⟨w, .nil, occupied⟩
  | cons x xs ih =>
    obtain ⟨first, others⟩ := List.forall_mem_cons.mp idle
    cases occupied with
    | now => cases first
    | later made occupied =>
      obtain ⟨between, calls, occupied⟩ := ih others occupied
      exact ⟨between, .cons made calls, occupied⟩

theorem after (calls : engine.Calls w xs between)
    (occupied : engine.StartsOver containers name between ys) :
    engine.StartsOver containers name w (xs ++ ys) := by
  induction calls with
  | nil => exact occupied
  | cons made _ ih => exact .later made (ih occupied)

end Engine.StartsOver

/-! ### Phases -/

section Steps

variable {engine : Engine W} {containers : W → Containers} (isMap : engine.IsMap containers)
  {w after : W} {xs : List Exchange} {name : String}
include isMap

/-- When the starts begin, a history has been read and the old containers are
gone. -/
theorem Reads.cleared_of_map {names old : List String} {removals : List Exchange}
    {history : History} {count : Nat} {asked : W} (reads : Reads names xs (.ok history))
    (inspected : engine.Calls w xs asked) (removes : Removes old removals (.ok count))
    (removed : engine.Calls asked removals after) :
    (containers w).carried names = .ok history ∧
      containers after = (containers w).without old := by
  obtain ⟨read, _⟩ := reads.of_map isMap inspected (reads.orderly.all rfl)
  have unchanged : containers asked = containers w := by
    apply isMap.askingIsHarmless.calls inspected
    intro x member
    obtain ⟨_, _, rfl⟩ := reads.inspects x member
    rfl
  obtain ⟨_, without⟩ := removes.of_map isMap removed (removes.orderly.all rfl)
  rw [without, unchanged]
  exact ⟨read.symm, rfl⟩

/-- A start of services of distinct names is over one that was there before. -/
theorem Starts.there_of_startsOver {label : String} {services : List Service}
    {result : Except Error Unit} (starts : Starts label services xs result)
    (distinct : (services.map Service.name).Nodup)
    (occupied : engine.StartsOver containers name w xs) :
    name ∈ services.map Service.name ∧ containers w name ≠ none := by
  induction starts generalizing w with
  | nil => cases occupied
  | failed =>
    cases occupied with
    | now there => exact ⟨List.mem_cons_self, there⟩
    | later _ occupied => cases occupied
  | @more service rest _ _ _ ih =>
    rw [List.map_cons, List.nodup_cons] at distinct
    cases occupied with
    | now there => exact ⟨List.mem_cons_self, there⟩
    | later made occupied =>
      obtain ⟨listed, there⟩ := ih distinct.2 occupied
      -- The services started before have other names.
      have other : name ≠ service.name := by
        rintro rfl
        exact distinct.1 listed
      rw [(isMap made).2] at there
      refine ⟨List.mem_cons_of_mem _ listed, ?_⟩
      rwa [Exchange.effect, Function.update_of_ne other] at there

/-- If all services are started, each that was there is started over. -/
theorem Starts.startsOver_of_there {label : String} {services : List Service}
    (starts : Starts label services xs (.ok ())) (distinct : (services.map Service.name).Nodup)
    (calls : engine.Calls w xs after) (listed : name ∈ services.map Service.name)
    (there : containers w name ≠ none) : engine.StartsOver containers name w xs := by
  generalize outcome : Except.ok () = result at starts
  induction starts generalizing w with
  | nil => cases listed
  | failed => cases outcome
  | @more service rest _ _ _ ih =>
    rw [List.map_cons, List.nodup_cons] at distinct
    cases calls with
    | cons made others =>
      by_cases same : name = service.name
      · subst same
        exact .now there
      · have later : name ∈ rest.map Service.name := (List.mem_cons.mp listed).resolve_left same
        refine .later made (ih distinct.2 others later ?_ outcome)
        rwa [(isMap made).2, Exchange.effect, Function.update_of_ne same]

end Steps

/-! ### Carrying out an intent -/

/-- The turn that an intent chooses starts a name whose container is there and
that it does not remove. -/
def Intent.Clashes (intent : Intent) (c : Containers) (name : String) : Prop :=
  ∃ history turn, c.carried intent.names = .ok history ∧ intent.turn history = .ok turn ∧
    name ∈ turn.manifest.containerNames ∧ name ∉ turn.old ∧ c name ≠ none

/-- The turns that an intent can choose start distinct names. -/
def Intent.StartsDistinct (intent : Intent) (c : Containers) : Prop :=
  ∀ history turn, c.carried intent.names = .ok history → intent.turn history = .ok turn →
    turn.manifest.containerNames.Nodup

theorem History.nodup_activeNames_push {history : History} {manifest : Manifest}
    {limit : Option Nat} (distinct : manifest.containerNames.Nodup) :
    (history.push manifest limit).activeNames.Nodup := by
  by_cases zero : limit = some 0
  · rw [zero, History.push_zero]
    exact List.nodup_nil
  · rwa [History.activeNames_push zero]

section Changes

variable {engine : Engine W} {containers : W → Containers} (isMap : engine.IsMap containers)
  {limit : Option Nat} {w after : W} {name : String}
include isMap

/-- A change only starts over what its turn does not remove. -/
theorem CarriesOut.clashes {intent : Intent} {inspections removals starts : List Exchange}
    {result : Except Error Answer}
    (carries : CarriesOut limit intent inspections removals starts result)
    (distinct : intent.StartsDistinct (containers w))
    (occupied : engine.StartsOver containers name w (inspections ++ (removals ++ starts))) :
    intent.Clashes (containers w) name := by
  obtain ⟨_, reads⟩ := carries.reads
  obtain ⟨_, _, removes⟩ := carries.removes
  have inspecting : ∀ x ∈ inspections, x.isStart = false := by
    intro x member
    obtain ⟨_, _, rfl⟩ := reads.inspects x member
    rfl
  have removing : ∀ x ∈ removals, x.isStart = false := by
    intro x member
    obtain ⟨_, _, rfl⟩ := removes.removes x member
    rfl
  obtain ⟨asked, inspected, occupied⟩ := occupied.of_append inspecting
  obtain ⟨cleared, removed, occupied⟩ := occupied.of_append removing
  cases carries with
  | unread | refused | unremoved => cases occupied
  | @turned _ _ history turn _ _ reads chosen removes brings =>
    obtain ⟨read, without⟩ := reads.cleared_of_map isMap inspected removes removed
    have startsDistinct : ((history.push turn.manifest limit).activeServices.map
        Service.name).Nodup := by
      rw [History.map_name_activeServices]
      exact History.nodup_activeNames_push (distinct history turn read chosen)
    obtain ⟨listed, there⟩ := brings.startsActive.there_of_startsOver isMap startsDistinct occupied
    rw [History.map_name_activeServices] at listed
    rw [without, Containers.without] at there
    split at there
    · exact absurd rfl there
    · next kept =>
      exact ⟨history, turn, read, chosen, History.mem_of_mem_activeNames_push listed, kept, there⟩

/-- A change that succeeds starts over all of that. -/
theorem CarriesOut.startsOver (positive : limit ≠ some 0) {intent : Intent}
    {inspections removals starts : List Exchange} {answer : Answer}
    (carries : CarriesOut limit intent inspections removals starts (.ok answer))
    (distinct : intent.StartsDistinct (containers w))
    (calls : engine.Calls w (inspections ++ (removals ++ starts)) after)
    (clashes : intent.Clashes (containers w) name) :
    engine.StartsOver containers name w (inspections ++ (removals ++ starts)) := by
  obtain ⟨history, turn, read, chosen, listed, kept, there⟩ := clashes
  obtain ⟨asked, inspected, changed⟩ := calls.split
  obtain ⟨cleared, removed, started⟩ := changed.split
  generalize outcome : Except.ok answer = result at carries
  cases carries with
  | unread | refused | unremoved => cases outcome
  | @turned _ _ history' turn' _ result reads chosen' removes brings =>
    obtain ⟨read', without⟩ := reads.cleared_of_map isMap inspected removes removed
    rw [read] at read'
    cases read'
    rw [chosen] at chosen'
    cases chosen'
    have still : containers cleared name ≠ none := by
      rwa [without, Containers.without, if_neg kept]
    have begun : (history.push turn.manifest limit).activeServices.map Service.name =
        turn.manifest.containerNames := by
      rw [History.map_name_activeServices, History.activeNames_push positive]
    cases result with
    | error e => cases outcome
    | ok =>
      have occupied := brings.startsActive.startsOver_of_there isMap
        (begun ▸ distinct history turn read chosen) started (begun ▸ listed) still
      exact (occupied.after removed).after inspected

/-! ### Calls -/

omit isMap in
/-- A call restores a name that some container has and that is not active in
the history that the call reads. -/
def Call.Revives (call : Call W) (c : Containers) (names : List String) (name : String) : Prop :=
  ∃ options history index target, call.change = .rollback options ∧ c.carried names = .ok history ∧
    history.restoration options.index = .ok (index, target) ∧ name ∈ target.containerNames ∧
    name ∉ history.activeNames ∧ c name ≠ none

omit isMap in
/-- Only a rollback starts a name that it has not removed. -/
theorem Change.Resolves.clashes_iff {call : Call W} {requests : List CreateRequest}
    {xs : List Exchange} {intent : Intent} {c : Containers}
    (resolves : call.change.Resolves call.now requests xs (.ok intent)) :
    intent.Clashes c name ↔ call.Revives c (requests.map CreateRequest.name) name := by
  have names := resolves.complete.2
  constructor
  · rintro ⟨history, turn, read, chosen, listed, kept, there⟩
    rw [names] at read
    cases change : call.change with
    | deploy options =>
      rw [change] at resolves
      obtain ⟨captured, old⟩ := resolves.deployed chosen
      rw [captured] at listed
      rw [old] at kept
      exact absurd (Setup.mem_stale.mpr (.inl listed)) kept
    | rollback options =>
      rw [change] at resolves
      obtain ⟨index, target, restored, made, old⟩ := resolves.restored chosen
      rw [made] at listed
      rw [old] at kept
      exact ⟨options, history, index, target, change, read, restored, listed, kept, there⟩
  · rintro ⟨options, history, index, target, change, read, restored, listed, inactive, there⟩
    rw [← names] at read
    rw [change] at resolves
    cases resolves
    have chosen : (Intent.toRestore call.now options requests).turn history =
        .ok ⟨history.activeNames, target.remadeAt call.now, .plain
          ("Successfully rolled back to deployment: " ++ toString (index + 1))⟩ := by
      unfold Intent.toRestore
      simp only [restored]
      rfl
    exact ⟨history, _, read, chosen, listed, inactive, there⟩

omit isMap in
theorem Change.Resolves.startsDistinct {now : String} {change : Change}
    {requests : List CreateRequest} {xs : List Exchange} {intent : Intent} {c : Containers}
    (resolves : change.Resolves now requests xs (.ok intent))
    (captured : (requests.map CreateRequest.name).Nodup)
    (remembered : ∀ history, c.carried (requests.map CreateRequest.name) = .ok history →
      history.RemembersOnly List.Nodup) : intent.StartsDistinct c := by
  intro history turn read chosen
  rw [resolves.complete.2] at read
  exact (remembered history read).started captured (resolves.known chosen)

/-- A call whose deployments have distinct names starts over nothing but what it
revives, and over all of that if it succeeds. -/
theorem Call.startsOver_of_distinct {call : Call W} (aside : (call.planner engine).Keeps containers)
    {requests : List CreateRequest} {between : W} {result : Except Error Answer}
    (planned : (call.plan engine).on w = (.ok requests, between))
    (captured : (requests.map CreateRequest.name).Nodup)
    (remembered : ∀ history, (containers w).carried (requests.map CreateRequest.name) =
      .ok history → history.RemembersOnly List.Nodup)
    (run : (call.perform limit engine).on w = (result, after)) :
    ∃ phases : Phases, engine.Calls between phases.all after ∧
      call.change.Makes call.now limit (.ok requests) phases result ∧
      (∀ name, engine.StartsOver containers name between phases.all →
        call.Revives (containers w) (requests.map CreateRequest.name) name) ∧
      (limit ≠ some 0 → result.isOk → ∀ name,
        call.Revives (containers w) (requests.map CreateRequest.name) name →
          engine.StartsOver containers name between phases.all) := by
  obtain ⟨_, _, phases, planned', calls, makes⟩ := (call.setup limit).change_cases run
  have planned' : (call.plan engine).on w = (_, _) := planned'
  rw [planned] at planned'
  cases planned'
  have kept := Call.plan_kept aside planned
  refine ⟨phases, calls, makes, ?_⟩
  have idle : ∀ x ∈ phases.resolutions, x.isStart = false := by
    intro x member
    obtain ⟨_, _, rfl⟩ := makes.resolves x member
    rfl
  cases makes with
  | unresolved resolves =>
    constructor
    · intro name occupied
      obtain ⟨_, _, occupied⟩ := occupied.of_append idle
      cases occupied
    · intro _ succeeded
      cases succeeded
  | @carriedOut _ resolutions intent inspections removals starts _ resolves carries =>
    rw [← kept] at remembered
    have distinct := resolves.startsDistinct captured remembered
    constructor
    · intro name occupied
      obtain ⟨middle, resolved, occupied⟩ := occupied.of_append idle
      have same := isMap.askingIsHarmless.calls resolved resolves.changesNothing
      rw [← same] at distinct
      have clashes := carries.clashes isMap distinct occupied
      rw [same, kept] at clashes
      exact resolves.clashes_iff.mp clashes
    · intro positive succeeded name revives
      cases result with
      | error e => cases succeeded
      | ok answer =>
        obtain ⟨middle, resolved, carried⟩ := calls.split
        have same := isMap.askingIsHarmless.calls resolved resolves.changesNothing
        have clashes := resolves.clashes_iff.mpr revives
        rw [← kept, ← same] at clashes
        rw [← same] at distinct
        exact (carries.startsOver isMap positive distinct carried clashes).after resolved

end Changes

/-! ### After a tenure -/

/-- What a call says to the engine is `xs`, and it starts over a name only by
reviving it. -/
structure Call.OnlyRevives (call : Call (Watched W)) (engine : Engine W) (limit : Option Nat)
    (containers : W → Containers) (names : List String) (s between after : Watched W)
    (result : Except Error Answer) (xs : List Exchange) : Prop where
  own : after.own = s.own ++ xs
  calls : engine.watched.Calls between xs after
  /-- A deployment starts over nothing. -/
  deployed : ∀ options, call.change = .deploy options →
    ∀ name, ¬ engine.watched.StartsOver (fun s => containers s.world) name between xs
  /-- A rollback starts over nothing but what it revives, -/
  revived : ∀ name, engine.watched.StartsOver (fun s => containers s.world) name between xs →
    call.Revives (containers s.world) names name
  /-- and over all of that if it succeeds, unless nothing may be remembered. -/
  all : limit ≠ some 0 → result.isOk → ∀ name, call.Revives (containers s.world) names name →
    engine.watched.StartsOver (fun s => containers s.world) name between xs

/-- After every tenure whose calls capture distinct names, a call with distinct
names starts over a name only by reviving it. -/
theorem Tenure.startsOver_revives {engine : Engine W} {limit : Option Nat}
    {containers : W → Containers} (isMap : engine.IsMap containers) {own : String → Prop}
    {previous : History} {s : Watched W}
    (tenure : Tenure engine.watched limit (fun s => containers s.world) own
      (fun _ names => names.Nodup) previous s) {call : Call (Watched W)}
    (aside : (call.planner engine.watched).Keeps fun s => (containers s.world, s.own))
    {requests : List CreateRequest} {between after : Watched W} {result : Except Error Answer}
    (planned : (call.plan engine.watched).on s = (.ok requests, between))
    (isOwn : ∀ name ∈ requests.map CreateRequest.name, own name)
    (captured : (requests.map CreateRequest.name).Nodup)
    (run : (call.perform limit engine.watched).on s = (result, after)) :
    ∃ xs, call.OnlyRevives engine limit containers (requests.map CreateRequest.name) s between
      after result xs := by
  have remembers := (tenure.remembersOnly (P := List.Nodup) isMap.watched
    fun _ _ distinct _ => distinct).2
  obtain ⟨phases, calls, makes, revives, all⟩ :=
    Call.startsOver_of_distinct isMap.watched (aside.map Prod.fst) planned captured
      (fun history read => remembers.carried isOwn read) run
  refine ⟨phases.all, Call.own_eq (aside.map Prod.snd) planned calls makes, calls, ?_, revives,
    all⟩
  intro options deploys name occupied
  obtain ⟨_, _, _, _, change, _⟩ := revives name occupied
  rw [deploys] at change
  cases change

/-- A running application has no container that a rollback could revive. -/
theorem History.IsRunning.not_revives {history : History} {own : String → Prop} {c : Containers}
    (running : history.IsRunning own c)
    (remembered : history.RemembersOnly fun names => ∀ name ∈ names, own name)
    {names : List String} (isOwn : ∀ name ∈ names, own name) (meets : history.Meets names)
    (call : Call W) (name : String) : ¬ call.Revives c names name := by
  rintro ⟨_, read, index, target, _, carried, restored, listed, inactive, there⟩
  rw [running.carried_of_meets isOwn meets] at carried
  cases carried
  have remains := History.mem_of_get? (History.restoration_cases restored).2
  exact there (running.absent name (remembered target remains name listed) inactive)

/-- As long as every call meets the active deployment, no call starts over a name
in use. -/
theorem Tenure.startsOver_nothing {engine : Engine W} {limit : Option Nat}
    {containers : W → Containers} (isMap : engine.IsMap containers) {own : String → Prop}
    {previous : History} {s : Watched W}
    (tenure : Tenure engine.watched limit (fun s => containers s.world) own
      (fun history names => names.Nodup ∧ history.Meets names) previous s)
    {call : Call (Watched W)}
    (aside : (call.planner engine.watched).Keeps fun s => (containers s.world, s.own))
    {requests : List CreateRequest} {between after : Watched W} {result : Except Error Answer}
    (planned : (call.plan engine.watched).on s = (.ok requests, between))
    (isOwn : ∀ name ∈ requests.map CreateRequest.name, own name)
    (captured : (requests.map CreateRequest.name).Nodup)
    (meets : previous.Meets (requests.map CreateRequest.name))
    (run : (call.perform limit engine.watched).on s = (result, after)) :
    ∃ xs, after.own = s.own ++ xs ∧ engine.watched.Calls between xs after ∧
      ∀ name, ¬ engine.watched.StartsOver (fun s => containers s.world) name between xs := by
  have running := (tenure.imp fun _ _ admitted => admitted.2).isRunning isMap.watched
  have ours := (tenure.remembersOnly isMap.watched fun _ _ _ isOwn => isOwn).1
  have distinct := (tenure.remembersOnly (P := List.Nodup) isMap.watched
    fun _ _ admitted _ => admitted.1).2
  obtain ⟨phases, calls, makes, revives, _⟩ :=
    Call.startsOver_of_distinct isMap.watched (aside.map Prod.fst) planned captured
      (fun history read => distinct.carried isOwn read) run
  refine ⟨phases.all, Call.own_eq (aside.map Prod.snd) planned calls makes, calls, ?_⟩
  intro name occupied
  exact running.not_revives ours isOwn meets call name (revives name occupied)

/-! ### Fleets with nothing in common -/

namespace Shop

/-- Restores the deployment before the active one, where services of these names
are planned. -/
def restoreOf (names : List String) : Call (Watched World) :=
  { deployOf names with change := rollback }

/-- What comes of it. -/
def restored (names : List String) (s : Watched World) : Except Error Answer × Watched World :=
  ((restoreOf names).perform (some 2) engine.watched).on s

theorem restoreOf_requests (names : List String) (s : Watched World) :
    ((restoreOf names).plan engine.watched).on s = (.ok (names.map request), s) := rfl

theorem restoreOf_staysAside (names : List String) :
    ((restoreOf names).planner engine.watched).Keeps fun s => (containers s.world, s.own) :=
  Planner.reporting_keeps _

/-- A rollback succeeds if it reads a history with a deployment to restore. -/
theorem restoreOf_succeeds {names : List String} {s : Watched World} {history : History}
    {index : Nat} {target : Manifest} (read : (containers s.world).carried names = .ok history)
    (found : history.restoration none = .ok (index, target)) :
    ∃ answer after, restored names s = (.ok answer, after) := by
  have planned := restoreOf_requests names s
  have made : (restoreOf names).made engine.watched history s =
      .ok (target.remadeAt (restoreOf names).now) := by
    unfold Call.made
    rw [planned]
    show (history.restoration none).map _ = _
    rw [found]
    rfl
  obtain ⟨answer, succeeded⟩ : ∃ answer, (restored names s).1 = .ok answer :=
    Call.succeeds isMap.watched isFaultless.watched ((restoreOf_staysAside names).map Prod.fst)
      planned (by rwa [map_name_request]) made
  exact ⟨answer, _, Prod.ext succeeded rfl⟩

/-- The shop after three fleets, of which the last has nothing in common with the
one before. -/
def split : Watched World :=
  deployed ["shop_db_1"] (deployed ["shop_web_1"]
    (deployed ["shop_web_1", "shop_db_1"] ⟨start, []⟩))

/-- The container that the last fleet has left alone carries a history in which it
was deployed with the other one first and then alone. -/
theorem split_holds :
    ∃ (previous history : History) (target : Manifest),
      Holds (fun _ names => names.Nodup) previous split ∧
        (containers split.world).carried ["shop_web_1"] = .ok history ∧
        history.restoration none = .ok (0, target) ∧
        target.containerNames = ["shop_web_1", "shop_db_1"] ∧
        history.activeNames = ["shop_web_1"] ∧ containers split.world "shop_db_1" ≠ none := by
  have limited : (some 2 : Option Nat) ≠ some 0 := by decide
  have own : ∀ name ∈ ["shop_web_1", "shop_db_1"], containers start name = none := by
    decide +kernel
  have wanted : ∀ name ∈ ["shop_web_1", "shop_db_1"],
      (request name).wanted.map Prod.snd = .ok "nginx" := by
    decide +kernel
  obtain ⟨ownWeb, ownDb⟩ := List.forall_mem_cons.mp own
  obtain ⟨wantedWeb, wantedDb⟩ := List.forall_mem_cons.mp wanted
  have opened : Holds (fun _ names => names.Nodup) .empty ⟨start, []⟩ := opened_holds
  -- Both services are deployed, then the first one alone.
  obtain ⟨both, namedBoth, held, carryBoth, _⟩ :=
    opened.deploy wanted own (by decide) (Containers.carried_eq_empty own)
  have activeBoth := (History.activeNames_push limited .empty both).trans namedBoth
  obtain ⟨_, there, carries⟩ := carryBoth "shop_web_1" (by rw [activeBoth]; decide)
  obtain ⟨web, namedWeb, held, carryWeb, leftByWeb⟩ := held.deploy
    (List.forall_mem_singleton.mpr wantedWeb) (List.forall_mem_singleton.mpr ownWeb) (by decide)
    (Containers.carried_cons there carries [])
  have activeWeb :=
    (History.activeNames_push limited (.push .empty both (some 2)) web).trans namedWeb
  -- So the second one is gone, and its next deployment knows of none before.
  have gone := (leftByWeb "shop_db_1" (by decide)).trans (if_pos (by rw [activeBoth]; decide))
  obtain ⟨db, namedDb, held, carryDb, leftByDb⟩ := held.deploy wantedDb ownDb (by decide)
    (Containers.carried_eq_empty (List.forall_mem_singleton.mpr gone))
  have activeDb := (History.activeNames_push limited .empty db).trans namedDb
  have stays := (leftByDb "shop_web_1" (by decide)).trans (if_neg List.not_mem_nil)
  obtain ⟨_, there, carries⟩ := carryWeb "shop_web_1" (by rw [activeWeb]; decide)
  obtain ⟨configuration, running, _⟩ := carryDb "shop_db_1" (by rw [activeDb]; decide)
  refine ⟨_, _, both, held, Containers.carried_cons (stays.trans there) carries [], rfl, namedBoth,
    activeWeb, ?_⟩
  exact fun absent => Option.some_ne_none configuration (running.symm.trans absent)

/-- So a rollback of that history revives the other container. -/
theorem split_revives :
    ∃ previous : History, Holds (fun _ names => names.Nodup) previous split ∧
      (restoreOf ["shop_web_1"]).Revives (containers split.world) ["shop_web_1"] "shop_db_1" ∧
      ∃ answer after, restored ["shop_web_1"] split = (.ok answer, after) := by
  obtain ⟨previous, history, target, holds, read, found, named, active, there⟩ := split_holds
  refine ⟨previous, holds, ?_, restoreOf_succeeds read found⟩
  refine ⟨_, history, 0, target, rfl, read, found, ?_, ?_, there⟩
  · rw [named]
    decide
  · rw [active]
    decide

end Shop

theorem Tenure.startsOver_revives_shop :
    ∃ answer after xs, Shop.restored ["shop_web_1"] Shop.split = (.ok answer, after) ∧
      (Shop.restoreOf ["shop_web_1"]).OnlyRevives Shop.engine (some 2) Shop.containers
        ["shop_web_1"] Shop.split Shop.split after (.ok answer) xs := by
  obtain ⟨previous, holds, _, answer, after, run⟩ := Shop.split_revives
  obtain ⟨xs, only⟩ := Tenure.startsOver_revives Shop.isMap holds.tenure
    (Shop.restoreOf_staysAside _) (Shop.restoreOf_requests _ _) (by decide +kernel) (by decide) run
  exact ⟨answer, after, xs, run, only⟩

/-- A shop whose fleets have nothing in common rolls back to a deployment with a
service that is running, and calls for a start over it. -/
theorem Shop.rollback_startsOver :
    ∃ previous : History, Shop.Holds (fun _ names => names.Nodup) previous Shop.split ∧
      ∃ answer after xs, Shop.restored ["shop_web_1"] Shop.split = (.ok answer, after) ∧
        after.own = Shop.split.own ++ xs ∧
        Shop.engine.watched.StartsOver (fun s => Shop.containers s.world) "shop_db_1" Shop.split
          xs := by
  obtain ⟨previous, holds, revives, answer, after, run⟩ := Shop.split_revives
  have remembers := (holds.tenure.remembersOnly (P := List.Nodup) Shop.isMap.watched
    fun _ _ distinct _ => distinct).2
  have aside := Shop.restoreOf_staysAside ["shop_web_1"]
  have planned := Shop.restoreOf_requests ["shop_web_1"] Shop.split
  obtain ⟨phases, calls, makes, _, all⟩ := Call.startsOver_of_distinct Shop.isMap.watched
    (aside.map Prod.fst) planned (by decide)
    (fun history read => remembers.carried (by decide +kernel) read) run
  exact ⟨previous, holds, answer, after, phases.all, run,
    Call.own_eq (aside.map Prod.snd) planned calls makes, all (by decide) rfl "shop_db_1" revives⟩

end ComposeDeploy
