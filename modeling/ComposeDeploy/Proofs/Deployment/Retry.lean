import ComposeDeploy.Proofs.Deployment.Survival

/-!
A refused removal can be made good by another try.

What a call does is decided by what it captures, the images that are found and
the history that is read. So the same call made again on the repaired engine
takes the turn that it could not finish (`Change.Resolves.again`), and removing
what is left of the old containers ends where removing all of them would have
ended. `Call.removalFailure_retries` says so for every call on a running
application, as long as a captured container is left to read the history from:
if the engine refuses to remove a container that only the old deployment ran,
all captured ones are gone and the second try starts a new history.
-/

namespace ComposeDeploy

variable {W : Type}

/-! ### The same at another time -/

def Turn.remadeAt (turn : Turn) (now : String) : Turn :=
  { turn with manifest := turn.manifest.remadeAt now }

def Intent.remadeAt (intent : Intent) (now : String) : Intent :=
  { intent with turn := fun history => (intent.turn history).map (·.remadeAt now) }

/-- The same call made again at another time. -/
def Call.remadeAt (call : Call W) (now : String) : Call W :=
  { call with now }

theorem Intent.toDeploy_remadeAt (now later : String) (options : Rollout)
    (services : List Service) :
    (toDeploy now options services).remadeAt later = toDeploy later options services := rfl

theorem Intent.toRestore_remadeAt (now later : String) (options : Restoration)
    (requests : List CreateRequest) :
    (toRestore now options requests).remadeAt later = toRestore later options requests := by
  unfold toRestore Intent.remadeAt
  congr 1
  funext history
  dsimp only
  cases history.restoration options.index <;> rfl

/-! ### The same images -/

section Again

variable {engine faulty : Engine W} {containers : W → Containers}
  {images : W → String → Option String} (repairs : engine.Repairs faulty containers images)
  {w after v later : W} (same : images v = images w)
include repairs same

/-- Requests that a faulty engine has pinned are pinned to the same images
again. -/
theorem Pins.again {requests : List CreateRequest} {xs ys : List Exchange}
    {services : List Service} {result : Except Error (List Service)}
    (pins : Pins requests xs (.ok services)) (calls : faulty.Calls w xs after)
    (pins' : Pins requests ys result) (calls' : engine.Calls v ys later) :
    result = .ok services := by
  generalize outcome : Except.ok services = expected at pins
  induction pins generalizing w v services ys result with
  | nil =>
    cases outcome
    cases pins'
    rfl
  | refused => cases outcome
  | unresolved => cases outcome
  | @more request rest configuration reference id xs expected wanted _ ih =>
    cases expected with
    | error e => cases outcome
    | ok others =>
      cases outcome
      cases calls with
      | cons made calls =>
        have known : images v reference = some id := by
          rw [same]
          exact repairs.faultyFinds.found made
        cases pins' with
        | refused refused =>
          rw [wanted] at refused
          cases refused
        | unresolved wanted' =>
          rw [wanted] at wanted'
          cases wanted'
          cases calls' with
          | cons made' _ =>
            rw [repairs.findsAll made'] at known
            cases known
        | @more _ _ configuration' reference' id' _ result wanted' pins' =>
          rw [wanted] at wanted'
          cases wanted'
          cases calls' with
          | cons made' calls' =>
            rw [repairs.finds.found made'] at known
            cases known
            have unchanged := (repairs.finds.kept made').trans
              (same.trans (repairs.faultyFinds.kept made).symm)
            rw [ih unchanged calls pins' calls' rfl]

/-- A call whose images a faulty engine has found comes to the same intent
again. -/
theorem Change.Resolves.again {now anew : String} {change : Change}
    {requests : List CreateRequest} {xs ys : List Exchange} {intent : Intent}
    {result : Except Error Intent}
    (resolves : change.Resolves now requests xs (.ok intent)) (calls : faulty.Calls w xs after)
    (resolves' : change.Resolves anew requests ys result) (calls' : engine.Calls v ys later) :
    result = .ok (intent.remadeAt anew) := by
  generalize outcome : Except.ok intent = expected at resolves
  cases resolves with
  | @deploy options _ services pins =>
    cases services with
    | error e => cases outcome
    | ok services =>
      cases outcome
      cases resolves' with
      | deploy pins' =>
        rw [pins.again repairs same calls pins' calls', Intent.toDeploy_remadeAt]
        rfl
  | rollback =>
    cases outcome
    cases resolves' with
    | rollback => rw [Intent.toRestore_remadeAt]

end Again

/-! ### The same call -/

/-- A call captures the same requests in every world, and its planner keeps a
view of the world. -/
structure Call.Captures {α : Type} (call : Call W) (engine : Engine W) (view : W → α)
    (requests : List CreateRequest) : Prop where
  aside : (call.planner engine).Keeps view
  always : ∀ w, ((call.plan engine).on w).1 = .ok requests

theorem Call.Captures.plan {α : Type} {call : Call W} {engine : Engine W} {view : W → α}
    {requests : List CreateRequest} (captures : call.Captures engine view requests) (w : W) :
    ∃ between, (call.plan engine).on w = (.ok requests, between) ∧ view between = view w := by
  rcases planned : (call.plan engine).on w with ⟨captured, between⟩
  have told := captures.always w
  rw [planned] at told
  cases told
  exact ⟨between, rfl, Call.plan_kept captures.aside planned⟩

/-- Whenever the images are there that a faulty engine has found, the repaired
engine takes the turn to which the call came then. -/
theorem Call.retakes (limit : Option Nat) {engine faulty : Engine W} {containers : W → Containers}
    {images : W → String → Option String} (repairs : engine.Repairs faulty containers images)
    {call : Call W} {requests : List CreateRequest}
    (captures : call.Captures engine (fun w => (containers w, images w)) requests)
    {w after v : W} (same : images v = images w) {xs : List Exchange} {intent : Intent}
    (resolves : call.change.Resolves call.now requests xs (.ok intent))
    (calls : faulty.Calls w xs after) {history : History}
    (read : (containers v).carried (requests.map CreateRequest.name) = .ok history) {turn : Turn}
    (chosen : intent.turn history = .ok turn) (anew : String) :
    (((call.remadeAt anew).perform limit engine).on v).1 = .ok turn.answer ∧
      containers (((call.remadeAt anew).perform limit engine).on v).2 =
        ((containers v).without turn.old).broughtUp
          (history.push (turn.manifest.remadeAt anew) limit) := by
  rcases run : ((call.remadeAt anew).perform limit engine).on v with ⟨result, later⟩
  obtain ⟨captured, middle, phases, planned, calls', makes⟩ :=
    ((call.remadeAt anew).setup limit).change_cases run
  obtain ⟨between, planned', kept⟩ := captures.plan v
  have planned : (call.plan engine).on v = (captured, middle) := planned
  rw [planned'] at planned
  cases planned
  obtain ⟨sameContainers, sameImages⟩ := Prod.mk.inj kept
  obtain ⟨_, resolved, carried⟩ := calls'.split
  cases makes with
  | unresolved resolves' =>
    have found := resolves.again repairs (sameImages.trans same) calls resolves' resolved
    cases found
  | @carriedOut _ _ intent' _ _ _ _ resolves' carries =>
    have found := resolves.again repairs (sameImages.trans same) calls resolves' resolved
    cases found
    have unchanged := (repairs.isMap.askingIsHarmless.calls resolved
      resolves'.changesNothing).trans sameContainers
    have chosen : (intent.remadeAt anew).turn history = .ok (turn.remadeAt anew) := by
      show (intent.turn history).map _ = _
      rw [chosen]
      rfl
    rw [← resolves'.complete.2, ← unchanged] at read
    obtain ⟨answered, left⟩ := carries.isDone repairs.isMap repairs.isFaultless carried read chosen
    rw [unchanged] at left
    exact ⟨answered, left⟩

/-! ### Two tries -/

/-- A call that replaces the deployment `history` of an application ends alike
from two worlds: with the same answer and the same containers, which run the
deployment `installed` and nothing of the old one. -/
structure Call.EndsAlike (call : Call W) (engine : Engine W) (limit : Option Nat)
    (containers : W → Containers) (own : String → Prop) (history installed : History)
    (answer : Answer) (w v : W) : Prop where
  first : ((call.perform limit engine).on w).1 = .ok answer
  second : ((call.perform limit engine).on v).1 = .ok answer
  same : containers ((call.perform limit engine).on v).2 =
    containers ((call.perform limit engine).on w).2
  running : installed.IsRunning own (containers ((call.perform limit engine).on v).2)
  cleared : ∀ name ∈ history.activeNames, name ∉ installed.activeNames →
    containers ((call.perform limit engine).on v).2 name = none

/-- A change whose last call is a refused removal is stuck there. -/
theorem Turn.Leaves.stuck_of_last {turn : Turn} {next : History} {before after : Containers}
    {phases : Phases} {e : Error} {name : String}
    (leaves : turn.Leaves next before phases.removals phases.starts (.error e) after)
    (last : phases.all.getLast? = some (.remove name (.error e))) :
    ∃ gone left, turn.old = gone ++ name :: left ∧ after = before.without gone := by
  rcases leaves.failed with ⟨gone, other, left, old, idle, removal, rfl⟩ | ⟨_, _, _, _, _, start, _⟩
  · rw [Phases.getLast?_of_removals idle removal] at last
    cases last
    exact ⟨gone, left, old, rfl⟩
  · rw [Phases.getLast?_of_starts start] at last
    cases last

/-- A call whose last exchange is a refused removal has chosen a turn and removed
the containers before that one. -/
theorem Call.stuck_of_last {engine : Engine W} {limit : Option Nat} {containers : W → Containers}
    (isMap : engine.IsMap containers) {call : Call (Watched W)}
    (aside : (call.planner engine.watched).Keeps fun s => (containers s.world, s.own))
    {s after : Watched W} {e : Error}
    (failed : (call.perform limit engine.watched).on s = (.error e, after))
    {xs : List Exchange} (said : after.own = s.own ++ xs) {name : String}
    (refused : xs.getLast? = some (.remove name (.error e))) :
    ∃ requests between resolutions middle intent history turn gone rest,
      (call.plan engine.watched).on s = (.ok requests, between) ∧
        engine.watched.Calls between resolutions middle ∧
        engine.watched.Calls between xs after ∧
        call.change.Resolves call.now requests resolutions (.ok intent) ∧
        (containers s.world).carried (requests.map CreateRequest.name) = .ok history ∧
        intent.turn history = .ok turn ∧ turn.old = gone ++ name :: rest ∧
        containers after.world = (containers s.world).without gone := by
  obtain ⟨captured, between, phases, planned, calls, makes, leaves⟩ :=
    Call.leaves isMap.watched (aside.map Prod.fst) failed
  rw [Call.own_eq (aside.map Prod.snd) planned calls makes] at said
  cases List.append_cancel_left said
  rcases leaves with ⟨_, _, noRemovals, noStarts, _⟩ |
    ⟨requests, intent, history, turn, rfl, resolves, read, chosen, leaves⟩
  · -- A refused removal is none of the questions.
    have last := List.mem_of_getLast? refused
    simp only [Phases.all, noRemovals, noStarts, List.append_nil] at last
    have asks := (makes.asks _ last).1
    cases asks
  · obtain ⟨middle, resolved, _⟩ := calls.split
    obtain ⟨gone, rest, old, remains⟩ := leaves.stuck_of_last refused
    rw [resolves.complete.2] at read
    exact ⟨requests, between, phases.resolutions, middle, intent, history, turn, gone, rest,
      planned, resolved, calls, resolves, read, chosen, old, remains⟩

/-- If a removal is refused while a call replaces the deployment of a running
application and a captured container is left, making the call again without
faults ends as if there had been no fault at the first try. -/
theorem Call.removalFailure_retries {engine faulty : Engine W} {limit : Option Nat}
    {containers : W → Containers} {images : W → String → Option String}
    (repairs : engine.Repairs faulty containers images) {call : Call (Watched W)}
    {requests : List CreateRequest}
    (captures : call.Captures faulty.watched
      (fun s => ((containers s.world, s.own), images s.world)) requests)
    (recaptures : call.Captures engine.watched
      (fun s => (containers s.world, images s.world)) requests)
    {history : History} {own : String → Prop} {s after : Watched W}
    (running : history.IsRunning own (containers s.world))
    (isOwn : ∀ name ∈ requests.map CreateRequest.name, own name)
    (meets : ∃ name ∈ requests.map CreateRequest.name, name ∈ history.activeNames) {e : Error}
    (failed : (call.perform limit faulty.watched).on s = (.error e, after))
    {xs : List Exchange} (said : after.own = s.own ++ xs) {name : String}
    (refused : xs.getLast? = some (.remove name (.error e)))
    (left : ∃ name ∈ requests.map CreateRequest.name, containers after.world name ≠ none) :
    ∃ (manifest : Manifest) (answer : Answer), ∀ now,
      (call.remadeAt now).EndsAlike engine.watched limit (fun s => containers s.world) own history
        (history.push (manifest.remadeAt now) limit) answer s after := by
  have read := running.carried isOwn meets
  obtain ⟨captured, middle, _, _, intent, _, turn, gone, rest, planned, resolved, calls, resolves,
    read', chosen, old, remains⟩ := Call.stuck_of_last repairs.faultyIsMap
      (captures.aside.map Prod.fst) failed said refused
  obtain ⟨between, planned', kept⟩ := captures.plan s
  rw [planned'] at planned
  cases planned
  rw [read] at read'
  cases read'
  obtain ⟨covers, _⟩ := resolves.covers chosen
  have among : ∀ name ∈ gone, name ∈ turn.old := by
    intro name earlier
    rw [old]
    exact List.mem_append_left _ earlier
  have sameImages : images s.world = images middle.world := (congrArg Prod.snd kept).symm
  have stillSame : images after.world = images middle.world :=
    repairs.watched.faultyFinds.calls calls
  rw [remains] at left
  have reread := running.carried_without isOwn left
  rw [← remains] at reread
  -- With or without the interrupted try, the repaired engine takes the turn chosen then.
  refine ⟨turn.manifest, turn.answer, fun now => ?_⟩
  obtain ⟨first, ends⟩ :=
    Call.retakes limit repairs.watched recaptures sameImages resolves resolved read chosen now
  obtain ⟨second, endsAgain⟩ :=
    Call.retakes limit repairs.watched recaptures stillSame resolves resolved reread chosen now
  rw [remains, Containers.without_without among] at endsAgain
  constructor
  · exact first
  · exact second
  · exact endsAgain.trans ends.symm
  · rw [endsAgain]
    exact running.replaced covers _
  · intro name active inactive
    rw [endsAgain, Containers.broughtUp_of_notMem inactive, Containers.without,
      if_pos (covers name active)]

/-! ### A container that is busy -/

deriving instance DecidableEq for Exchange

namespace Shop

/-- An engine that cannot remove one container. -/
def irremovable (name : String) : Engine World :=
  failing { Faults.none with remove := .ofList [(name, "device or resource busy")] }

theorem repairs_irremovable (name : String) :
    engine.Repairs (irremovable name) containers images :=
  ModelEngine.repairs _ "shop"

theorem deployOf_captures {α : Type} (names : List String) (engine : Engine (Watched World))
    (view : Watched World → α) :
    (deployOf names).Captures engine view
      (names.map fun name => ⟨name, "\x7b\"Image\":\"nginx\"\x7d".toUTF8⟩) where
  aside := Planner.reporting_keeps _
  always _ := rfl

end Shop

theorem Call.removalFailure_retries_shop :
    ∃ (manifest : Manifest) (answer : Answer), ∀ now,
      ((Shop.deployOf ["db", "web"]).remadeAt now).EndsAlike Shop.engine.watched (some 2)
        (fun s => Shop.containers s.world) (· ∈ ["db", "web"]) (Shop.once ["db", "web"])
        ((Shop.once ["db", "web"]).push (manifest.remadeAt now) (some 2)) answer
        (Shop.running (Shop.once ["db", "web"]))
        (Shop.attempt (Shop.irremovable "web") ["db", "web"] (Shop.once ["db", "web"])).2 := by
  obtain ⟨failed, refused, left⟩ :
      (Shop.attempt (Shop.irremovable "web") ["db", "web"] (Shop.once ["db", "web"])).1 =
          .error (.removal "web" "device or resource busy") ∧
        (Shop.attempt (Shop.irremovable "web") ["db", "web"]
          (Shop.once ["db", "web"])).2.own.getLast? =
            some (.remove "web" (.error (.removal "web" "device or resource busy"))) ∧
        Shop.containers (Shop.attempt (Shop.irremovable "web") ["db", "web"]
          (Shop.once ["db", "web"])).2.world "web" ≠ none := by
    decide +kernel
  rcases run : Shop.attempt (Shop.irremovable "web") ["db", "web"] (Shop.once ["db", "web"])
    with ⟨result, after⟩
  rw [run] at failed refused left
  cases failed
  have there : ∃ name ∈ ["db", "web"], Shop.containers after.world name ≠ none :=
    ⟨"web", List.mem_cons_of_mem _ List.mem_cons_self, left⟩
  exact Call.removalFailure_retries (Shop.repairs_irremovable "web")
    (Shop.deployOf_captures _ _ _) (Shop.deployOf_captures _ _ _) (Shop.running_isRunning _ _)
    (fun _ captured => captured) ⟨"db", List.mem_cons_self, List.mem_cons_self⟩ run rfl refused
    there

/-- If the container that only the old deployment ran cannot be removed, the
second try knows nothing of the first and leaves that container where it is. -/
theorem Shop.orphanRefused_forgets :
    (Shop.once ["web", "db"]).IsRunning (· ∈ ["web", "db"])
        (Shop.containers (Shop.running (Shop.once ["web", "db"])).world) ∧
      "web" ∈ (Shop.once ["web", "db"]).activeNames ∧
      (Shop.attempt (Shop.irremovable "db") ["web"] (Shop.once ["web", "db"])).1 =
        .error (.removal "db" "device or resource busy") ∧
      (Shop.attempt (Shop.irremovable "db") ["web"] (Shop.once ["web", "db"])).2.own.getLast? =
        some (.remove "db" (.error (.removal "db" "device or resource busy"))) ∧
      Shop.containers (Shop.attempt (Shop.irremovable "db") ["web"]
        (Shop.once ["web", "db"])).2.world "db" ≠ none ∧
      ¬ ∃ (manifest : Manifest) (answer : Answer), ∀ now,
        ((Shop.deployOf ["web"]).remadeAt now).EndsAlike Shop.engine.watched (some 2)
          (fun s => Shop.containers s.world) (· ∈ ["web", "db"]) (Shop.once ["web", "db"])
          ((Shop.once ["web", "db"]).push (manifest.remadeAt now) (some 2)) answer
          (Shop.running (Shop.once ["web", "db"]))
          (Shop.attempt (Shop.irremovable "db") ["web"] (Shop.once ["web", "db"])).2 := by
  obtain ⟨failed, refused, left⟩ :
      (Shop.attempt (Shop.irremovable "db") ["web"] (Shop.once ["web", "db"])).1 =
          .error (.removal "db" "device or resource busy") ∧
        (Shop.attempt (Shop.irremovable "db") ["web"] (Shop.once ["web", "db"])).2.own.getLast? =
          some (.remove "db" (.error (.removal "db" "device or resource busy"))) ∧
        Shop.containers (Shop.attempt (Shop.irremovable "db") ["web"]
          (Shop.once ["web", "db"])).2.world "db" ≠ none := by
    decide +kernel
  refine ⟨Shop.running_isRunning _ _, List.mem_cons_self, failed, refused, left, ?_⟩
  rintro ⟨manifest, answer, alike⟩
  have same := congrFun (alike "").same "db"
  have removed : Shop.containers ((((Shop.deployOf ["web"]).remadeAt "").perform (some 2)
      Shop.engine.watched).on (Shop.running (Shop.once ["web", "db"]))).2.world "db" = none := by
    decide +kernel
  have stays : Shop.containers ((((Shop.deployOf ["web"]).remadeAt "").perform (some 2)
      Shop.engine.watched).on (Shop.attempt (Shop.irremovable "db") ["web"]
        (Shop.once ["web", "db"])).2).2.world "db" ≠ none := by
    decide +kernel
  exact stays (same.trans removed)

end ComposeDeploy
