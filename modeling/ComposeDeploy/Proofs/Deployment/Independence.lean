import ComposeDeploy.Deployment.Fleet
import ComposeDeploy.Proofs.Deployment.Models
import ComposeDeploy.Proofs.Deployment.Reach

/-!
Engines that take turns behind one server.

Each turn serves the same capturing server anew and stops it again, whatever
happens in between, so a turn leaves of the server no more than it found
(`Planner.ofServer_collect_keeps`). Other engines are not called, so a turn is
decided by what its own engine was at the beginning, and what becomes of each
engine is what would have become of it alone (`runAll_independent`).
-/

namespace ComposeDeploy

variable {W α β : Type}

/-- An action keeps what neither its planning nor a call to its engine changes. -/
theorem Setup.perform_keeps (setup : Setup W) {engine : Engine W} {view : W → α}
    {action : Action} (plans : (setup.captures engine action).Keeps view)
    (keeps : engine.Keeps view) : (setup.perform action engine).Keeps view := by
  intro w
  rcases run : (setup.perform action engine).on w with ⟨result, after⟩
  obtain ⟨captured, between, xs, makes⟩ := setup.perform_calls run
  have kept := plans w
  rw [makes.planned] at kept
  exact (makes.calls.keeps fun _ _ _ _ made => keeps made).trans kept

/-! ### One turn at the server -/

namespace Capture.Server

theorem address_receive {builder : Builder W} (connects : Bool) (request : Http.Request)
    (server : Server) (w : W) :
    (server.receive connects builder request w).1.2.address = server.address := by
  unfold receive
  split
  · rfl
  · split <;> rfl

theorem address_serve (bindFailure : Option String) (skipBuilds : Bool) (server : Server) :
    (server.serve bindFailure skipBuilds).2.address = server.address := by
  unfold serve
  split
  · rfl
  · split <;> rfl

/-- A server that fails to serve is left alone. -/
theorem serve_cases (bindFailure : Option String) (skipBuilds : Bool) (server : Server) :
    (∃ e, server.serve bindFailure skipBuilds = (.error e, server)) ∨
      server.running = false ∧ bindFailure = none ∧
        ∃ after, server.serve bindFailure skipBuilds = (.ok (), after) := by
  unfold serve
  cases running : server.running with
  | true => exact .inl ⟨_, rfl⟩
  | false =>
    cases bindFailure with
    | some reason => exact .inl ⟨_, rfl⟩
    | none => exact .inr ⟨rfl, rfl, _, rfl⟩

theorem lasting_of_idle {bindFailure : String → Option String} {server : Server}
    (idle : server.running = false) (free : bindFailure server.address = none) :
    server.lasting bindFailure = ⟨server.address, false, none⟩ := by
  simp only [lasting, idle, free, Option.isSome_none, Bool.or_self, Bool.false_eq_true, if_false]

end Capture.Server

namespace Planner

variable {place : Place W} (found : ∀ server w, place.get (place.set server w) = server)
  (connects : Bool) (bindFailure : String → Option String) (binary : String)
  (launch : Invocation → Except String Script) (engine : Engine W)
include found

/-- The server stays at its address. -/
theorem ofServer_keeps_address :
    (ofServer place connects bindFailure binary launch engine).Keeps
      fun w => (place.get w).address where
  serve skipBuilds := by
    intro w
    simp only [ofServer, Act.on_of, found, Capture.Server.address_serve]
  compose flags := by
    intro w
    simp only [ofServer, Act.on_of, Invocation.run]
    split
    · rfl
    · next script _ =>
      have exchanged (request : Http.Request) (w : W) :
          (place.get (exchange place connects engine.build request w).2).address =
            (place.get w).address := by
        simp only [exchange, found, Capture.Server.address_receive]
      exact @view_play W String (fun w => (place.get w).address) _ exchanged script w
  stop := by
    intro w
    simp only [ofServer, Act.on_of, found, Capture.Server.stop]
  requests := fun _ => rfl

/-- Once it has served, the server is stopped again. -/
theorem ofServer_collect_stops (flags : UpFlags) {skipBuilds : Bool} {w between : W}
    (served : ((ofServer place connects bindFailure binary launch engine).serve skipBuilds).on w =
      (.ok (), between)) :
    (place.get (((ofServer place connects bindFailure binary launch engine).collect flags
      skipBuilds).on w).2).running = false := by
  unfold collect
  simp only [Act.on_bind, served, Act.on_observe, Act.on_settle]
  rcases ((ofServer place connects bindFailure binary launch engine).compose flags).on between
    with ⟨_ | ⟨⟩, composed⟩
  · simp only [ofServer, Act.on_of, found, Capture.Server.stop]
  · simp only [ofServer, Act.on_of, found, Capture.Server.stop]

/-- After a turn, the next one finds the server as this one did. -/
theorem ofServer_collect_keeps (flags : UpFlags) (skipBuilds : Bool) :
    ((ofServer place connects bindFailure binary launch engine).collect flags skipBuilds).Keeps
      fun w => (place.get w).lasting bindFailure := by
  intro w
  have serving :
      ((ofServer place connects bindFailure binary launch engine).serve skipBuilds).on w =
        (((place.get w).serve (bindFailure (place.get w).address) skipBuilds).1,
          place.set ((place.get w).serve (bindFailure (place.get w).address) skipBuilds).2 w) :=
    rfl
  rcases (place.get w).serve_cases (bindFailure (place.get w).address) skipBuilds with
    ⟨e, refused⟩ | ⟨idle, free, after, served⟩
  · rw [refused] at serving
    simp only [collect, Act.on_bind, serving, found]
  · rw [served] at serving
    have address := (ofServer_keeps_address found connects bindFailure binary launch
      engine).collect flags skipBuilds w
    have stopped :=
      ofServer_collect_stops found connects bindFailure binary launch engine flags serving
    show (place.get _).lasting bindFailure = (place.get w).lasting bindFailure
    rw [Capture.Server.lasting_of_idle idle free,
      Capture.Server.lasting_of_idle stopped (address ▸ free), address]

end Planner

/-! ### Engines in a row -/

section Rows

variable (action : Engine W → Act W Answer)

/-- There is one outcome for each engine, in order and under its name. -/
theorem map_endpoint_runAll (engines : List (Engine W)) (w : W) :
    (runAll action engines w).1.map Outcome.endpoint = engines.map Engine.name := by
  induction engines generalizing w with
  | nil => rfl
  | cons engine rest ih => exact congrArg (engine.name :: ·) (ih _)

theorem runAll_append (engines others : List (Engine W)) (w : W) :
    runAll action (engines ++ others) w =
      ((runAll action engines w).1 ++ (runAll action others (runAll action engines w).2).1,
        (runAll action others (runAll action engines w).2).2) := by
  induction engines generalizing w with
  | nil => rfl
  | cons engine rest ih =>
    simp only [List.cons_append, runAll, ih]

/-- An engine of a row has its outcome at its place, from the world that the
earlier ones leave to it. -/
theorem runAll_at (earlier rest : List (Engine W)) (engine : Engine W) (w : W) :
    (runAll action (earlier ++ engine :: rest) w).1[earlier.length]? =
        some ⟨engine.name, ((action engine).on (runAll action earlier w).2).1⟩ ∧
      (runAll action (earlier ++ engine :: rest) w).2 =
        (runAll action rest ((action engine).on (runAll action earlier w).2).2).2 := by
  have length : (runAll action earlier w).1.length = earlier.length := by
    rw [← List.length_map Outcome.endpoint, map_endpoint_runAll, List.length_map]
  rw [runAll_append, ← length, List.getElem?_append_right (Nat.le_refl _), Nat.sub_self]
  exact ⟨rfl, rfl⟩

/-- What each turn keeps, all turns keep. -/
theorem runAll_keeps {view : W → α} {engines : List (Engine W)}
    (each : ∀ engine ∈ engines, (action engine).Keeps view) (w : W) :
    view (runAll action engines w).2 = view w := by
  induction engines generalizing w with
  | nil => rfl
  | cons engine rest ih =>
    obtain ⟨first, others⟩ := List.forall_mem_cons.mp each
    exact (ih others _).trans (first w)

end Rows

/-! ### Members of a cluster -/

/-- An engine of several, with its part of the world: its containers and all
else that it consists of. -/
structure Member (W S : Type) where
  engine : Engine W
  containers : W → Containers
  others : W → S

namespace Member

variable {S : Type}

/-- All that the engine consists of. -/
def state (member : Member W S) (w : W) : Containers × S :=
  (member.containers w, member.others w)

/-- The engine is decided by its own part of the world, does not mind what
histories say and never touches the server; setting the server does not touch
the engine. -/
structure IsSound (member : Member W S) (place : Planner.Place W) : Prop where
  decided : member.engine.IsDecidedBy member.state
  blind : member.engine.IsBlind member.containers member.others
  aside : member.engine.Keeps place.get
  lawful : place.IsLawful member.state

/-- Neither engine touches the other. -/
def IsApart (member other : Member W S) : Prop :=
  member.engine.Keeps other.state ∧ other.engine.Keeps member.state

end Member

/-- What becomes of an engine in its turn is what becomes of it alone. -/
structure Member.IsAsAlone {S : Type} (member : Member W S) (place : Planner.Place W)
    (setup : Setup W) (action : Action) (now : String) (w turn after : W)
    (result : Except Error Answer) : Prop where
  answer : result = (((setup.atTime now).perform action member.engine).on w).1
  state : member.state after =
    member.state (((setup.atTime now).perform action member.engine).on w).2
  /-- At another time, nothing but the time is different. -/
  anytime : ∀ later, AgreeButTime member.containers member.others setup.historyLimit now later
    (result, after) (((setup.atTime later).perform action member.engine).on w)
  /-- The same calls or errors are captured. -/
  captured : ((setup.captures member.engine action).on turn).1 =
    ((setup.captures member.engine action).on w).1
  /-- The server has the same session, with the same requests, errors and
  inspections. -/
  session : action ≠ .verify → place.get ((setup.captures member.engine action).on turn).2 =
    place.get ((setup.captures member.engine action).on w).2

section Turns

variable {S : Type} {place : Planner.Place W} {connects : Bool}
  {bindFailure : String → Option String} {binary : String}
  {launch : Invocation → Except String Script} {setup : Setup W}
  (plans : setup.planner = Planner.ofServer place connects bindFailure binary launch)
include plans

theorem Member.IsSound.planner_isDecidedBy {member : Member W S} (sound : member.IsSound place) :
    (setup.planner member.engine).IsDecidedBy (place.lasting member.state bindFailure)
      (place.whole member.state) := by
  rw [plans]
  exact Planner.ofServer_isDecidedBy sound.lawful sound.decided connects bindFailure binary launch

/-- A turn is decided by the engine and what lasts of the server. -/
theorem Member.IsSound.perform_isDecided {member : Member W S} (sound : member.IsSound place)
    (action : Action) :
    (setup.perform action member.engine).IsDecided (place.lasting member.state bindFailure)
      (place.lasting member.state bindFailure) := by
  refine setup.perform_isDecided (sound.planner_isDecidedBy plans) ?_ ?_ ?_ action
  · exact sound.decided.beside sound.aside
  · exact sound.decided.beside (sound.aside.map _)
  · intro v w same
    exact place.lasting_of_whole same bindFailure

theorem Member.IsSound.captures_isDecided {member : Member W S} (sound : member.IsSound place)
    {action : Action} (captures : action ≠ .verify) :
    (setup.captures member.engine action).IsDecided (place.lasting member.state bindFailure)
      (place.whole member.state) := by
  have decided := sound.planner_isDecidedBy plans
  cases action with
  | verify => exact absurd rfl captures
  | _ => exact decided.collect _ _

/-- A turn of another engine changes nothing of that. -/
theorem Member.IsSound.perform_keeps {member other : Member W S} (sound : other.IsSound place)
    (sound' : member.IsSound place) (apart : other.engine.Keeps member.state) (action : Action) :
    (setup.perform action other.engine).Keeps (place.lasting member.state bindFailure) := by
  have stateKept : (setup.planner other.engine).Keeps member.state := by
    rw [plans]
    exact Planner.ofServer_keeps sound'.lawful.keeps apart.build connects bindFailure binary launch
  have serverKept : (setup.captures other.engine action).Keeps
      fun w => (place.get w).lasting bindFailure := by
    unfold Setup.captures
    rw [plans]
    have collects := Planner.ofServer_collect_keeps sound'.lawful.get connects bindFailure binary
      launch other.engine
    cases action with
    | verify => exact .pure []
    | _ => exact collects _ _
  apply setup.perform_keeps
  · exact (setup.captures_keeps stateKept action).beside serverKept
  · exact apart.beside (sound.aside.map _)

/-- What becomes of an engine in its turn is what becomes of it alone, if its
turn finds all that decides it. -/
theorem Member.IsSound.isAsAlone {member : Member W S} (sound : member.IsSound place)
    (action : Action) (now : String) {w turn after : W}
    (same : place.lasting member.state bindFailure turn =
      place.lasting member.state bindFailure w)
    (kept : place.lasting member.state bindFailure after =
      place.lasting member.state bindFailure
        (((setup.atTime now).perform action member.engine).on turn).2) :
    member.IsAsAlone place setup action now w turn after
      (((setup.atTime now).perform action member.engine).on turn).1 := by
  have plans' : (setup.atTime now).planner =
      Planner.ofServer place connects bindFailure binary launch := plans
  obtain ⟨answer, alike⟩ := sound.perform_isDecided plans' action same
  have state : member.state after =
      member.state (((setup.atTime now).perform action member.engine).on w).2 :=
    (Prod.mk.inj (kept.trans alike)).1
  refine ⟨answer, state, ?_, ?_, ?_⟩
  · intro later
    obtain ⟨history, manifest, agree⟩ := setup.perform_atTimes sound.blind now later action w
    obtain ⟨containers, others⟩ := Prod.mk.inj state
    refine ⟨history, manifest, answer.trans agree.answer, others.trans agree.others, ?_⟩
    rw [containers]
    exact agree.containers
  · cases action with
    | verify => rfl
    | _ => exact (sound.captures_isDecided plans (by simp) same).1
  · intro captures
    exact (Prod.mk.inj (sound.captures_isDecided plans captures same).2).2

end Turns

/-! ### Main result -/

/-- Engines that take turns behind one server do not influence each other: each
has one outcome, in order and under its name, and result, capture and final state
of each are those that it has alone. -/
theorem runAll_independent {S : Type} {place : Planner.Place W} {members : List (Member W S)}
    (sound : ∀ member ∈ members, member.IsSound place)
    (apart : members.Pairwise Member.IsApart) {connects : Bool}
    {bindFailure : String → Option String} {binary : String}
    {launch : Invocation → Except String Script} {setup : Setup W}
    (plans : setup.planner = Planner.ofServer place connects bindFailure binary launch)
    (clock : Engine W → String) (action : Action) (w : W) :
    let turns := runAll fun engine => (setup.atTime (clock engine)).perform action engine
    (turns (members.map Member.engine) w).1.map Outcome.endpoint =
        members.map (fun member => member.engine.name) ∧
      ∀ earlier member rest, members = earlier ++ member :: rest → ∃ result,
        (turns (members.map Member.engine) w).1[earlier.length]? =
            some ⟨member.engine.name, result⟩ ∧
          member.IsAsAlone place setup action (clock member.engine) w
            (turns (earlier.map Member.engine) w).2 (turns (members.map Member.engine) w).2
            result := by
  intro turns
  constructor
  · rw [map_endpoint_runAll, List.map_map]
    rfl
  rintro earlier member rest rfl
  have memberSound := sound member (by simp)
  obtain ⟨_, later, before⟩ := List.pairwise_append.mp apart
  obtain ⟨later, _⟩ := List.pairwise_cons.mp later
  -- The turns of the others keep what decides this one.
  have keeps (others : List (Member W S)) (sounds : ∀ other ∈ others, other.IsSound place)
      (aparts : ∀ other ∈ others, other.engine.Keeps member.state) (v : W) :
      place.lasting member.state bindFailure (turns (others.map Member.engine) v).2 =
        place.lasting member.state bindFailure v := by
    apply runAll_keeps
    intro engine named
    obtain ⟨other, listed, rfl⟩ := List.mem_map.mp named
    have plans' : (setup.atTime (clock other.engine)).planner =
        Planner.ofServer place connects bindFailure binary launch := plans
    exact (sounds other listed).perform_keeps plans' memberSound (aparts other listed) action
  have same := keeps earlier (fun other listed => sound other (by simp [listed]))
    (fun other listed => (before other listed member List.mem_cons_self).1) w
  have kept := keeps rest (fun other listed => sound other (by simp [listed]))
    (fun other listed => (later other listed).2)
  have row := runAll_at (fun engine => (setup.atTime (clock engine)).perform action engine)
    (earlier.map Member.engine) (rest.map Member.engine) member.engine w
  rw [← List.map_cons, ← List.map_append, List.length_map] at row
  refine ⟨_, row.1, memberSound.isAsAlone plans action _ same ?_⟩
  rw [row.2]
  exact kept _

/-! ### Models -/

namespace ModelEngine

/-- A model as a member of a cluster. -/
def member (name : String) (place : Place W) : Member W ModelEngine where
  engine := engine name place
  containers := place.containers
  others w := (place.get w).bare

/-- A model that stands apart from the server is a sound member of a cluster. -/
theorem member_isSound {place : Place W} (isExact : place.IsExact) (name : String)
    {server : Planner.Place W} (aside : (engine name place).Keeps server.get)
    (found : ∀ s w, server.get (server.set s w) = s)
    (kept : ∀ s w, place.get (server.set s w) = place.get w) :
    (member name place).IsSound server where
  decided := isDecidedBy isExact name
  blind := isBlind isExact name
  aside := aside
  lawful := ⟨found, fun s w => by simp only [Member.state, member, Place.containers, kept]⟩

end ModelEngine

/-! ### Two models -/

namespace Twins

/-- Two models and a server. -/
abbrev World := ModelEngine × ModelEngine × Capture.Server

def left : ModelEngine.Place World where
  get w := w.1
  set e w := (e, w.2)
  note _ w := w

def right : ModelEngine.Place World where
  get w := w.2.1
  set e w := (w.1, e, w.2.2)
  note _ w := w

def place : Planner.Place World where
  get w := w.2.2
  set server w := (w.1, w.2.1, server)

def members : List (Member World ModelEngine) :=
  [ModelEngine.member "left" left, ModelEngine.member "right" right]

theorem members_areSound : ∀ member ∈ members, member.IsSound place := by
  have leftSound : (ModelEngine.member "left" left).IsSound place :=
    ModelEngine.member_isSound ⟨fun _ _ => rfl, fun _ _ => rfl⟩ "left"
      (ModelEngine.keeps "left" (fun _ _ => rfl) fun _ _ => rfl) (fun _ _ => rfl) fun _ _ => rfl
  have rightSound : (ModelEngine.member "right" right).IsSound place :=
    ModelEngine.member_isSound ⟨fun _ _ => rfl, fun _ _ => rfl⟩ "right"
      (ModelEngine.keeps "right" (fun _ _ => rfl) fun _ _ => rfl) (fun _ _ => rfl) fun _ _ => rfl
  exact List.forall_mem_cons.mpr ⟨leftSound, List.forall_mem_singleton.mpr rightSound⟩

theorem members_areApart : members.Pairwise Member.IsApart := by
  have apart : (ModelEngine.member "left" left).IsApart (ModelEngine.member "right" right) :=
    ⟨ModelEngine.keeps "left" (fun _ _ => rfl) fun _ _ => rfl,
      ModelEngine.keeps "right" (fun _ _ => rfl) fun _ _ => rfl⟩
  exact List.pairwise_pair.mpr apart

/-- A model that knows one image. -/
def model (name : String) (faults : Faults) : ModelEngine where
  name
  version := "24.0.7"
  images := .ofList [("web", "sha256:1")]
  containers := .empty
  faults

/-- The left model cannot start the container, the right one can. -/
def start : World :=
  (model "left" { Faults.none with start := .ofList [("web", "no space left on device")] },
    model "right" .none, .atAddress "127.0.0.1:4100")

/-- The compose tool creates one container. -/
def launch (_ : Invocation) : Except String Script :=
  .ok <| .ofRequests [.of "POST" "/v1.18/containers/create?name=web"
    (.bytes "\x7b\"Image\":\"web\"\x7d".toUTF8)] 0

def setup : Setup World :=
  ⟨Planner.ofServer place true (fun _ => none) "compose" launch, some 5, ""⟩

theorem setup_planner :
    setup.planner = Planner.ofServer place true (fun _ => none) "compose" launch := rfl

def clock (engine : Engine World) : String :=
  if engine.name = "left" then "2024-05-01T00:00:00Z" else "2024-05-01T00:01:00Z"

def deploy : Action :=
  .deploy ⟨⟨none, none⟩, "", false⟩

/-- The turns of these engines. -/
def turns (engines : List (Engine World)) : List Outcome × World :=
  runAll (fun engine => (setup.atTime (clock engine)).perform deploy engine) engines start

end Twins

/-- The right model is deployed to as if the left one had not failed before. -/
theorem runAll_independent_twins :
    (Twins.turns (Twins.members.map Member.engine)).1.map
        (fun outcome => (outcome.endpoint, outcome.result.isOk)) =
      [("left", false), ("right", true)] ∧
    ∃ result,
      (Twins.turns (Twins.members.map Member.engine)).1[1]? = some ⟨"right", result⟩ ∧
        (ModelEngine.member "right" Twins.right).IsAsAlone Twins.place Twins.setup Twins.deploy
          "2024-05-01T00:01:00Z" Twins.start (Twins.turns [ModelEngine.engine "left" Twins.left]).2
          (Twins.turns (Twins.members.map Member.engine)).2 result := by
  refine ⟨by decide +kernel, ?_⟩
  exact (runAll_independent Twins.members_areSound Twins.members_areApart
    Twins.setup_planner Twins.clock Twins.deploy Twins.start).2
      [ModelEngine.member "left" Twins.left] (ModelEngine.member "right" Twins.right) [] rfl

end ComposeDeploy
