import ComposeDeploy.Proofs.Capture.Builds
import ComposeDeploy.Proofs.Deployment.Decision
import ComposeDeploy.Proofs.Deployment.Phases
import ComposeDeploy.Proofs.Deployment.Reach

/-!
What planning says to the engine.

While the compose tool runs, the engine is called for builds alone, and for none
when builds are disabled (`Planner.ofServer_collect_onlyBuilds`). An action makes
no builds of its own, so one that disables them causes none, whatever the tool
sends (`Setup.perform_noBuilds`).
-/

namespace ComposeDeploy

variable {W : Type}

/-! ### Builds alone -/

/-- In between, the engine was called for builds alone, and not at all if they
are disabled. -/
def Watched.OnlyBuilds (skipBuilds : Bool) (s after : Watched W) : Prop :=
  ∃ xs, after.log = s.log ++ xs ∧ ∀ x ∈ xs, skipBuilds = false ∧ x.isBuild = true

namespace Watched.OnlyBuilds

variable {skipBuilds : Bool} {s between after : Watched W}

theorem of_log_eq (same : after.log = s.log) : OnlyBuilds skipBuilds s after :=
  ⟨[], by rw [same, List.append_nil], List.forall_mem_nil _⟩

theorem trans (first : OnlyBuilds skipBuilds s between)
    (second : OnlyBuilds skipBuilds between after) : OnlyBuilds skipBuilds s after := by
  obtain ⟨xs, grown, builds⟩ := first
  obtain ⟨ys, grownOn, buildsOn⟩ := second
  refine ⟨xs ++ ys, ?_, List.forall_mem_append.mpr ⟨builds, buildsOn⟩⟩
  rw [grownOn, grown, List.append_assoc]

/-- While builds are disabled, the engine is not called. -/
theorem log_eq (only : OnlyBuilds true s after) : after.log = s.log := by
  obtain ⟨xs, grown, builds⟩ := only
  have none : xs = [] :=
    List.eq_nil_iff_forall_not_mem.mpr fun x member => nomatch (builds x member).1
  rw [grown, none, List.append_nil]

end Watched.OnlyBuilds

/-! ### The capturing server -/

namespace Capture

/-- Only builds are asked for. -/
theorem AskInTurn.isBuild {requests : List Http.Request} {xs : List Exchange}
    (asked : AskInTurn requests (xs.map Exchange.call)) : ∀ x ∈ xs, x.isBuild = true := by
  generalize called : xs.map Exchange.call = calls at asked
  induction asked generalizing xs with
  | nil =>
    rw [List.map_eq_nil_iff.mp called]
    exact List.forall_mem_nil _
  | build _ _ ih =>
    obtain ⟨x, rest, rfl, call, others⟩ := List.map_eq_cons_iff.mp called
    refine List.forall_mem_cons.mpr ⟨?_, ih others⟩
    cases x with
    | build => rfl
    | _ => cases call
  | other _ _ ih => exact ih called

/-- The session of the server, if there is one, treats builds so. -/
def Server.Treats (skipBuilds : Bool) (server : Server) : Prop :=
  ∀ session, server.session = some session → session.skipBuilds = skipBuilds

variable (engine : Engine W) {skipBuilds : Bool}

theorem handle_onlyBuilds (request : Http.Request) (record : Record) (s : Watched W) :
    s.OnlyBuilds skipBuilds (handle engine.watched.build skipBuilds request record s).2 := by
  cases skipBuilds with
  | true =>
    refine .of_log_eq ?_
    rw [world_handle_of_forwarded?_eq_none _ (forwarded?_disabled request)]
  | false =>
    obtain ⟨xs, grown, asked⟩ := log_handleAll engine record s [request]
    exact ⟨xs, grown, fun x member => ⟨rfl, asked.isBuild x member⟩⟩

/-- Answering a request calls the engine for builds alone and leaves it at
that. -/
theorem Server.receive_onlyBuilds {server : Server} (treats : server.Treats skipBuilds)
    (connects : Bool) (request : Http.Request) (s : Watched W) :
    s.OnlyBuilds skipBuilds (server.receive connects engine.watched.build request s).2 ∧
      (server.receive connects engine.watched.build request s).1.2.Treats skipBuilds := by
  unfold receive
  cases current : server.session with
  | none => exact ⟨.of_log_eq rfl, treats⟩
  | some session =>
    simp only
    split
    · rw [treats session current]
      refine ⟨handle_onlyBuilds engine request session.record s, ?_⟩
      rintro _ ⟨⟩
      rfl
    · exact ⟨.of_log_eq rfl, treats⟩

/-- A server that has begun to serve treats builds as it was told. -/
theorem Server.serve_treats {bindFailure : Option String} {server after : Server}
    (served : server.serve bindFailure skipBuilds = (.ok (), after)) :
    after.Treats skipBuilds := by
  unfold serve at served
  split at served
  · cases served
  · split at served
    · cases served
    · cases served
      rintro _ ⟨⟩
      rfl

end Capture

/-! ### Planning -/

namespace Planner

variable {place : Place (Watched W)} (lawful : place.IsLawful Watched.log) (connects : Bool)
  (bindFailure : String → Option String) (binary : String)
  (launch : Invocation → Except String Script) (engine : Engine W) {skipBuilds : Bool}
include lawful

theorem exchange_onlyBuilds (request : Http.Request) {s : Watched W}
    (treats : (place.get s).Treats skipBuilds) :
    s.OnlyBuilds skipBuilds (exchange place connects engine.watched.build request s).2 ∧
      (place.get (exchange place connects engine.watched.build request s).2).Treats
        skipBuilds := by
  obtain ⟨only, later⟩ := Capture.Server.receive_onlyBuilds engine treats connects request s
  simp only [exchange]
  refine ⟨only.trans (.of_log_eq (lawful.keeps _ _)), ?_⟩
  rw [lawful.get]
  exact later

theorem play_onlyBuilds (script : Script) {s : Watched W}
    (treats : (place.get s).Treats skipBuilds) :
    s.OnlyBuilds skipBuilds
      (script.play (exchange place connects engine.watched.build) s).2 := by
  induction script generalizing s with
  | finish status => exact .of_log_eq rfl
  | send request next ih =>
    obtain ⟨only, later⟩ := exchange_onlyBuilds lawful connects engine request treats
    exact only.trans (ih _ later)

theorem ofServer_compose_onlyBuilds (flags : UpFlags) {s : Watched W}
    (treats : (place.get s).Treats skipBuilds) :
    s.OnlyBuilds skipBuilds
      (((ofServer place connects bindFailure binary launch engine.watched).compose flags).on
        s).2 := by
  simp only [ofServer, Act.on_of, Invocation.run]
  split
  · exact .of_log_eq rfl
  · next script _ => exact play_onlyBuilds lawful connects engine script treats

/-- Whatever the compose tool sends, planning calls the engine for builds alone,
and not at all if they are disabled. -/
theorem ofServer_collect_onlyBuilds (flags : UpFlags) (skipBuilds : Bool) (s : Watched W) :
    s.OnlyBuilds skipBuilds
      (((ofServer place connects bindFailure binary launch engine.watched).collect flags
        skipBuilds).on s).2 := by
  have serving : ((ofServer place connects bindFailure binary launch engine.watched).serve
      skipBuilds).on s =
        (((place.get s).serve (bindFailure (place.get s).address) skipBuilds).1,
          place.set ((place.get s).serve (bindFailure (place.get s).address) skipBuilds).2 s) :=
    rfl
  rcases begun : (place.get s).serve (bindFailure (place.get s).address) skipBuilds with
    ⟨e | _, server⟩
  · rw [begun] at serving
    simp only [collect, Act.on_bind, serving]
    exact .of_log_eq (lawful.keeps server s)
  · rw [begun] at serving
    have treats : (place.get (place.set server s)).Treats skipBuilds := by
      rw [lawful.get]
      exact Capture.Server.serve_treats begun
    have composing := ofServer_compose_onlyBuilds lawful connects bindFailure binary launch
      engine flags treats
    -- After the compose tool nothing calls the engine.
    have ending (composed : Except Error Unit) :
        ((ofServer place connects bindFailure binary launch engine.watched).stop.observe >>=
          fun stopped => Act.settle composed >>= fun _ => Act.settle stopped >>= fun _ =>
            (ofServer place connects bindFailure binary launch engine.watched).requests).Keeps
          Watched.log :=
      Act.Keeps.bind (fun _ => lawful.keeps _ _) fun stopped =>
        (Act.Keeps.settle composed).bind fun _ => (Act.Keeps.settle stopped).bind fun _ _ => rfl
    unfold collect
    rw [Act.on_bind, serving]
    simp only
    rw [Act.on_bind, Act.on_observe]
    simp only
    exact (Watched.OnlyBuilds.of_log_eq (lawful.keeps server s)).trans
      (composing.trans (.of_log_eq (ending _ _)))

end Planner

/-! ### Actions -/

/-- Whether an action disables builds. -/
def Action.skipsBuilds : Action → Bool
  | .verify | .list _ | .teardown _ => true
  | .deploy options => options.skipBuilds
  | .rollback options => options.skipBuilds

section Actions

variable {setup : Setup (Watched W)} {place : Planner.Place (Watched W)}
  (lawful : place.IsLawful Watched.log) {connects : Bool} {bindFailure : String → Option String}
  {binary : String} {launch : Invocation → Except String Script}
  (plans : setup.planner = Planner.ofServer place connects bindFailure binary launch)
  (engine : Engine W)
include lawful plans

theorem Setup.collect_onlyBuilds (flags : UpFlags) (skipBuilds : Bool) (s : Watched W) :
    s.OnlyBuilds skipBuilds
      (((setup.planner engine.watched).collect flags skipBuilds).on s).2 := by
  rw [plans]
  exact Planner.ofServer_collect_onlyBuilds lawful connects bindFailure binary launch engine
    flags skipBuilds s

theorem Setup.captures_onlyBuilds (action : Action) (s : Watched W) :
    s.OnlyBuilds action.skipsBuilds ((setup.captures engine.watched action).on s).2 := by
  cases action with
  | verify => exact .of_log_eq rfl
  | deploy options => exact setup.collect_onlyBuilds lawful plans engine _ _ s
  | rollback options => exact setup.collect_onlyBuilds lawful plans engine _ _ s
  | list flags | teardown flags => exact setup.collect_onlyBuilds lawful plans engine flags true s

/-- An action that disables builds causes none. -/
theorem Setup.perform_noBuilds {action : Action} (disabled : action.skipsBuilds = true)
    (s : Watched W) :
    ∃ xs, ((setup.perform action engine.watched).on s).2.log = s.log ++ xs ∧
      ∀ x ∈ xs, x.isBuild = false := by
  rcases run : (setup.perform action engine.watched).on s with ⟨result, after⟩
  obtain ⟨captured, between, xs, makes⟩ := setup.perform_calls run
  have planned := setup.captures_onlyBuilds lawful plans engine action s
  rw [makes.planned, disabled] at planned
  refine ⟨xs, ?_, makes.noBuilds⟩
  rw [makes.calls.watched.2, planned.log_eq]

end Actions

/-! ### Main result -/

/-- A session says to the engine what its requests ask for: the builds, in their
order, while builds are enabled, and otherwise nothing. -/
structure Engine.ForwardsBuilds (engine : Engine W) : Prop where
  enabled : ∀ (requests : List Http.Request) (record : Capture.Record) (s : Watched W),
    ∃ xs, (Capture.handleAll engine.watched.build false requests record s).world.log =
        s.log ++ xs ∧
      Capture.AskInTurn requests (xs.map Exchange.call)
  disabled : ∀ (requests : List Http.Request) (record : Capture.Record) (s : Watched W),
    (Capture.handleAll engine.watched.build true requests record s).world = s
  answers : ∀ (skipBuilds : Bool) (request : Http.Request) (record : Capture.Record) (w : W),
    Capture.CallsForBuild request →
      Capture.AnswersBuild engine.build skipBuilds record w request
        (Capture.handle engine.build skipBuilds request record w)

theorem Engine.forwardsBuilds (engine : Engine W) : engine.ForwardsBuilds where
  enabled requests record s := Capture.log_handleAll engine record s requests
  disabled requests record s := Capture.world_handleAll_disabled _ requests record s
  answers skipBuilds _ record w calls :=
    Capture.handle_answersBuild engine.build skipBuilds record w calls

/-- Planning says nothing to the engine but the builds that the compose tool asks
for, each of them once, and answers them by how they ended. Looking at the history
and tearing down disable builds and cause none, whatever the tool sends. -/
theorem Setup.planning_onlyBuilds {setup : Setup (Watched W)} {place : Planner.Place (Watched W)}
    (lawful : place.IsLawful Watched.log) {connects : Bool}
    {bindFailure : String → Option String} {binary : String}
    {launch : Invocation → Except String Script}
    (plans : setup.planner = Planner.ofServer place connects bindFailure binary launch)
    (engine : Engine W) :
    engine.ForwardsBuilds ∧
      (∀ (flags : UpFlags) (skipBuilds : Bool) (s : Watched W), s.OnlyBuilds skipBuilds
        (((setup.planner engine.watched).collect flags skipBuilds).on s).2) ∧
      ∀ (flags : UpFlags) (action : Action) (s : Watched W),
        action = .list flags ∨ action = .teardown flags →
          ∃ xs, ((setup.perform action engine.watched).on s).2.log = s.log ++ xs ∧
            ∀ x ∈ xs, x.isBuild = false := by
  refine ⟨engine.forwardsBuilds, setup.collect_onlyBuilds lawful plans engine, ?_⟩
  rintro flags action s (rfl | rfl)
  · exact setup.perform_noBuilds lawful plans engine rfl s
  · exact setup.perform_noBuilds lawful plans engine rfl s

namespace Bench

theorem serverPlace_isLawful : serverPlace.IsLawful Watched.log :=
  ⟨fun _ _ => rfl, fun _ _ => rfl⟩

theorem setup_planner (script : Script) :
    (setup script).planner =
      Planner.ofServer serverPlace true (fun _ => none) "compose" fun _ => .ok script := rfl

/-- A build call with one flag in capitals, one left empty and one without a
meaning. -/
def buildCall : Http.Request :=
  .of "POST" "/v1.18/build?t=shop_web&nocache=TRUE&rm=&q=2" (.bytes "FROM nginx".toUTF8)

end Bench

/-- The build is forwarded with one flag set and the others at their defaults, and
it succeeds. When the history is looked at, the same request builds nothing. -/
theorem Setup.planning_onlyBuilds_bench :
    Bench.serverPlace.IsLawful Watched.log ∧
      (∃ result, (Capture.handleAll Bench.engine.watched.build false [Bench.buildCall] .empty
          ⟨Bench.stuck, []⟩).world.log =
        [.build { ImageBuild.usual with tag := some "shop_web", noCache := true }
          "FROM nginx".toUTF8 result]) ∧
      (Capture.CallsForBuild Bench.buildCall ∧
        (Capture.handle Bench.engine.build false Bench.buildCall .empty
          Bench.stuck).1.1.status = 200) ∧
      ∃ xs, (((Bench.setup (.ofRequests [Bench.buildCall] 0)).perform (.list ⟨none, none⟩)
          Bench.engine.watched).on ⟨Bench.stuck, []⟩).2.log = [] ++ xs ∧
        ∀ x ∈ xs, x.isBuild = false := by
  obtain ⟨forwards, _, quiet⟩ := Setup.planning_onlyBuilds Bench.serverPlace_isLawful
    (Bench.setup_planner (.ofRequests [Bench.buildCall] 0)) Bench.engine
  have forwarded : Capture.forwarded? false Bench.buildCall =
      some ({ ImageBuild.usual with tag := some "shop_web", noCache := true },
        "FROM nginx".toUTF8) := by
    decide +kernel
  have asks := Capture.forwarded?_eq_some_iff.mp forwarded
  refine ⟨Bench.serverPlace_isLawful, ?_, ⟨asks.toCallsForBuild, ?_⟩,
    quiet ⟨none, none⟩ _ ⟨Bench.stuck, []⟩ (.inl rfl)⟩
  · obtain ⟨xs, grown, asked⟩ := forwards.enabled [Bench.buildCall] .empty ⟨Bench.stuck, []⟩
    rw [grown]
    generalize called : xs.map Exchange.call = calls at asked
    cases asked with
    | build asksFor rest =>
      cases forwarded.symm.trans (Capture.forwarded?_eq_some_iff.mpr asksFor)
      cases rest
      obtain ⟨x, rfl, call⟩ := List.map_eq_singleton_iff.mp called
      cases x with
      | build =>
        cases call
        exact ⟨_, rfl⟩
      | _ => cases call
    | other none rest => exact absurd asks (none _ _)
  · exact (forwards.answers false Bench.buildCall .empty Bench.stuck
      asks.toCallsForBuild).succeeds.mpr (.inr ⟨_, _, _, asks, rfl⟩)

end ComposeDeploy
