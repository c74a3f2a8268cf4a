import ComposeDeploy.Deployment.Planning
import ComposeDeploy.Proofs.Engine.Exchange

/-!
Planning leaves the application alone.

A planner keeps a view of the world (`Planner.Keeps`) if each of its steps
does, and so does everything that it collects. The capturing server touches
the world by setting itself and by the builds that it forwards, whatever the
compose tool sends to it (`Planner.ofServer_keeps`).
-/

namespace ComposeDeploy

variable {W α : Type}

/-! ### Steps that keep a view of the world -/

/-- A step leaves a view of the world as it was, whether it fails or not. -/
def Act.Keeps {γ : Type} (act : Act W γ) (view : W → α) : Prop :=
  ∀ w, view (act.on w).2 = view w

namespace Act.Keeps

variable {γ δ : Type} {view : W → α}

theorem of_on {act : Act W γ} (keeps : act.Keeps view) {w after : W} {result : Except Error γ}
    (run : act.on w = (result, after)) : view after = view w := by
  rw [← keeps w, run]

theorem pure (c : γ) : (Pure.pure c : Act W γ).Keeps view :=
  fun _ => rfl

theorem settle (result : Except Error γ) : (Act.settle result : Act W γ).Keeps view :=
  fun _ => rfl

theorem observe {act : Act W γ} (keeps : act.Keeps view) : act.observe.Keeps view :=
  keeps

theorem bind {act : Act W γ} {next : γ → Act W δ} (first : act.Keeps view)
    (second : ∀ c, (next c).Keeps view) : (act >>= next).Keeps view := by
  intro w
  rw [Act.on_bind]
  have kept := first w
  rcases run : act.on w with ⟨result, between⟩
  rw [run] at kept
  cases result with
  | ok c => exact (second c between).trans kept
  | error e => exact kept

end Act.Keeps

/-! ### Planners -/

/-- No step of the planner changes a view of the world. -/
structure Planner.Keeps (planner : Planner W) (view : W → α) : Prop where
  serve : ∀ skipBuilds, (planner.serve skipBuilds).Keeps view
  compose : ∀ flags, (planner.compose flags).Keeps view
  stop : planner.stop.Keeps view
  requests : planner.requests.Keeps view

namespace Planner

variable {view : W → α} {planner : Planner W}

theorem Keeps.collect (keeps : planner.Keeps view) (flags : UpFlags) (skipBuilds : Bool) :
    (planner.collect flags skipBuilds).Keeps view :=
  (keeps.serve skipBuilds).bind fun _ =>
    (keeps.compose flags).observe.bind fun composed =>
      keeps.stop.observe.bind fun stopped =>
        (Act.Keeps.settle composed).bind fun _ =>
          (Act.Keeps.settle stopped).bind fun _ => keeps.requests

/-- A planner keeps what can be told from a view that it keeps. -/
theorem Keeps.map {β : Type} (keeps : planner.Keeps view) (f : α → β) :
    planner.Keeps fun w => f (view w) where
  serve skipBuilds w := congrArg f (keeps.serve skipBuilds w)
  compose flags w := congrArg f (keeps.compose flags w)
  stop w := congrArg f (keeps.stop w)
  requests w := congrArg f (keeps.requests w)

/-- A planner that reports given requests and does nothing else. -/
def reporting (requests : List CreateRequest) : Planner W where
  serve _ := pure ()
  compose _ := pure ()
  stop := pure ()
  requests := pure requests

theorem reporting_keeps (requests : List CreateRequest) :
    (reporting requests : Planner W).Keeps view where
  serve _ := .pure ()
  compose _ := .pure ()
  stop := .pure ()
  requests := .pure requests

end Planner

/-! ### The capturing server -/

namespace Capture

variable {view : W → α} {builder : Builder W}
  (builds : ∀ options context, (builder options context).Keeps view)
include builds

theorem view_build (skipBuilds : Bool) (query : String → Option String) (body : Http.Body)
    (record : Record) (w : W) :
    view (build builder skipBuilds query body record w).2 = view w := by
  unfold build
  split
  · rfl
  · split
    · rfl
    · next context =>
      have kept := builds (requestedBuild query) context w
      split
      · next made => rwa [made] at kept
      · next failed => rwa [failed] at kept

omit builds in
theorem view_withQuery {known : List String} {request : Http.Request}
    {call : (String → Option String) → (Http.Reply × Record) × W} {record : Record} {w : W}
    (keeps : ∀ get, view (call get).2 = view w) :
    view (withQuery known request call record w).2 = view w := by
  unfold withQuery
  split
  · rfl
  · next get _ => exact keeps get

omit builds in
theorem view_withPart (part raw : String) (call : String → Http.Reply × Record) (record : Record)
    (w : W) : view (withPart part raw call record w).2 = view w := by
  unfold withPart
  split <;> rfl

/-- Answering a call changes no more than a forwarded build does. -/
theorem view_answer (skipBuilds : Bool) (route : Route) (request : Http.Request)
    (record : Record) (w : W) :
    view (answer builder skipBuilds route request record w).2 = view w := by
  cases route with
  | ping | version | pull => rfl
  | create | list => exact view_withQuery fun _ => rfl
  | containerDetails | startCreated | imageDetails => exact view_withPart ..
  | build => exact view_withQuery fun get => view_build builds skipBuilds get request.body record w

theorem view_handle (skipBuilds : Bool) (request : Http.Request) (record : Record) (w : W) :
    view (handle builder skipBuilds request record w).2 = view w := by
  unfold handle
  cases Route.ofPath? request.path with
  | none => rfl
  | some route =>
    by_cases allowed : route.allows request.method
    · simp only [allowed, if_true]
      exact view_answer builds skipBuilds route request record w
    · simp only [allowed]
      rfl

theorem Server.view_receive (connects : Bool) (request : Http.Request) (server : Server) (w : W) :
    view (server.receive connects builder request w).2 = view w := by
  unfold receive
  split
  · rfl
  · split
    · exact view_handle builds ..
    · rfl

end Capture

namespace Planner

variable {view : W → α} {place : Place W}
  (sets : ∀ server w, view (place.set server w) = view w)
include sets

theorem view_exchange {builder : Capture.Builder W}
    (builds : ∀ options context, (builder options context).Keeps view) (connects : Bool)
    (request : Http.Request) (w : W) :
    view (exchange place connects builder request w).2 = view w := by
  unfold exchange
  exact (sets ..).trans ((place.get w).view_receive builds connects request w)

omit sets in
theorem view_play {answer : Http.Request → W → Except Capture.Unanswered Http.Reply × W}
    (keeps : ∀ request w, view (answer request w).2 = view w) :
    ∀ (script : Script) (w : W), view (script.play answer w).2 = view w
  | .finish _, _ => rfl
  | .send request next, w => by
    have rest := view_play keeps (next (answer request w).1) (answer request w).2
    exact rest.trans (keeps request w)

/-- The capturing server keeps what neither its own place nor a build
touches, whatever the compose tool does. -/
theorem ofServer_keeps {engine : Engine W}
    (builds : ∀ options context, (engine.build options context).Keeps view) (connects : Bool)
    (bindFailure : String → Option String) (binary : String)
    (launch : Invocation → Except String Script) :
    (ofServer place connects bindFailure binary launch engine).Keeps view where
  serve _ := fun w => sets _ w
  compose flags := by
    intro w
    show view ((Invocation.run _ (launch _) _).on w).2 = view w
    unfold Invocation.run
    split
    · rfl
    · next script _ => exact view_play (view_exchange sets builds connects) script w
  stop := fun w => sets _ w
  requests := fun _ => rfl

end Planner

end ComposeDeploy
