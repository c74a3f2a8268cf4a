import ComposeDeploy.Proofs.Capture.Forwarding
import ComposeDeploy.Proofs.Deployment.Conversation
import ComposeDeploy.Proofs.Deployment.Planning

/-!
What an action depends on.

A step is decided by a view of the world (`Act.IsDecided`) if in two worlds that
look alike it answers alike, and leaves worlds that look alike. Steps in a row
are decided if each of them is, so an action is decided by what its engine and
its planner are decided by (`Setup.perform_isDecided`). Of the capturing server
a planner sees the address and whether it is running; the session of an earlier
run is seen only if serving fails (`Capture.Server.lasting`), since serving
starts a fresh one (`Planner.ofServer_isDecidedBy`).
-/

namespace ComposeDeploy

variable {W α β : Type}

/-! ### Decided steps -/

/-- In worlds that look alike before, a step answers alike and leaves worlds that
look alike after. -/
def Act.IsDecided {γ : Type} (act : Act W γ) (before : W → α) (after : W → β) : Prop :=
  ∀ ⦃v w : W⦄, before v = before w →
    (act.on v).1 = (act.on w).1 ∧ after (act.on v).2 = after (act.on w).2

namespace Act.IsDecided

variable {γ δ : Type} {before : W → α} {after : W → β} {view : W → α}

theorem pure (c : γ) : (Pure.pure c : Act W γ).IsDecided view view :=
  fun _ _ same => ⟨rfl, same⟩

theorem settle (result : Except Error γ) : (Act.settle result : Act W γ).IsDecided view view :=
  fun _ _ same => ⟨rfl, same⟩

theorem observe {act : Act W γ} (decided : act.IsDecided before after) :
    act.observe.IsDecided before after := by
  intro v w same
  obtain ⟨answer, alike⟩ := decided same
  exact ⟨congrArg Except.ok answer, alike⟩

theorem bind {act : Act W γ} {next : γ → Act W δ} (first : act.IsDecided before after)
    (second : ∀ c, (next c).IsDecided after after) : (act >>= next).IsDecided before after := by
  intro v w same
  obtain ⟨answer, alike⟩ := first same
  rw [Act.on_bind, Act.on_bind]
  rcases run : act.on v with ⟨result, between⟩
  rcases run' : act.on w with ⟨result', between'⟩
  rw [run, run'] at answer alike
  cases answer
  cases result with
  | ok c => exact second c alike
  | error e => exact ⟨rfl, alike⟩

/-- What more is seen before does no harm, nor what less is seen after. -/
theorem imp {α' β' : Type} {before' : W → α'} {after' : W → β'} {act : Act W γ}
    (decided : act.IsDecided before after)
    (finer : ∀ v w, before' v = before' w → before v = before w)
    (coarser : ∀ v w, after v = after w → after' v = after' w) : act.IsDecided before' after' := by
  intro v w same
  obtain ⟨answer, alike⟩ := decided (finer v w same)
  exact ⟨answer, coarser _ _ alike⟩

end Act.IsDecided

/-! ### Engines -/

/-- All answers of an engine are decided by a view of the world, and so is what
becomes of the view. -/
structure Engine.IsDecidedBy (engine : Engine W) (view : W → α) : Prop where
  version : engine.version.IsDecided view view
  identify : ∀ reference, (engine.identify reference).IsDecided view view
  inspect : ∀ container, (engine.inspect container).IsDecided view view
  start : ∀ container configuration, (engine.start container configuration).IsDecided view view
  remove : ∀ container, (engine.remove container).IsDecided view view
  build : ∀ options context, (engine.build options context).IsDecided view view

namespace Engine.IsDecidedBy

variable {engine : Engine W} {view : W → α} (decided : engine.IsDecidedBy view)
include decided

theorem pin (request : CreateRequest) : (engine.pin request).IsDecided view view := by
  unfold Engine.pin
  refine (Act.IsDecided.settle _).bind fun configuration => ?_
  split
  · exact .settle (.error _)
  · next reference _ => exact (decided.identify reference).bind fun _ => .pure _

theorem pinAll (requests : List CreateRequest) :
    (engine.pinAll requests).IsDecided view view := by
  induction requests with
  | nil => exact .pure _
  | cons request rest ih =>
    exact (decided.pin request).bind fun _ => ih.bind fun _ => .pure _

theorem carriedHistory (names : List String) :
    (engine.carriedHistory names).IsDecided view view := by
  induction names with
  | nil => exact .pure _
  | cons name rest ih =>
    refine (decided.inspect name).bind fun found => ?_
    cases found with
    | none => exact ih
    | some inspection => exact .settle _

theorem discard (name : String) : (engine.discard name).IsDecided view view := by
  refine (decided.remove name).observe.bind fun answer => ?_
  split
  · exact .pure _
  · exact .pure _
  · exact .settle (.error _)

theorem removeAll (names : List String) : (engine.removeAll names).IsDecided view view := by
  induction names with
  | nil => exact .pure _
  | cons name rest ih =>
    exact (decided.discard name).bind fun _ => ih.bind fun _ => .pure _

theorem startAll (label : String) (services : List Service) :
    (engine.startAll label services).IsDecided view view := by
  induction services with
  | nil => exact .pure _
  | cons service rest ih => exact (decided.start service.name _).bind fun _ => ih

theorem bringUp (history : History) : (engine.bringUp history).IsDecided view view := by
  unfold Engine.bringUp
  split
  · exact .pure _
  · exact decided.startAll _ _

theorem carryOut (limit : Option Nat) (intent : Intent) :
    (engine.carryOut limit intent).IsDecided view view := by
  refine (decided.carriedHistory intent.names).bind fun history => ?_
  refine (Act.IsDecided.settle _).bind fun turn => ?_
  refine (decided.removeAll turn.old).bind fun _ => ?_
  exact (decided.bringUp _).bind fun _ => .pure _

theorem verify : (Setup.verify engine).IsDecided view view :=
  (decided.version.bind fun _ => .settle _).bind fun _ => .pure _

end Engine.IsDecidedBy

/-! ### Views side by side -/

/-- No call to the engine changes a view of the world. -/
def Engine.Keeps (engine : Engine W) (view : W → α) : Prop :=
  ∀ ⦃x : Exchange⦄ ⦃w after : W⦄, x.Made engine w after → view after = view w

theorem Act.Keeps.beside {γ : Type} {act : Act W γ} {view : W → α} {other : W → β}
    (keeps : act.Keeps view) (keepsOther : act.Keeps other) :
    act.Keeps fun w => (view w, other w) :=
  fun w => congrArg₂ Prod.mk (keeps w) (keepsOther w)

theorem Act.IsDecided.beside {γ : Type} {act : Act W γ} {view : W → α} {other : W → β}
    (decided : act.IsDecided view view) (keeps : act.Keeps other) :
    act.IsDecided (fun w => (view w, other w)) fun w => (view w, other w) := by
  intro v w same
  obtain ⟨sameView, sameOther⟩ := Prod.mk.inj same
  obtain ⟨answer, alike⟩ := decided sameView
  refine ⟨answer, congrArg₂ Prod.mk alike ?_⟩
  rw [keeps, keeps, sameOther]

section Calls

variable {engine : Engine W} {view : W → α} {other : W → β}

theorem Engine.Keeps.beside (keeps : engine.Keeps view) (keepsOther : engine.Keeps other) :
    engine.Keeps fun w => (view w, other w) :=
  fun _ _ _ made => congrArg₂ Prod.mk (keeps made) (keepsOther made)

theorem Engine.Keeps.map (keeps : engine.Keeps view) (f : α → β) :
    engine.Keeps fun w => f (view w) :=
  fun _ _ _ made => congrArg f (keeps made)

theorem Engine.Keeps.build (keeps : engine.Keeps view) (options : ImageBuild)
    (context : ByteArray) : (engine.build options context).Keeps view :=
  fun _ => keeps (x := .build options context _) rfl

/-- What no call changes may be seen besides. -/
theorem Engine.IsDecidedBy.beside (decided : engine.IsDecidedBy view)
    (keeps : engine.Keeps other) : engine.IsDecidedBy fun w => (view w, other w) where
  version := decided.version.beside fun _ => keeps (x := .version _) rfl
  identify reference :=
    (decided.identify reference).beside fun _ => keeps (x := .resolve reference _) rfl
  inspect container :=
    (decided.inspect container).beside fun _ => keeps (x := .inspect container _) rfl
  start container configuration :=
    (decided.start container configuration).beside fun _ =>
      keeps (x := .start container configuration _) rfl
  remove container :=
    (decided.remove container).beside fun _ => keeps (x := .remove container _) rfl
  build options context := (decided.build options context).beside (keeps.build options context)

end Calls

/-! ### Planners -/

/-- From serving on, all that a planner does is decided by a view of the world;
before, less is seen. -/
structure Planner.IsDecidedBy (planner : Planner W) (before : W → α) (view : W → β) : Prop where
  serve : ∀ skipBuilds, (planner.serve skipBuilds).IsDecided before view
  compose : ∀ flags, (planner.compose flags).IsDecided view view
  stop : planner.stop.IsDecided view view
  requests : planner.requests.IsDecided view view

theorem Planner.IsDecidedBy.collect {planner : Planner W} {before : W → α} {view : W → β}
    (decided : planner.IsDecidedBy before view) (flags : UpFlags) (skipBuilds : Bool) :
    (planner.collect flags skipBuilds).IsDecided before view :=
  (decided.serve skipBuilds).bind fun _ =>
    (decided.compose flags).observe.bind fun composed =>
      decided.stop.observe.bind fun stopped =>
        (Act.IsDecided.settle composed).bind fun _ =>
          (Act.IsDecided.settle stopped).bind fun _ => decided.requests

/-! ### Actions -/

section Actions

variable (setup : Setup W) {engine : Engine W} {before : W → α} {view : W → β}
  (plans : (setup.planner engine).IsDecidedBy before view) (decided : engine.IsDecidedBy view)
include plans decided

theorem Setup.deploy_isDecided (options : Rollout) :
    (setup.deploy options engine).IsDecided before view := by
  rw [deploy_eq]
  refine (plans.collect _ _).bind fun requests => ?_
  exact (decided.pinAll requests).bind fun services => decided.carryOut _ _

theorem Setup.rollback_isDecided (options : Restoration) :
    (setup.rollback options engine).IsDecided before view := by
  rw [rollback_eq]
  exact (plans.collect _ _).bind fun requests => decided.carryOut _ _

theorem Setup.list_isDecided (flags : UpFlags) :
    (setup.list flags engine).IsDecided before view :=
  (plans.collect flags true).bind fun _ =>
    (decided.carriedHistory _).bind fun _ => .pure _

theorem Setup.teardown_isDecided (flags : UpFlags) :
    (setup.teardown flags engine).IsDecided before view :=
  (plans.collect flags true).bind fun _ =>
    (decided.removeAll _).bind fun _ => .pure _

/-- What comes of an action is decided by what is seen before its planner
serves. -/
theorem Setup.perform_isDecided (seen : engine.IsDecidedBy before)
    (coarser : ∀ v w, view v = view w → before v = before w) (action : Action) :
    (setup.perform action engine).IsDecided before before := by
  have finer : ∀ v w, before v = before w → before v = before w := fun _ _ same => same
  cases action with
  | verify => exact seen.verify
  | deploy options => exact (setup.deploy_isDecided plans decided options).imp finer coarser
  | rollback options => exact (setup.rollback_isDecided plans decided options).imp finer coarser
  | list flags => exact (setup.list_isDecided plans decided flags).imp finer coarser
  | teardown flags => exact (setup.teardown_isDecided plans decided flags).imp finer coarser

end Actions

/-! ### The capturing server -/

namespace Capture

/-- What the next run can see of a server: all of it if serving fails, and
otherwise all but the session. -/
def Server.lasting (bindFailure : String → Option String) (server : Server) : Server :=
  if server.running || (bindFailure server.address).isSome then server
  else { server with session := none }

theorem Server.address_lasting (bindFailure : String → Option String) (server : Server) :
    (server.lasting bindFailure).address = server.address := by
  unfold lasting
  split <;> rfl

/-- Serving depends on no more than that. -/
theorem Server.serve_lasting (bindFailure : String → Option String) (skipBuilds : Bool)
    (server : Server) :
    (server.lasting bindFailure).serve (bindFailure server.address) skipBuilds =
      server.serve (bindFailure server.address) skipBuilds := by
  unfold lasting
  split
  · rfl
  · next anew =>
    simp only [Bool.or_eq_true, not_or, Bool.not_eq_true, Option.isSome_eq_false_iff,
      Option.isNone_iff_eq_none] at anew
    simp only [serve, anew.1, anew.2]
    rfl

variable {builder : Builder W} {view : W → α}
  (builds : ∀ options context, (builder options context).IsDecided view view)
include builds

theorem forward_isDecided (skipBuilds : Bool) (request : Http.Request) {v w : W}
    (same : view v = view w) :
    (forward builder skipBuilds request v).1 = (forward builder skipBuilds request w).1 ∧
      view (forward builder skipBuilds request v).2 =
        view (forward builder skipBuilds request w).2 := by
  unfold forward
  split
  · exact ⟨rfl, same⟩
  · next options context _ => exact builds options context same

theorem Server.receive_isDecided (connects : Bool) (request : Http.Request) (server : Server)
    {v w : W} (same : view v = view w) :
    (server.receive connects builder request v).1 = (server.receive connects builder request w).1 ∧
      view (server.receive connects builder request v).2 =
        view (server.receive connects builder request w).2 := by
  unfold receive
  cases server.session with
  | none => exact ⟨rfl, same⟩
  | some session =>
    obtain ⟨built, alike⟩ := forward_isDecided builds session.skipBuilds request same
    simp only [handle_eq, built]
    split
    · exact ⟨rfl, alike⟩
    · exact ⟨rfl, same⟩

end Capture

namespace Planner

namespace Place

variable (place : Place W) (view : W → α)

/-- What is set at a place is found there, and setting it keeps a view of the
world. -/
structure IsLawful : Prop where
  get : ∀ server w, place.get (place.set server w) = server
  keeps : ∀ server w, view (place.set server w) = view w

/-- The view together with the server. -/
def whole (w : W) : α × Capture.Server :=
  (view w, place.get w)

/-- The view together with what the next run can see of the server. -/
def lasting (bindFailure : String → Option String) (w : W) : α × Capture.Server :=
  (view w, (place.get w).lasting bindFailure)

theorem lasting_of_whole {view : W → α} {v w : W} (same : place.whole view v = place.whole view w)
    (bindFailure : String → Option String) :
    place.lasting view bindFailure v = place.lasting view bindFailure w := by
  obtain ⟨sameView, sameServer⟩ := Prod.mk.inj same
  simp only [lasting, sameView, sameServer]

end Place

variable {place : Place W} {view : W → α} (lawful : place.IsLawful view) {engine : Engine W}
  (decided : engine.IsDecidedBy view)
include lawful decided

theorem exchange_isDecided (connects : Bool) (request : Http.Request) {v w : W}
    (same : place.whole view v = place.whole view w) :
    (exchange place connects engine.build request v).1 =
        (exchange place connects engine.build request w).1 ∧
      place.whole view (exchange place connects engine.build request v).2 =
        place.whole view (exchange place connects engine.build request w).2 := by
  obtain ⟨sameView, sameServer⟩ := Prod.mk.inj same
  obtain ⟨answer, alike⟩ :=
    (place.get w).receive_isDecided decided.build connects request sameView
  have replies (u : W) : exchange place connects engine.build request u =
      (((place.get u).receive connects engine.build request u).1.1,
        place.set ((place.get u).receive connects engine.build request u).1.2
          ((place.get u).receive connects engine.build request u).2) := rfl
  rw [replies, replies, sameServer, answer]
  simp only [Place.whole, lawful.keeps, lawful.get, alike, and_self]

theorem play_isDecided (connects : Bool) (script : Script) {v w : W}
    (same : place.whole view v = place.whole view w) :
    (script.play (exchange place connects engine.build) v).1 =
        (script.play (exchange place connects engine.build) w).1 ∧
      place.whole view (script.play (exchange place connects engine.build) v).2 =
        place.whole view (script.play (exchange place connects engine.build) w).2 := by
  induction script generalizing v w with
  | finish status => exact ⟨rfl, same⟩
  | send request next ih =>
    obtain ⟨reply, alike⟩ := exchange_isDecided lawful decided connects request same
    simp only [Script.play, reply]
    exact ih _ alike

/-- The server and the compose tool see nothing of an earlier run: serving, if it
succeeds at all, starts a fresh session. -/
theorem ofServer_isDecidedBy (connects : Bool) (bindFailure : String → Option String)
    (binary : String) (launch : Invocation → Except String Script) :
    (ofServer place connects bindFailure binary launch engine).IsDecidedBy
      (place.lasting view bindFailure) (place.whole view) where
  serve skipBuilds := by
    intro v w same
    obtain ⟨sameView, sameServer⟩ := Prod.mk.inj same
    have served : (place.get v).serve (bindFailure (place.get v).address) skipBuilds =
        (place.get w).serve (bindFailure (place.get w).address) skipBuilds := by
      rw [← Capture.Server.serve_lasting, ← Capture.Server.serve_lasting _ _ (place.get w),
        ← (place.get v).address_lasting bindFailure, ← (place.get w).address_lasting bindFailure,
        sameServer]
    simp only [ofServer, Act.on_of, served, Place.whole, lawful.keeps, lawful.get, sameView,
      and_self]
  compose flags := by
    intro v w same
    obtain ⟨_, sameServer⟩ := Prod.mk.inj same
    simp only [ofServer, Act.on_of, sameServer, Invocation.run]
    split
    · exact ⟨rfl, same⟩
    · next script _ =>
      obtain ⟨status, alike⟩ := play_isDecided lawful decided connects script same
      exact ⟨congrArg (exited _) status, alike⟩
  stop := by
    intro v w same
    obtain ⟨sameView, sameServer⟩ := Prod.mk.inj same
    simp only [ofServer, Act.on_of, Place.whole, lawful.keeps, lawful.get, sameView, sameServer,
      and_self]
  requests := by
    intro v w same
    obtain ⟨_, sameServer⟩ := Prod.mk.inj same
    exact ⟨congrArg Capture.Server.requests sameServer, same⟩

end Planner

end ComposeDeploy
