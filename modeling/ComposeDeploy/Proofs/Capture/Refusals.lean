import ComposeDeploy.Proofs.Capture.Recording
import ComposeDeploy.Proofs.Deployment.Phases

/-!
Refused calls of the orchestrator.

A refused planning call is remembered, so the session reports an error however
it goes on, and a change that is planned by this session ends there
(`handle_remembersRefusal`). The exception is a query that names a key twice:
it is refused before the call is looked at, and nothing remembers it
(`handle_forgetsRepeatedName`).
-/

namespace ComposeDeploy

/-- A change whose planning fails does nothing else. -/
theorem Setup.change_unplanned {W : Type} (setup : Setup W) {engine : Engine W} {change : Change}
    {w between : W} {e : Error}
    (unplanned : ((setup.planner engine).collect change.flags change.skipBuilds).on w =
      (.error e, between)) :
    (setup.perform change.action engine).on w = (.error e, between) := by
  cases change with
  | deploy options =>
    show (setup.deploy options engine).on w = _
    have unplanned : ((setup.planner engine).collect options.flags options.skipBuilds).on w = _ :=
      unplanned
    rw [deploy_eq, Act.on_bind, unplanned]
  | rollback options =>
    show (setup.rollback options engine).on w = _
    have unplanned : ((setup.planner engine).collect options.flags options.skipBuilds).on w = _ :=
      unplanned
    rw [rollback_eq, Act.on_bind, unplanned]

namespace Capture

/-- The server has only an error to report, with which each change that is
planned by its report ends. -/
def Server.Aborts (server : Server) : Prop :=
  ∃ text, server.requests = .error (.capture text) ∧
    ∀ {V : Type} (setup : Setup V) (engine : Engine V) (change : Change) (v between : V),
      ((setup.planner engine).collect change.flags change.skipBuilds).on v =
          (server.requests, between) →
        (setup.perform change.action engine).on v = (.error (.capture text), between)

theorem Server.aborts_of_errors {server : Server} {session : Session}
    (current : server.session = some session) (refused : session.record.errors ≠ []) :
    server.Aborts := by
  have reported : server.requests = .error (.capture ("; ".intercalate session.record.errors)) := by
    simp [Server.requests, current, Record.captured, refused]
  refine ⟨_, reported, ?_⟩
  intro V setup engine change v between planned
  rw [reported] at planned
  exact setup.change_unplanned planned

variable {W : Type}

/-- A planning call that is refused leaves a refusal in the record, unless its
query names a key twice. -/
theorem IsMarked.refused {request : Http.Request} {record : Record}
    {outcome : Http.Reply × Record} (marked : IsMarked request record outcome)
    {keys : List String} (plans : Plans request keys) (once : NamesOnce request keys)
    (refuses : 400 ≤ outcome.1.status) : ∃ message, outcome.2 = record.refuse message := by
  obtain ⟨mark, handled, left⟩ := marked
  generalize outcome.1.status = status at handled refuses
  cases handled with
  | created => omega
  | @refused _ message => exact ⟨message, left⟩
  | inspected _ apart => exact absurd plans (apart keys)
  | unmarked _ fine =>
    have := fine keys plans once
    omega

/-- A refused planning call whose query names no key twice is remembered by one
refusal, and whatever is asked afterwards, the session aborts the change. -/
theorem handle_remembersRefusal (builder : Builder W) (skipBuilds : Bool)
    {request : Http.Request} {keys : List String} (plans : Plans request keys)
    (once : NamesOnce request keys) (record : Record) (w : W)
    (refuses : 400 ≤ (handle builder skipBuilds request record w).1.1.status) :
    ∃ message, (handle builder skipBuilds request record w).1.2 = record.refuse message ∧
      ∀ (later : List Http.Request) (after : W) (address : String) (running : Bool),
        (Server.mk address running (some ⟨skipBuilds,
          (handleAll builder skipBuilds later (record.refuse message) after).record⟩)).Aborts := by
  obtain ⟨message, left⟩ :=
    (handle_isMarked builder skipBuilds request record w).refused plans once refuses
  refine ⟨message, left, ?_⟩
  intro later after address running
  obtain ⟨more, errors⟩ :=
    (handleAll_growsTo builder skipBuilds later (record.refuse message) after).errors
  refine Server.aborts_of_errors rfl fun forgotten => ?_
  rw [forgotten] at errors
  simp [Record.refuse] at errors

/-- A call that creates a container without a name is refused and remembered. -/
theorem handle_remembersRefusal_nameless :
    ∃ message, (handle (fun _ _ => pure ()) false
        (.of "POST" "/v1.18/containers/create" (.bytes "\x7b\x7d".toUTF8)) .empty ()).1.2 =
          Record.empty.refuse message ∧
      ∀ (later : List Http.Request) (after : Unit) (address : String) (running : Bool),
        (Server.mk address running (some ⟨false,
          (handleAll (fun _ _ => pure ()) false later (Record.empty.refuse message)
            after).record⟩)).Aborts :=
  handle_remembersRefusal (fun _ _ => pure ()) false
    (List.mem_cons_self : Plans _ ["name"]) (by decide +kernel) .empty () (by decide +kernel)

/-- A call that names the container twice is refused, nothing remembers it, and
the server reports that nothing is to be created. -/
theorem handle_forgetsRepeatedName :
    Plans (.of "POST" "/v1.18/containers/create?name=web&name=db" (.bytes "\x7b\x7d".toUTF8))
        ["name"] ∧
      (handle (fun _ _ => pure ()) false
        (.of "POST" "/v1.18/containers/create?name=web&name=db" (.bytes "\x7b\x7d".toUTF8))
        .empty ()).1.1.status = 400 ∧
      ∀ address running, (Server.mk address running (some ⟨false,
        (handle (fun _ _ => pure ()) false
          (.of "POST" "/v1.18/containers/create?name=web&name=db" (.bytes "\x7b\x7d".toUTF8))
          .empty ()).1.2⟩)).requests = .ok [] := by
  have forgotten : (handle (fun _ _ => pure ()) false
      (.of "POST" "/v1.18/containers/create?name=web&name=db" (.bytes "\x7b\x7d".toUTF8))
      .empty ()).1.2 = Record.empty := by decide +kernel
  refine ⟨by decide +kernel, by decide +kernel, ?_⟩
  intro address running
  rw [forgotten]
  rfl

end Capture

end ComposeDeploy
