import ComposeDeploy.Engine.Client
import ComposeDeploy.Proofs.Engine.Exchange

/-!
What a client sends to its engine and what comes back.

A `Wire.Tapped` world remembers every request of one client with what came back. A
client asks once and reads the reply (`Client.ask_eq`), and in the tapped world it gets
the same replies (`Client.tapped_transport`).
-/

namespace ComposeDeploy

variable {W α : Type}

namespace Wire

/-- What comes back for a request: a reply or none. -/
abbrev Response := Except ClientFailure Reply

/-- A request and what came back for it. -/
structure Sent where
  request : Request
  response : Response

/-- A world that remembers all requests to one engine and what came back. -/
structure Tapped (W : Type) where
  world : W
  /-- The requests with their answers, oldest first. -/
  log : List Sent

/-- The transport in a world that remembers the requests. -/
def Transport.tapped (transport : Transport W) : Transport (Tapped W) :=
  fun request s =>
    let (response, world) := transport request s.world
    (response, ⟨world, s.log ++ [⟨request, response⟩]⟩)

/-- What a client makes of what comes back: a reply that is no success is a failure. -/
def Response.settled : Response → Except ClientFailure Reply
  | .ok reply =>
    if reply.isSuccess then .ok reply else .error (.response reply.status reply.failureText)
  | .error failure => .error failure

theorem Response.settled_eq_ok_iff {response : Response} {reply : Reply} :
    response.settled = .ok reply ↔ response = .ok reply ∧ reply.isSuccess = true := by
  cases response with
  | error failure => simp [settled]
  | ok received =>
    by_cases success : received.isSuccess = true
    · simp only [settled, success, if_true, Except.ok.injEq]
      constructor
      · rintro rfl
        exact ⟨rfl, success⟩
      · exact And.left
    · simp only [settled, success, Except.ok.injEq]
      constructor
      · nofun
      · rintro ⟨rfl, success'⟩
        exact absurd success' success

/-- A reply is read only if it is a success. -/
theorem Response.settled_bind_eq_ok_iff {α : Type} {response : Response}
    {read : Reply → Except ClientFailure α} {value : α} :
    response.settled.bind read = .ok value ↔
      ∃ reply, response = .ok reply ∧ reply.isSuccess = true ∧ read reply = .ok value := by
  constructor
  · intro found
    cases settled : response.settled with
    | error failure =>
      rw [settled] at found
      cases found
    | ok reply =>
      obtain ⟨same, success⟩ := settled_eq_ok_iff.mp settled
      rw [settled] at found
      exact ⟨reply, same, success, found⟩
  · rintro ⟨reply, same, success, found⟩
    rw [settled_eq_ok_iff.mpr ⟨same, success⟩]
    exact found

end Wire

/-- The client in a world that remembers its requests. -/
def Client.tapped (client : Client W) : Client (Wire.Tapped W) :=
  ⟨client.name, client.transport.tapped, client.retryInterval, client.patience⟩

/-! ### One request -/

namespace Client

variable (client : Client W) (request : Wire.Request)

theorem tapped_transport {request : Wire.Request} {s : Wire.Tapped W} {response : Wire.Response}
    {after : W} (sent : client.transport request s.world = (response, after)) :
    client.tapped.transport request s =
      (response, ⟨after, s.log ++ [⟨request, response⟩]⟩) := by
  simp only [tapped, Wire.Transport.tapped, sent]

theorem send_eq (w : W) : client.send request w =
    (Wire.Response.settled (client.transport request w).1, (client.transport request w).2) := by
  unfold send
  rcases client.transport request w with ⟨failure | reply, after⟩
  · rfl
  · by_cases success : reply.isSuccess = true
    · simp [Wire.Response.settled, success]
    · simp [Wire.Response.settled, success]

/-- A client asks once and reads what comes back. -/
theorem ask_eq (read : Wire.Reply → Except ClientFailure α) (w : W) : client.ask request read w =
    ((Wire.Response.settled (client.transport request w).1).bind read,
      (client.transport request w).2) := by
  unfold ask
  rw [send_eq]
  cases Wire.Response.settled (client.transport request w).1 with
  | error failure => rfl
  | ok reply => rfl

theorem step_on (cause : ClientFailure → Error) (exchange : W → Except ClientFailure α × W)
    (w : W) : (step cause exchange).on w =
      ((exchange w).1.mapError cause, (exchange w).2) := by
  unfold step
  rw [Act.on_of]
  rcases exchange w with ⟨failure | value, after⟩
  · rfl
  · rfl

end Client

end ComposeDeploy
