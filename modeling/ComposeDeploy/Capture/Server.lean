/-
The life of the capturing server.

A `Server` is bound to one address. Serving starts a fresh session, stopping
ends the service but keeps what the session captured, and `requests` reports
the session of the last successful `serve`.
-/

import ComposeDeploy.Capture.Session
import ComposeDeploy.Text.Numeral

namespace ComposeDeploy.Capture

/-! ### Addresses -/

/-- Hosts that name this machine. -/
def localHosts : List String :=
  ["localhost", "0.0.0.0", "[::]", "[::1]", "::", "::1"]

/-- Whether a host names this machine. -/
def isLocalHost (host : String) : Bool :=
  localHosts.contains host || (Text.afterStart "127." host).isSome

/-- The numbers of ports are below this. -/
def portBound : Nat := 0x10000

/-- Why an address cannot be listened on; none if it can. -/
def bindFailure? (address : String) : Option String :=
  match Text.splitLast ':' address.toList with
  | none => some "invalid socket address"
  | some (host, port) =>
    match Text.Numeral.unsigned portBound port with
    | .error _ => some "invalid port value"
    | .ok _ =>
      if isLocalHost (String.ofList host) then none
      else some "failed to lookup address information: Name or service not known"

/-! ### Sessions -/

/-- What one run of the orchestrator talks to. -/
structure Session where
  skipBuilds : Bool
  record : Record
  deriving DecidableEq

/-- A server for one orchestrator run at a time. -/
structure Server where
  /-- The address as configured. -/
  address : String
  running : Bool
  /-- The session of the last successful `serve`. -/
  session : Option Session
  deriving DecidableEq

/-- Why a request got no reply. -/
inductive Unanswered where
  /-- The server has never had an address. -/
  | notBound
  /-- Nothing accepts the connection. -/
  | refused
  deriving DecidableEq, Repr

namespace Server

/-- A server that has not served yet. -/
def atAddress (address : String) : Server where
  address
  running := false
  session := none

/-- Whether the server has ever been bound. -/
def isBound (server : Server) : Bool :=
  server.session.isSome

/-- Starts a fresh session. `bindFailure` says why the address cannot be
listened on, if that is so. -/
def serve (bindFailure : Option String) (skipBuilds : Bool) (server : Server) :
    Except Error Unit × Server :=
  if server.running then
    (.error (.other ("proxy is already serving on " ++ server.address)), server)
  else match bindFailure with
    | some reason => (.error (.io reason), server)
    | none =>
      (.ok (), { server with running := true, session := some ⟨skipBuilds, .empty⟩ })

/-- Ends the service; without one, nothing happens. -/
def stop (server : Server) : Server :=
  { server with running := false }

/-- What the last session captured. -/
def requests (server : Server) : Except Error (List CreateRequest) :=
  match server.session with
  | none => .ok []
  | some session => session.record.captured

/-- Answers a request that is sent to the last bound address. `connects` says
whether connections to it come about at all. -/
def receive {W : Type} (connects : Bool) (builder : Builder W) (request : Http.Request)
    (server : Server) (world : W) : (Except Unanswered Http.Reply × Server) × W :=
  match server.session with
  | none => ((.error .notBound, server), world)
  | some session =>
    if server.running && connects then
      let ((reply, record), world) :=
        handle builder session.skipBuilds request session.record world
      ((.ok reply, { server with session := some { session with record } }), world)
    else ((.error .refused, server), world)

end Server

end ComposeDeploy.Capture
