/-
Learning which containers an application has.

A `Planner` is a capturing server together with an orchestrator. `collect`
serves, runs the orchestrator to its end, stops the server whatever the
orchestrator did, and reports what was captured.
-/

import ComposeDeploy.Orchestrator

namespace ComposeDeploy

/-- The server and the orchestrator of a planning run. -/
structure Planner (W : Type) where
  serve : (skipBuilds : Bool) → Act W Unit
  compose : UpFlags → Act W Unit
  stop : Act W Unit
  requests : Act W (List CreateRequest)

namespace Planner

variable {W : Type}

/-- What the orchestrator wants to create. A failure of the orchestrator comes
before one of stopping. -/
def collect (planner : Planner W) (flags : UpFlags) (skipBuilds : Bool) :
    Act W (List CreateRequest) := do
  planner.serve skipBuilds
  let composed ← (planner.compose flags).observe
  let stopped ← planner.stop.observe
  Act.settle composed
  Act.settle stopped
  planner.requests

/-- Where in a world a server stands. -/
structure Place (W : Type) where
  get : W → Capture.Server
  set : Capture.Server → W → W

/-- How the server of a world answers a request. -/
def exchange (place : Place W) (connects : Bool) (builder : Capture.Builder W)
    (request : Http.Request) (world : W) : Except Capture.Unanswered Http.Reply × W :=
  let ((reply, server), world) :=
    (place.get world).receive connects builder request world
  (reply, place.set server world)

/-- A planner made of the server of a world and a compose tool. `launch` says
what an invocation of the tool does. -/
def ofServer (place : Place W) (connects : Bool) (bindFailure : String → Option String)
    (binary : String) (launch : Invocation → Except String Script) (engine : Engine W) :
    Planner W where
  serve skipBuilds := Act.of fun world =>
    let server := place.get world
    let (result, server) := server.serve (bindFailure server.address) skipBuilds
    (result, place.set server world)
  compose flags := Act.of fun world =>
    let invocation := Invocation.of binary (place.get world).address flags
    (invocation.run (launch invocation) (exchange place connects engine.build)).on world
  stop := Act.of fun world => (.ok (), place.set (place.get world).stop world)
  requests := Act.of fun world => ((place.get world).requests, world)

end Planner

end ComposeDeploy
