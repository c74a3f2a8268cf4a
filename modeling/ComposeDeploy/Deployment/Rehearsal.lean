/-
Rehearsing actions on engines that are models.

The world of a rehearsal is a `Stage`: the models, one capturing server, and
everything that any of them received, in order. `prompted` plans a deployment
from a given list of requests, `served` from what given calls bring about at
the server; a `Cue` holds both, and the failures to show.
-/

import ComposeDeploy.Deployment.Fleet
import ComposeDeploy.Engine.Model

namespace ComposeDeploy.Rehearsal

/-- Something that one of the parts received. -/
inductive Event where
  /-- A call to the engine of that name. -/
  | engine (name : String) (call : EngineCall)
  | serve (skipBuilds : Bool)
  | stop
  | requests
  /-- A run of the compose tool. -/
  | compose (arguments : List String)
  /-- What a call to the server was answered. -/
  | reply (reply : Except Capture.Unanswered Http.Reply)

/-- The world of a rehearsal. -/
structure Stage where
  engines : List ModelEngine
  server : Capture.Server
  /-- What was received, oldest first. -/
  events : List Event

/-- What is to happen in a rehearsal besides the action itself. -/
structure Cue where
  serveFault : Option String
  stopFault : Option String
  captureFault : Option String
  composeFault : Option String
  /-- The requests of a prompted plan. -/
  requests : List CreateRequest
  /-- The calls of a served plan. -/
  calls : List Http.Request

namespace Stage

/-- A stage with these models, before the first event. -/
def ofEngines (engines : List ModelEngine) (address : String) : Stage where
  engines
  server := .atAddress address
  events := []

/-- The stage after one more event. -/
def note (stage : Stage) (event : Event) : Stage :=
  { stage with events := stage.events ++ [event] }

/-- A model that stands nowhere. -/
def nobody : ModelEngine where
  name := ""
  version := ""
  images := .empty
  containers := .empty
  faults := .none

/-- Where the model at a position stands. -/
def place (index : Nat) : ModelEngine.Place Stage where
  get stage := (stage.engines[index]?).getD nobody
  set e stage := { stage with engines := stage.engines.set index e }
  note call stage := stage.note (.engine ((stage.engines[index]?).getD nobody).name call)

/-- Where the server stands. -/
def serverPlace : Planner.Place Stage where
  get stage := stage.server
  set server stage := { stage with server }

/-- The models as engines, in order. -/
def fleet (stage : Stage) : List (Engine Stage) :=
  stage.engines.mapIdx fun index e => ModelEngine.engine e.name (place index)

end Stage

/-! ### Planners -/

/-- Notes an event. -/
def noted (event : Event) : Act Stage Unit :=
  Act.of fun stage => (.ok (), stage.note event)

/-- Fails if a text says how. -/
def failWhen (cause : String → Error) (text : Option String) : Act Stage Unit :=
  match text with
  | some text => throw (cause text)
  | none => pure ()

/-- The planner that reports the requests of a cue. -/
def prompted (cue : Cue) (_ : Engine Stage) : Planner Stage where
  serve skipBuilds := do
    noted (.serve skipBuilds)
    failWhen .other cue.serveFault
  compose flags := do
    noted (.compose flags.arguments)
    failWhen .orchestrator cue.composeFault
  stop := do
    noted .stop
    failWhen .other cue.stopFault
  requests := do
    noted .requests
    failWhen .capture cue.captureFault
    return cue.requests

/-- Sends calls to the server and notes the replies. -/
def sendAll (connects : Bool) (builder : Capture.Builder Stage) :
    List Http.Request → Stage → Stage
  | [], stage => stage
  | call :: rest, stage =>
    let (reply, stage) := Planner.exchange Stage.serverPlace connects builder call stage
    sendAll connects builder rest (stage.note (.reply reply))

/-- The planner that reports what the calls of a cue bring about. -/
def served (connects : Bool) (cue : Cue) (engine : Engine Stage) : Planner Stage where
  serve skipBuilds := do
    noted (.serve skipBuilds)
    failWhen .other cue.serveFault
    Act.of fun stage =>
      let (result, server) :=
        stage.server.serve (Capture.bindFailure? stage.server.address) skipBuilds
      (result, { stage with server })
  compose flags := do
    noted (.compose flags.arguments)
    Act.of fun stage => (.ok (), sendAll connects engine.build cue.calls stage)
    failWhen .orchestrator cue.composeFault
  stop := do
    noted .stop
    Act.of fun stage => (.ok (), { stage with server := stage.server.stop })
    failWhen .other cue.stopFault
  requests := do
    noted .requests
    Act.of fun stage => (stage.server.requests, stage)

/-- Performs an action on every model in turn. -/
def perform (planner : Engine Stage → Planner Stage) (historyLimit : Option Nat) (now : String)
    (action : Action) (stage : Stage) : List Outcome × Stage :=
  let setup : Setup Stage := ⟨planner, historyLimit, now⟩
  runAll (setup.perform action) stage.fleet stage

end ComposeDeploy.Rehearsal
