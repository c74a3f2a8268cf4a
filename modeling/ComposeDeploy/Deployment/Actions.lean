/-
What can be done to an application on one engine.

Every action first learns from the orchestrator which containers belong to the
application; nothing is removed or started before all questions have been
answered. `deploy` and `rollback` then remove the old containers and start the
new ones with the longer history, `teardown` only removes, `list` only looks.
-/

import ComposeDeploy.Deployment.Steps
import ComposeDeploy.History.Listing
import ComposeDeploy.History.Target

namespace ComposeDeploy

/-- What all actions share. -/
structure Setup (W : Type) where
  /-- The planner that stands before an engine. -/
  planner : Engine W → Planner W
  /-- The number of deployments to remember, if limited. -/
  historyLimit : Option Nat
  /-- The time at which a deployment is made, as it is stored. -/
  now : String

/-- How to deploy. -/
structure Rollout where
  flags : UpFlags
  message : String
  skipBuilds : Bool
  deriving DecidableEq, Repr

/-- How to roll back. -/
structure Restoration where
  flags : UpFlags
  /-- The number of the deployment to restore. -/
  index : Option String
  skipBuilds : Bool
  deriving DecidableEq, Repr

/-- An action with its options. -/
inductive Action where
  | verify
  | deploy (options : Rollout)
  | rollback (options : Restoration)
  | list (flags : UpFlags)
  | teardown (flags : UpFlags)
  deriving DecidableEq, Repr

variable {W : Type}

/-! ### Services -/

/-- The service that a captured request describes, pinned to the image that
the engine finds for it. -/
def Engine.pin (engine : Engine W) (request : CreateRequest) : Act W Service := do
  let configuration ← Act.settle request.configuration
  match configuration.image?.filter fun image => Text.trim image ≠ "" with
  | none => throw (.imageResolution "" (request.name ++ " does not specify an image"))
  | some reference =>
    let id ← engine.identify reference
    return {
      name := request.name
      templateImage := some reference
      configuration := configuration.pinnedTo id }

/-- The services that captured requests describe, in order. -/
def Engine.pinAll (engine : Engine W) : List CreateRequest → Act W (List Service)
  | [] => pure []
  | request :: rest => do
    let service ← engine.pin request
    let services ← engine.pinAll rest
    return service :: services

namespace Setup

/-! ### Actions -/

/-- The containers that a deployment of `names` replaces: those of the same
names and those that only the active deployment has. -/
def stale (names : List String) (history : History) : List String :=
  let previous := (history.active?.map Manifest.containerNames).getD []
  names ++ previous.filter fun name => !names.contains name

/-- Replaces the running application by what the orchestrator wants to
create. -/
def deploy (setup : Setup W) (options : Rollout) (engine : Engine W) :
    Act W Answer := do
  let requests ← (setup.planner engine).collect options.flags options.skipBuilds
  let services ← engine.pinAll requests
  let names := services.map Service.name
  let history ← engine.carriedHistory names
  let _ ← engine.removeAll (stale names history)
  let manifest : Manifest := ⟨services, setup.now, options.message⟩
  engine.bringUp (history.push manifest setup.historyLimit)
  return .plain ("Successfully deployed " ++ toString services.length ++ " container(s)")

/-- Makes an earlier deployment active again, as a new entry of the history. -/
def rollback (setup : Setup W) (options : Restoration) (engine : Engine W) :
    Act W Answer := do
  let requests ← (setup.planner engine).collect options.flags options.skipBuilds
  let history ← engine.carriedHistory (requests.map CreateRequest.name)
  if history.length < 2 then throw .noPreviousDeployment
  let index ← Act.settle (history.rollbackPosition options.index)
  match history.get? index with
  | none => throw (.rollbackIndexOutOfRange (index + 1))
  | some target =>
    let _ ← engine.removeAll ((history.active?.map Manifest.containerNames).getD [])
    engine.bringUp (history.push (target.remadeAt setup.now) setup.historyLimit)
    return .plain ("Successfully rolled back to deployment: " ++ toString (index + 1))

/-- Shows the history. -/
def list (setup : Setup W) (flags : UpFlags) (engine : Engine W) : Act W Answer := do
  let requests ← (setup.planner engine).collect flags true
  let history ← engine.carriedHistory (requests.map CreateRequest.name)
  return .listing history.listing

/-- Removes the containers that the orchestrator wants to create, and with
them the history. -/
def teardown (setup : Setup W) (flags : UpFlags) (engine : Engine W) :
    Act W Answer := do
  let requests ← (setup.planner engine).collect flags true
  let removed ← engine.removeAll (requests.map CreateRequest.name)
  return .plain
    ("Successfully removed " ++ toString removed ++ " services and all deployment history")

/-- Checks that the engine can be used. -/
def verify (engine : Engine W) : Act W Answer := do
  engine.verify
  return .plain ("Successfully verified endpoint: " ++ engine.name)

/-- Runs an action on an engine. -/
def perform (setup : Setup W) (action : Action) (engine : Engine W) : Act W Answer :=
  match action with
  | .verify => verify engine
  | .deploy options => setup.deploy options engine
  | .rollback options => setup.rollback options engine
  | .list flags => setup.list flags engine
  | .teardown flags => setup.teardown flags engine

end Setup

end ComposeDeploy
