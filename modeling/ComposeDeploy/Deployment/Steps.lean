/-
The steps that deployment actions are made of.

Each works through a list in order and stops at its first failure:
`carriedHistory` inspects containers up to the first that exists, `removeAll`
removes what is there, `startAll` starts services with a history.
-/

import ComposeDeploy.Deployment.Planning
import ComposeDeploy.History.Label
import ComposeDeploy.History.Listing

namespace ComposeDeploy

/-- What an action reports. -/
inductive Answer where
  | plain (text : String)
  | listing (table : Listing)
  deriving DecidableEq, Repr

/-- What an action prints. -/
def Answer.render : Answer → String
  | .plain text => text
  | .listing table => table.render

namespace Engine

variable {W : Type}

/-- The history that the first existing container of `names` carries; the
empty one if none exists. -/
def carriedHistory (engine : Engine W) : List String → Act W History
  | [] => pure .empty
  | name :: rest => do
    match ← engine.inspect name with
    | some inspection => Act.settle (History.ofLabelText inspection.historyText?)
    | none => engine.carriedHistory rest

/-- Removes a container if it is there, and tells whether it was. -/
def discard (engine : Engine W) (name : String) : Act W Bool := do
  match ← (engine.remove name).observe with
  | .ok () => return true
  | .error (.containerNotFound _) => return false
  | .error e => throw e

/-- Removes containers in order, and tells how many were there. -/
def removeAll (engine : Engine W) : List String → Act W Nat
  | [] => pure 0
  | name :: rest => do
    let present ← engine.discard name
    let others ← engine.removeAll rest
    return (if present then 1 else 0) + others

/-- Starts services in order, each carrying the history text `label`. -/
def startAll (engine : Engine W) (label : String) : List Service → Act W Unit
  | [] => pure ()
  | service :: rest => do
    engine.start service.name (service.labeled label)
    engine.startAll label rest

/-- Starts the active deployment of a history. -/
def bringUp (engine : Engine W) (history : History) : Act W Unit :=
  match history.active? with
  | none => pure ()
  | some active => engine.startAll history.labelText active.services

end Engine

end ComposeDeploy
