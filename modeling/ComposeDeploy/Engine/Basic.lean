/-
Container engines.

An `Engine` is what can be asked of one container engine. Its answers depend
on the state of a world `W` and change it; an `Act` is such a step, which
succeeds or fails and leaves the world in some state either way.
-/

import ComposeDeploy.Container.Configuration
import ComposeDeploy.Engine.Version
import ComposeDeploy.Error
import ComposeDeploy.History.Basic
import ComposeDeploy.Text.Utf8

namespace ComposeDeploy

/-- A step that may fail; what it did to the world stays done. -/
abbrev Act (W : Type) (α : Type) : Type := ExceptT Error (StateM W) α

namespace Act

variable {W α : Type}

/-- The step that acts on the world as `f` says. -/
def of (f : W → Except Error α × W) : Act W α :=
  ExceptT.mk f

/-- What a step answers in a world, and the world after it. -/
def on (act : Act W α) (world : W) : Except Error α × W :=
  StateT.run (ExceptT.run act) world

/-- The step with its failure as part of its answer. -/
def observe (act : Act W α) : Act W (Except Error α) :=
  Act.of fun world =>
    let (result, world) := act.on world
    (.ok result, world)

/-- Succeeds or fails as told, without touching the world. -/
def settle (result : Except Error α) : Act W α :=
  Act.of fun world => (result, world)

end Act

/-- How an image is to be built. -/
structure ImageBuild where
  tag : Option String
  /-- Where in the context the instructions stand. -/
  dockerfile : Option String
  noCache : Bool
  removeOnSuccess : Bool
  removeAlways : Bool
  quiet : Bool
  deriving DecidableEq, Repr

/-- The options of a build that sets none. -/
def ImageBuild.usual : ImageBuild where
  tag := none
  dockerfile := none
  noCache := false
  removeOnSuccess := true
  removeAlways := false
  quiet := false

/-- What inspecting a container tells. -/
structure Inspection where
  labels : Option Labels
  deriving DecidableEq

/-- The history text that an inspected container carries. -/
def Inspection.historyText? (inspection : Inspection) : Option String :=
  inspection.labels.bind fun labels => labels.get? historyLabel

/-- One container engine. -/
structure Engine (W : Type) where
  /-- The address at which it is reached. -/
  name : String
  /-- The version that it reports. -/
  version : Act W String
  /-- The identifier of the image that a reference means. -/
  identify : (reference : String) → Act W String
  /-- What there is to know about a container, if it exists. -/
  inspect : (container : String) → Act W (Option Inspection)
  /-- Creates and starts a container. -/
  start : (container : String) → Configuration → Act W Unit
  /-- Removes a container; fails with `containerNotFound` if there is none. -/
  remove : (container : String) → Act W Unit
  /-- Builds an image from a packed context. -/
  build : ImageBuild → ByteArray → Act W Unit

namespace Engine

variable {W : Type}

/-- Checks that the engine answers and is not too old. -/
def verify (engine : Engine W) : Act W Unit := do
  Act.settle (Version.check (← engine.version))

end Engine

end ComposeDeploy
