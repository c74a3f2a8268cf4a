/-
An engine that is a map from names to configurations.

`ModelEngine` holds the images that the engine knows, its containers and the
faults that it shows; `ModelEngine.engine` is the engine of a world in which
such a model stands somewhere. A call that meets a fault changes nothing.
-/

import ComposeDeploy.Engine.Basic

namespace ComposeDeploy

/-- Failures that an engine shows. -/
structure Faults where
  version : Option String
  inspect : Dictionary String
  start : Dictionary String
  remove : Dictionary String
  build : Option String
  deriving DecidableEq

/-- An engine without failures. -/
def Faults.none : Faults where
  version := .none
  inspect := .empty
  start := .empty
  remove := .empty
  build := .none

/-- The state of an engine. -/
structure ModelEngine where
  name : String
  version : String
  /-- Identifiers of the images, by reference. -/
  images : Dictionary String
  /-- The containers; of some nothing is known but that they exist. -/
  containers : Dictionary (Option Configuration)
  faults : Faults
  deriving DecidableEq

/-- A call that an engine received. -/
inductive EngineCall where
  | version
  | resolve (reference : String)
  | inspect (container : String)
  | start (container : String) (configuration : Configuration)
  | remove (container : String)
  | build (options : ImageBuild) (context : ByteArray)
  deriving DecidableEq

namespace ModelEngine

/-- Reports the version. -/
def reportVersion (e : ModelEngine) : Except Error String :=
  match e.faults.version with
  | some text => .error (.other text)
  | none => .ok e.version

/-- Looks an image up. -/
def resolve (e : ModelEngine) (reference : String) : Except Error String :=
  match e.images.get? reference with
  | some id => .ok id
  | none => .error (.imageResolution reference "not found")

/-- Looks a container up. -/
def inspect (e : ModelEngine) (container : String) : Except Error (Option Inspection) :=
  match e.faults.inspect.get? container with
  | some text => .error (.other text)
  | none => .ok <| (e.containers.get? container).map fun configuration =>
      ⟨configuration.bind Configuration.labels?⟩

/-- Adds a container. -/
def start (e : ModelEngine) (container : String) (configuration : Configuration) :
    Except Error Unit × ModelEngine :=
  match e.faults.start.get? container with
  | some text => (.error (.start container text), e)
  | none => (.ok (), { e with containers := e.containers.insert container (some configuration) })

/-- Takes a container away. -/
def remove (e : ModelEngine) (container : String) : Except Error Unit × ModelEngine :=
  match e.faults.remove.get? container with
  | some text => (.error (.removal container text), e)
  | none =>
    match e.containers.get? container with
    | some _ => (.ok (), { e with containers := e.containers.erase container })
    | none => (.error (.containerNotFound container), e)

/-- Builds an image. -/
def build (e : ModelEngine) : Except Error Unit :=
  match e.faults.build with
  | some text => .error (.build text)
  | none => .ok ()

/-- Where in a world a model stands, and how the world notes a call to it. -/
structure Place (W : Type) where
  get : W → ModelEngine
  set : ModelEngine → W → W
  note : EngineCall → W → W

/-- A world that is one model and remembers no calls. -/
def Place.alone : Place ModelEngine where
  get := id
  set e _ := e
  note _ e := e

variable {W : Type}

/-- A call that leaves the model as it is. -/
def asked (place : Place W) (call : EngineCall) {α : Type}
    (answer : ModelEngine → Except Error α) : Act W α :=
  Act.of fun world => (answer (place.get world), place.note call world)

/-- A call that changes the model. -/
def changed (place : Place W) (call : EngineCall) {α : Type}
    (change : ModelEngine → Except Error α × ModelEngine) : Act W α :=
  Act.of fun world =>
    let (result, e) := change (place.get world)
    (result, place.set e (place.note call world))

/-- The engine that a model is. -/
def engine (name : String) (place : Place W) : Engine W where
  name
  version := asked place .version reportVersion
  identify reference := asked place (.resolve reference) fun e => e.resolve reference
  inspect container := asked place (.inspect container) fun e => e.inspect container
  start container configuration :=
    changed place (.start container configuration) fun e => e.start container configuration
  remove container := changed place (.remove container) fun e => e.remove container
  build options context := asked place (.build options context) build

end ModelEngine

end ComposeDeploy
