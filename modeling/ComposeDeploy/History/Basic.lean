/-
Deployments and their history.

A `Manifest` records one deployment: its services, when it was made and a
note. A `History` lists manifests oldest first; its last entry is the active
deployment. `push` appends and then keeps the newest entries up to a limit.
-/

import ComposeDeploy.Container.Configuration

namespace ComposeDeploy

/-- A service of a deployment, pinned to the image that it ran. -/
structure Service where
  /-- The name of its container. -/
  name : String
  /-- The image as the template wrote it. -/
  templateImage : Option String
  configuration : Configuration
  deriving DecidableEq

/-- One deployment. -/
structure Manifest where
  services : List Service
  /-- When it was made, as stored. -/
  madeAt : String
  message : String
  deriving DecidableEq

/-- All deployments that are remembered, oldest first. -/
structure History where
  entries : List Manifest
  deriving DecidableEq

/-- The label that holds the history. -/
def historyLabel : String := "zodiacManifest"

namespace Service

/-- The configuration to start the service with: its own, carrying a history. -/
def labeled (service : Service) (history : String) : Configuration :=
  service.configuration.withLabel historyLabel history

end Service

namespace Manifest

/-- The same deployment made again at another time. -/
def remadeAt (manifest : Manifest) (now : String) : Manifest :=
  { manifest with madeAt := now }

/-- The names of the services, in order. -/
def containerNames (manifest : Manifest) : List String :=
  manifest.services.map Service.name

end Manifest

namespace History

/-- The history before the first deployment. -/
def empty : History := ⟨[]⟩

instance : Inhabited History := ⟨empty⟩

/-- The number of deployments. -/
def length (history : History) : Nat :=
  history.entries.length

/-- The deployment that runs. -/
def active? (history : History) : Option Manifest :=
  history.entries.getLast?

/-- The deployment at a position, counted from 0. -/
def get? (history : History) (index : Nat) : Option Manifest :=
  history.entries[index]?

/-- The newest `limit` deployments. -/
def keepNewest (history : History) (limit : Nat) : History :=
  ⟨history.entries.drop (history.length - limit)⟩

/-- The history with a new active deployment, cut to `limit` if there is one. -/
def push (history : History) (manifest : Manifest) (limit : Option Nat) : History :=
  let longer : History := ⟨history.entries ++ [manifest]⟩
  match limit with
  | none => longer
  | some limit => longer.keepNewest limit

theorem entries_keepNewest (history : History) (limit : Nat) :
    (history.keepNewest limit).entries =
      history.entries.drop (history.entries.length - limit) := rfl

theorem length_keepNewest (history : History) (limit : Nat) :
    (history.keepNewest limit).length = min history.length limit := by
  simp only [length, keepNewest, List.length_drop]
  omega

end History

end ComposeDeploy
