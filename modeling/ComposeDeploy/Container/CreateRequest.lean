/-
Captured calls that create a container.

A `CreateRequest` is the name and the body of such a call, as it was sent.
Container names have the form `project_service_index`; `serviceWithin` is their
middle part, underscores included.
-/

import ComposeDeploy.Container.Template

namespace ComposeDeploy

/-- The service within a container name: what stands between the first and
the last underscore, or the whole name if there are not two. Leading slashes
count for nothing. -/
def serviceWithin (containerName : String) : String :=
  let name := containerName.toList.dropWhile (· == '/')
  match Text.splitFirst '_' name with
  | some (_, rest) =>
    match Text.splitLast '_' rest with
    | some (service, _) => String.ofList service
    | none => String.ofList name
  | none => String.ofList name

/-- A call that creates a container. -/
structure CreateRequest where
  name : String
  body : ByteArray
  deriving DecidableEq

namespace CreateRequest

/-- The configuration that the call describes. -/
def configuration (request : CreateRequest) : Except Error Configuration :=
  Template.configuration request.name request.body

/-- The service that the container belongs to. -/
def service (request : CreateRequest) : String :=
  serviceWithin request.name

end CreateRequest

end ComposeDeploy
