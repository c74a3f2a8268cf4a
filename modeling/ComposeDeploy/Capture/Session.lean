/-
Capturing what an orchestrator wants to create.

A `Session` stands in for an engine during one run of the orchestrator. It
keeps the calls that create containers (`requests`), refuses what it cannot
understand and remembers every refusal (`errors`), reports an image missing
when it is first asked for, so that the orchestrator builds it, and forwards
builds to the real engine unless builds are disabled. `handle` answers one
request; `captured` is what the run has shown: all requests, or one error made
of all refusals.
-/

import ComposeDeploy.Capture.Filter
import ComposeDeploy.Capture.Query
import ComposeDeploy.Capture.Route
import ComposeDeploy.Container.CreateRequest
import ComposeDeploy.Http

namespace ComposeDeploy

namespace Capture

/-- What a run of the orchestrator has shown so far. -/
structure Record where
  /-- The calls that create containers, oldest first. -/
  requests : List CreateRequest
  /-- The reasons of refused calls, oldest first. -/
  errors : List String
  /-- How often each image was asked for. -/
  inspections : Dictionary Nat
  deriving DecidableEq

/-- Before the first call. -/
def Record.empty : Record where
  requests := []
  errors := []
  inspections := .empty

/-- All captured requests, or one error if any call was refused. -/
def Record.captured (record : Record) : Except Error (List CreateRequest) :=
  if record.errors.isEmpty then .ok record.requests
  else .error (.capture ("; ".intercalate record.errors))

/-- The record with one request more. -/
def Record.capture (record : Record) (request : CreateRequest) : Record :=
  { record with requests := record.requests ++ [request] }

/-- The record with one refusal more. -/
def Record.refuse (record : Record) (message : String) : Record :=
  { record with errors := record.errors ++ [message] }

/-! ### Replies -/

/-- A failure as engines report it. -/
def failure (status : Nat) (message : String) : Http.Reply :=
  .json status (.obj [("message", .str message)])

/-- The engine version that the orchestrator is told. -/
def announcedVersion : String := "1.6.2"

/-- The identifier of everything that is not really created. -/
def feignedId : String := "doesnt_matter"

/-- The reply to a version request. -/
def versionReply : Http.Reply :=
  .json 200 <| .obj
    [("Version", .str announcedVersion), ("ApiVersion", .str interfaceVersion),
      ("MinAPIVersion", .str interfaceVersion), ("Os", .str "linux"), ("Arch", .str "amd64")]

/-- The reply to a ping. -/
def pingReply : Http.Reply :=
  { Http.Reply.text 200 "OK" with apiVersion := some interfaceVersion }

/-- The reply to a captured request. -/
def createdReply : Http.Reply :=
  .json 201 (.obj [("Id", .str feignedId), ("Warnings", .arr [])])

/-- The details of a container that was not really created. -/
def containerReply : Http.Reply :=
  .json 200 <| .obj
    [("Id", .str "id_doesnt_matter"), ("Name", .str "name_doesnt_matter"),
      ("Config", .obj
        [("Labels", .obj [("com.docker.compose.container-number", .str "1")])])]

/-- The reply to a pull. -/
def pullReply : Http.Reply :=
  { Http.Reply.json 200 .null with
    body := (Json.obj [("status", .str "Download complete")]).render ++ "\n" }

/-- The reply to a build. -/
def buildReply : Http.Reply :=
  { Http.Reply.json 200 .null with
    body :=
      (Json.obj [("stream", .str ("Successfully built " ++ feignedId ++ "\n"))]).render ++ "\n" }

/-- The reply that an image is present. -/
def imageReply (name : String) : Http.Reply :=
  .json 200 (.obj [("Id", .str name)])

/-- An entry of a container list. -/
def summary (name : String) : Json :=
  .obj [("Id", .str name), ("Names", .arr [.str name])]

/-- The reply to a query that repeats a key. -/
def repeatedReply (key : String) : Http.Reply :=
  .text 400 ("Failed to deserialize query string: duplicate field \x60" ++ key ++ "\x60")

/-- The reply to a path whose part `part` is no UTF-8. -/
def undecodableReply (part : String) : Http.Reply :=
  .text 400 ("Invalid URL: Invalid UTF-8 in \x60" ++ part ++ "\x60")

/-- The reply to a path without a call. -/
def unknownReply (path : String) : Http.Reply :=
  failure 404 ("page not found: " ++ path)

/-- The reply to a call by another method than its own. -/
def methodReply (route : Route) : Http.Reply :=
  { Http.Reply.bare 405 with allow := some route.allowed }

/-! ### Calls -/

/-- Refuses a call and remembers why. -/
def refusal (record : Record) (status : Nat) (message : String) : Http.Reply × Record :=
  (failure status message, record.refuse message)

/-- Captures a call that creates a container. -/
def create (query : String → Option String) (body : Http.Body) (record : Record) :
    Http.Reply × Record :=
  match nonempty (query "name"), body with
  | none, _ => refusal record 400 "container create request is missing a name"
  | some name, .broken text =>
    refusal record 400 ("unable to read create options for '" ++ name ++ "': " ++ text)
  | some name, .bytes content =>
    match Json.readBytes? content with
    | none =>
      refusal record 400
        ("create options for '" ++ name ++ "' are not valid JSON: " ++ jsonMark)
    | some _ => (createdReply, record.capture ⟨name, content⟩)

/-- The captured containers of a service, or all of them. -/
def listed (record : Record) (service : Option String) : List CreateRequest :=
  match service with
  | none => record.requests
  | some service => record.requests.filter fun request => request.service == service

/-- Lists the captured containers. -/
def list (query : String → Option String) (record : Record) : Http.Reply × Record :=
  let reply service : Http.Reply :=
    .json 200 (.arr ((listed record service).map fun request => summary request.name))
  match nonempty (query "filters") with
  | none => (reply none, record)
  | some text =>
    match wantedService? text with
    | some service => (reply service, record)
    | none =>
      refusal record 400 ("unable to parse container filters '" ++ text ++ "': " ++ jsonMark)

/-- The image that a decoded path names: `/json` may follow it. -/
def imageName (path : String) : String :=
  let cs := path.toList
  match Text.stripStart "/json".toList.reverse cs.reverse with
  | some rest => String.ofList rest.reverse
  | none => path

/-- Reports an image missing the first time and present afterwards. -/
def reportImage (skipBuilds : Bool) (name : String) (record : Record) :
    Http.Reply × Record :=
  if skipBuilds then (imageReply name, record)
  else
    let before := (record.inspections.get? name).getD 0
    let record := { record with inspections := record.inspections.insert name (before + 1) }
    (if before = 0 then failure 404 ("No such image: " ++ name) else imageReply name, record)

/-- A forwarded build, as a step of the world. -/
abbrev Builder (W : Type) := ImageBuild → ByteArray → Act W Unit

/-- Forwards a build, or feigns it when builds are disabled. -/
def build {W : Type} (builder : Builder W) (skipBuilds : Bool)
    (query : String → Option String) (body : Http.Body) (record : Record) (world : W) :
    (Http.Reply × Record) × W :=
  if skipBuilds then ((buildReply, record), world)
  else match body with
    | .broken text => (refusal record 400 ("unable to read build context: " ++ text), world)
    | .bytes context =>
      match (builder (requestedBuild query) context).on world with
      | (.ok _, world) => ((buildReply, record), world)
      | (.error e, world) => (refusal record 500 e.message, world)

/-- Runs a call with its query, unless the query repeats a key. -/
def withQuery {W : Type} (known : List String) (request : Http.Request)
    (call : (String → Option String) → (Http.Reply × Record) × W) (record : Record) (world : W) :
    (Http.Reply × Record) × W :=
  match query known request.query with
  | .error key => ((repeatedReply key, record), world)
  | .ok get => call get

/-- Runs a call with a part of its path, unless that is no UTF-8. -/
def withPart {W : Type} (part raw : String)
    (call : String → Http.Reply × Record) (record : Record) (world : W) :
    (Http.Reply × Record) × W :=
  match Text.Percent.decodeText? raw with
  | none => ((undecodableReply part, record), world)
  | some text => (call text, world)

/-- Answers a call made by a method that it allows. -/
def answer {W : Type} (builder : Builder W) (skipBuilds : Bool) (route : Route)
    (request : Http.Request) (record : Record) (world : W) : (Http.Reply × Record) × W :=
  match route with
  | .ping => ((pingReply, record), world)
  | .version => ((versionReply, record), world)
  | .create =>
    withQuery ["name"] request (fun get => (create get request.body record, world)) record world
  | .list => withQuery ["filters"] request (fun get => (list get record, world)) record world
  | .containerDetails id => withPart "id" id (fun _ => (containerReply, record)) record world
  | .startCreated id => withPart "id" id (fun _ => (.bare 204, record)) record world
  | .pull => ((pullReply, record), world)
  | .imageDetails path =>
    withPart "name" path (fun path => reportImage skipBuilds (imageName path) record)
      record world
  | .build =>
    withQuery buildKeys request
      (fun get => build builder skipBuilds get request.body record world) record world

/-- The reply as it is sent: a `HEAD` request gets no body. -/
def sent (method : String) (reply : Http.Reply) : Http.Reply :=
  if method = "HEAD" then { reply with body := "" } else reply

/-- Answers a request. -/
def handle {W : Type} (builder : Builder W) (skipBuilds : Bool) (request : Http.Request)
    (record : Record) (world : W) : (Http.Reply × Record) × W :=
  let ((reply, record), world) :=
    match Route.ofPath? request.path with
    | none => ((unknownReply request.path, record), world)
    | some route =>
      if route.allows request.method then
        answer builder skipBuilds route request record world
      else ((methodReply route, record), world)
  ((sent request.method reply, record), world)

end Capture

end ComposeDeploy
