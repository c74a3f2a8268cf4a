/-
An engine behind a transport.

`Client.engine` turns each question to an engine into requests and reads the
replies. `identify` pulls an image only if the engine does not have it,
`start` creates a container again and again until that works and then starts
it once, and a stream of progress fails with the first item that reports a
failure.
-/

import ComposeDeploy.Engine.Attempted
import ComposeDeploy.Engine.Transport
import ComposeDeploy.ImageName
import ComposeDeploy.Json.Reader

namespace ComposeDeploy

/-- The means of reaching one engine. -/
structure Client (W : Type) where
  /-- The address of the engine. -/
  name : String
  transport : Wire.Transport W
  /-- The milliseconds between two attempts to create a container. -/
  retryInterval : Nat
  /-- The number of failed attempts that are watched. -/
  patience : Nat

namespace Wire

/-! ### Replies -/

/-- Whether a reply says that its request was carried out. -/
def Reply.isSuccess (reply : Reply) : Bool :=
  (200 ≤ reply.status && reply.status < 300) || reply.status == 304

/-- The message of an error object. -/
def errorMessage? (j : Json) : Option String := do
  match ← j.fields? ["message"] 1 with
  | [some message] => message.text?
  | _ => none

/-- The text of a failure: the message of an error object, or all of the body
if it is none. -/
def Reply.failureText (reply : Reply) : String :=
  let text := Text.Utf8.decodeReplacing reply.body
  ((Json.scan? text.toList).bind errorMessage?).getD text

/-- What a reply promises to be. -/
def Reply.decode {α : Type} (read : Json → Option α) (reply : Reply) : Except ClientFailure α :=
  match Json.scanBytes? reply.body with
  | none => .error (.malformed .syntaxError)
  | some j =>
    match read j with
    | none => .error (.malformed .dataError)
    | some value => .ok value

/-! ### Records in replies -/

/-- The optional text of a member of an object, where null counts as absent;
none if the value is no object or its member no text. -/
def textMember? (name : String) (j : Json) : Option (Option String) := do
  let members ← j.members?
  match Entries.find? name members with
  | none | some .null => return none
  | some value => return some (← value.text?)

/-- An object that may be absent or null. -/
def optional? {α : Type} (read : Json → Option α) : Option Json → Option (Option α)
  | none | some .null => some none
  | some j => (read j).map some

/-- What the details of a container say of its labels. -/
def inspection? (j : Json) : Option Inspection := do
  let members ← j.members?
  let configuration ←
    optional? Configuration.ofJson? (Entries.find? "Config" members)
  return ⟨configuration.bind Configuration.labels?⟩

/-! ### Progress -/

/-- The failure that an item of a stream of progress reports, if it reports
one; `detailed` says whether details alone count. -/
def progressFailure (detailed : Bool) (j : Json) : Except ClientFailure (Option String) :=
  match j.members? with
  | none => .error (.malformed .dataError)
  | some members =>
    match optional? Json.text? (Entries.find? "error" members),
        optional? (textMember? "message") (Entries.find? "errorDetail" members) with
    | none, _ | _, none => .error (.malformed .dataError)
    | some (some text), _ => .error (.stream text)
    | some none, some (some message) =>
      .ok (if detailed then some (message.getD "") else none)
    | some none, some none => .ok none

/-- The lines of a stream. -/
def streamLines (body : ByteArray) : List ByteArray :=
  (body.toList.splitOn 10).map fun line => ByteArray.mk line.toArray

/-- Follows a stream to its end or its first failure: a failure of the client,
or the text of one that only details report. -/
def follow (detailed : Bool) : List ByteArray → Except ClientFailure (Option String)
  | [] => .ok none
  | line :: rest =>
    if line.isEmpty then follow detailed rest
    else match Json.scanBytes? line with
      | none => .error (.malformed .syntaxError)
      | some j =>
        match progressFailure detailed j with
        | .error failure => .error failure
        | .ok (some text) => .ok (some text)
        | .ok none => follow detailed rest

end Wire

namespace Client

variable {W : Type}

/-! ### Exchanges -/

/-- Sends a request; a reply that is no success is a failure. -/
def send (client : Client W) (request : Wire.Request) (world : W) :
    Except ClientFailure Wire.Reply × W :=
  match client.transport request world with
  | (.ok reply, world) =>
    if reply.isSuccess then (.ok reply, world)
    else (.error (.response reply.status reply.failureText), world)
  | (.error failure, world) => (.error failure, world)

/-- Sends a request and reads the reply. -/
def ask (client : Client W) {α : Type} (request : Wire.Request)
    (read : Wire.Reply → Except ClientFailure α) (world : W) : Except ClientFailure α × W :=
  match client.send request world with
  | (.ok reply, world) => (read reply, world)
  | (.error failure, world) => (.error failure, world)

/-- An exchange as a step, its failure told by `cause`. -/
def step {α : Type} (cause : ClientFailure → Error)
    (exchange : W → Except ClientFailure α × W) : Act W α :=
  Act.of fun world =>
    match exchange world with
    | (.ok value, world) => (.ok value, world)
    | (.error failure, world) => (.error (cause failure), world)

/-- A request without content. -/
def bare (method path : String) (query : List (String × String)) : Wire.Request where
  method
  path
  query
  content := .nothing

/-! ### Version -/

/-- Asks for the version. -/
def version (client : Client W) : Act W String := do
  match ← step Error.client
      (client.ask (bare "GET" "/version" []) (Wire.Reply.decode (Wire.textMember? "Version"))) with
  | some version => return version
  | none => throw (.unsupportedVersion (client.name ++ " did not report a version"))

/-! ### Images -/

/-- The failure to resolve an image. -/
def unresolved (image : String) (failure : ClientFailure) : Error :=
  .imageResolution image failure.message

/-- Inspects an image: none if the engine does not have it, else its
identifier, which the reply may lack. -/
def lookUp (client : Client W) (image : String) : Act W (Option (Option String)) :=
  step (unresolved image) fun world =>
    match client.ask (bare "GET" ("/images/" ++ image ++ "/json") [])
        (Wire.Reply.decode (Wire.textMember? "Id")) world with
    | (.ok id, world) => (.ok (some id), world)
    | (.error failure, world) =>
      if failure.isNotFound then (.ok none, world) else (.error failure, world)

/-- The request that pulls an image. -/
def pullRequest (image : ImageName) : Wire.Request :=
  bare "POST" "/images/create"
    [("fromImage", image.repository), ("platform", ""), ("tag", image.selector)]

/-- Pulls an image and waits for the end of the pull. -/
def pull (client : Client W) (image : ImageName) : Act W Unit :=
  step (unresolved image.display) <|
    client.ask (pullRequest image) fun reply =>
      (Wire.follow false (Wire.streamLines reply.body)).map fun _ => ()

/-- Finds the identifier of an image, pulling it if the engine does not have
it. -/
def identify (client : Client W) (reference : String) : Act W String := do
  let image ← Act.settle (ImageName.ofText reference)
  let name := image.display
  let inspected ← match ← client.lookUp name with
    | some id => pure id
    | none => do
      client.pull image
      match ← client.lookUp name with
      | some id => pure id
      | none => throw (.imageResolution name "image not found after pull")
  match inspected with
  | some id => return id
  | none => throw (.imageResolution name "engine returned no image id")

/-! ### Containers -/

/-- Inspects a container. -/
def inspect (client : Client W) (container : String) : Act W (Option Inspection) :=
  step Error.client fun world =>
    match client.ask (bare "GET" ("/containers/" ++ container ++ "/json") [])
        (Wire.Reply.decode Wire.inspection?) world with
    | (.ok inspection, world) => (.ok (some inspection), world)
    | (.error failure, world) =>
      if failure.isNotFound then (.ok none, world) else (.error failure, world)

/-- The request that creates a container. -/
def createRequest (container : String) (configuration : Configuration) : Wire.Request where
  method := "POST"
  path := "/containers/create"
  query := [("name", container), ("platform", "")]
  content := .json configuration.toJson

/-- The identifier of a created container. -/
def createdId? (j : Json) : Option String :=
  (j.member? "Id").bind Json.text?

/-- Tries once to create a container. -/
def create (client : Client W) (container : String) (configuration : Configuration) :
    Act W String :=
  step Error.client <|
    client.ask (createRequest container configuration) (Wire.Reply.decode createdId?)

/-- The request that starts a created container. -/
def startRequest (id : String) : Wire.Request :=
  bare "POST" ("/containers/" ++ id ++ "/start") []

/-- Creates a container, however often that takes, and starts it once. -/
def start (client : Client W) (container : String) (configuration : Configuration) :
    Act W Unit :=
  Act.of fun world =>
    match untilSuccess client.retryInterval (client.create container configuration)
        client.patience world with
    | (none, world) => (.error (.unfinished container), world)
    | (some created, world) =>
      (step (fun failure => .start container failure.message)
        (client.ask (startRequest created.value) fun _ => .ok ())).on world

/-- The failure to remove a container. -/
def unremoved (container : String) (failure : ClientFailure) : Error :=
  if failure.isNotFound then .containerNotFound container
  else .removal container failure.message

/-- Removes a container, running or not. -/
def remove (client : Client W) (container : String) : Act W Unit :=
  step (unremoved container) <|
    client.ask
      (bare "DELETE" ("/containers/" ++ container)
        [("force", "true"), ("link", "false"), ("v", "false")])
      fun _ => .ok ()

/-! ### Builds -/

/-- A truth value in a query. -/
def flagText (b : Bool) : String :=
  if b then "true" else "false"

/-- The query of a build. -/
def buildPairs (options : ImageBuild) : List (String × String) :=
  [("dockerfile", options.dockerfile.getD "Dockerfile"),
    ("forcerm", flagText options.removeAlways),
    ("nocache", flagText options.noCache), ("platform", ""),
    ("q", flagText options.quiet), ("rm", flagText options.removeOnSuccess)] ++
  (options.tag.map fun tag => ("t", tag)).toList ++
  [("target", ""), ("version", "1")]

/-- Builds an image and waits for the end of the build. -/
def build (client : Client W) (options : ImageBuild) (context : ByteArray) : Act W Unit := do
  let request : Wire.Request := ⟨"POST", "/build", buildPairs options, .bytes context⟩
  match ← step (fun failure => .build failure.message)
      (client.ask request fun reply => Wire.follow true (Wire.streamLines reply.body)) with
  | none => return ()
  | some text => throw (.build text)

/-- The engine that a client reaches. -/
def engine (client : Client W) : Engine W where
  name := client.name
  version := client.version
  identify := client.identify
  inspect := client.inspect
  start := client.start
  remove := client.remove
  build := client.build

end Client

end ComposeDeploy
