/-
Running the compose tool.

The tool is started with the flags of an `up` run and with an environment that
points it at the capturing server. What it then does is a `Script`: it sends
requests, each of which may depend on the replies before it, and ends with an
exit status.
-/

import ComposeDeploy.Capture.Server

namespace ComposeDeploy

/-- Flags that are handed through to the compose tool. -/
structure UpFlags where
  file : Option String
  projectName : Option String
  deriving DecidableEq, Repr

/-- The arguments of an `up` run. -/
def UpFlags.arguments (flags : UpFlags) : List String :=
  (match flags.projectName with
    | some name => ["-p", name]
    | none => []) ++
  (match flags.file with
    | some file => ["-f", file]
    | none => []) ++ ["up", "-d"]

/-- One start of the compose tool. -/
structure Invocation where
  binary : String
  arguments : List String
  /-- Variables that are set, or unset, for the tool; all others are handed
  down. -/
  environment : List (String × Option String)
  deriving DecidableEq, Repr

/-- The start of the tool against the server at `captureAddress`. -/
def Invocation.of (binary captureAddress : String) (flags : UpFlags) : Invocation where
  binary
  arguments := flags.arguments
  environment :=
    [("DOCKER_HOST", some ("tcp://" ++ captureAddress)),
      ("DOCKER_API_VERSION", some Capture.interfaceVersion),
      ("DOCKER_TLS_VERIFY", none), ("DOCKER_CERT_PATH", none)]

/-- The value that a variable has for the tool. -/
def Invocation.valueFor? (invocation : Invocation) (inherited : String → Option String)
    (name : String) : Option String :=
  match Entries.find? name invocation.environment with
  | some value => value
  | none => inherited name

/-- What a started tool does. -/
inductive Script where
  | finish (status : Nat)
  | send (request : Http.Request)
      (next : Except Capture.Unanswered Http.Reply → Script)

namespace Script

/-- The script that sends requests whatever the replies are. -/
def ofRequests (requests : List Http.Request) (status : Nat) : Script :=
  requests.foldr (fun request rest => .send request fun _ => rest) (.finish status)

/-- Plays a script in a world that answers requests. -/
def play {W : Type} (exchange : Http.Request → W → Except Capture.Unanswered Http.Reply × W) :
    Script → W → Nat × W
  | .finish status, world => (status, world)
  | .send request next, world =>
    (next (exchange request world).1).play exchange (exchange request world).2

end Script

/-- The failure of a tool that could not be started. -/
def notStarted (binary reason : String) : Error :=
  .orchestrator ("unable to run " ++ binary ++ ": " ++ reason)

/-- What an exit status means. -/
def exited (binary : String) (status : Nat) : Except Error Unit :=
  if status = 0 then .ok ()
  else .error (.orchestrator (binary ++ " exited with exit status: " ++ toString status))

/-- Runs the tool: it cannot be started, or it plays its script. -/
def Invocation.run {W : Type} (invocation : Invocation) (launch : Except String Script)
    (exchange : Http.Request → W → Except Capture.Unanswered Http.Reply × W) : Act W Unit :=
  match launch with
  | .error reason => Act.settle (.error (notStarted invocation.binary reason))
  | .ok script => Act.of fun world =>
    let (status, world) := script.play exchange world
    (exited invocation.binary status, world)

end ComposeDeploy
