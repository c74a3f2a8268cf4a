/-
What can go wrong, and how it is told.

`Error` has one constructor for each cause and `Error.message` holds all the
wording. A problem in a JSON text is told by its kind alone, in angle brackets.
-/

namespace ComposeDeploy

/-- How a JSON text fails to give a value of the wanted type. -/
inductive JsonProblem where
  /-- It is no JSON text. -/
  | syntaxError
  /-- It is JSON of another type. -/
  | dataError
  deriving DecidableEq, Repr

/-- The mark of a problem in a message. -/
def JsonProblem.mark : JsonProblem → String
  | .syntaxError => "<json syntax>"
  | .dataError => "<json data>"

/-- The mark of a problem whose kind is not told. -/
def jsonMark : String := "<json>"

/-- Why the client of a container engine got no answer that it could use. -/
inductive ClientFailure where
  /-- The engine answered with a failure status. -/
  | response (status : Nat) (message : String)
  /-- No connection to the engine came about. -/
  | connection
  /-- The engine reported a failure within a stream of progress. -/
  | stream (text : String)
  /-- The answer is not what its request promises. -/
  | malformed (problem : JsonProblem)
  | certificate (path : String)
  | socket (path : String)
  deriving DecidableEq, Repr

/-- How a client failure is told. -/
def ClientFailure.message : ClientFailure → String
  | .response status message =>
    "Docker responded with status code " ++ toString status ++ ": " ++ message
  | .connection => "Error in the hyper legacy client: client error (Connect)"
  | .stream text => "Docker stream error: " ++ text
  | .malformed .syntaxError => jsonMark
  | .malformed .dataError => "Failed to deserialize JSON: " ++ jsonMark
  | .certificate path => "Cannot open/read certificate with path: " ++ path
  | .socket path => "Socket not found: " ++ path

/-- Whether the engine says that what was asked for does not exist. -/
def ClientFailure.isNotFound : ClientFailure → Bool
  | .response status _ => status == 404
  | _ => false

/-- Why an action did not succeed. -/
inductive Error where
  | capture (text : String)
  | invalidTemplate (name : String) (problem : JsonProblem)
  | invalidImageName (text : String)
  | imageResolution (image reason : String)
  | history (text : String)
  | containerNotFound (name : String)
  | removal (name reason : String)
  | start (name reason : String)
  | build (text : String)
  | orchestrator (text : String)
  | noPreviousDeployment
  | rollbackIndexOutOfRange (index : Int)
  | invalidRollbackIndex (text : String)
  | unsupportedVersion (text : String)
  | client (failure : ClientFailure)
  | io (text : String)
  | other (text : String)
  /-- The observed part of a run ended while the creation of a container was
  still being tried. -/
  | unfinished (name : String)
  deriving DecidableEq, Repr

/-- How an error is told. -/
def Error.message : Error → String
  | .capture text => "could not determine the orchestrator's intent: " ++ text
  | .invalidTemplate name problem =>
    "invalid create options for '" ++ name ++ "': " ++ problem.mark
  | .invalidImageName text => "invalid image reference '" ++ text ++ "'"
  | .imageResolution image reason =>
    "the image '" ++ image ++ "' could not be resolved: " ++ reason
  | .history text => "deployment history is unreadable: " ++ text
  | .containerNotFound name => "no such container: " ++ name
  | .removal name reason => "unable to remove container '" ++ name ++ "': " ++ reason
  | .start name reason => "problem starting container '" ++ name ++ "': " ++ reason
  | .build text => "forwarded image build failed: " ++ text
  | .orchestrator text => "orchestrator failed: " ++ text
  | .noPreviousDeployment => "There are no previous deployments"
  | .rollbackIndexOutOfRange _ => "The specified index does not exist"
  | .invalidRollbackIndex text => "'" ++ text ++ "' is not a valid deployment index"
  | .unsupportedVersion text => text
  | .client failure => "container engine error: " ++ failure.message
  | .io text => "IO error: " ++ text
  | .other text => text
  | .unfinished name => "container '" ++ name ++ "' is still being created"

/-- Whether the user's own input is the cause, not the engine or the
orchestrator. -/
def Error.isUsersFault : Error → Bool
  | .noPreviousDeployment | .rollbackIndexOutOfRange _ | .invalidRollbackIndex _ => true
  | _ => false

end ComposeDeploy
