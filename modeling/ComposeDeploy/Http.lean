/-
Requests and replies of HTTP, as far as this library exchanges them.
-/

import ComposeDeploy.Json.Writer
import ComposeDeploy.Text.Blank
import ComposeDeploy.Text.Utf8

namespace ComposeDeploy.Http

/-- The body of a request. -/
inductive Body where
  | bytes (content : ByteArray)
  /-- A body that fails while it is read. -/
  | broken (text : String)
  deriving DecidableEq

/-- A request. -/
structure Request where
  method : String
  /-- The path as it was sent, not decoded. -/
  path : String
  /-- What follows the question mark. -/
  query : String
  body : Body
  deriving DecidableEq

/-- A reply. -/
structure Reply where
  status : Nat
  contentType : Option String
  apiVersion : Option String
  allow : Option String
  body : String
  deriving DecidableEq, Repr

/-- The path and the query of a request target; a fragment counts for
nothing. -/
def splitTarget (target : String) : String × String :=
  let cs := target.toList.takeWhile (· ≠ '#')
  match Text.splitFirst '?' cs with
  | some (path, query) => (String.ofList path, String.ofList query)
  | none => (String.ofList cs, "")

/-- The request for a target. -/
def Request.of (method target : String) (body : Body) : Request :=
  let (path, query) := splitTarget target
  { method, path, query, body }

/-- A reply that holds only its status. -/
def Reply.bare (status : Nat) : Reply where
  status
  contentType := none
  apiVersion := none
  allow := none
  body := ""

/-- A reply with JSON. -/
def Reply.json (status : Nat) (value : Json) : Reply :=
  { Reply.bare status with contentType := some "application/json", body := value.render }

/-- A reply with plain text. -/
def Reply.text (status : Nat) (text : String) : Reply :=
  { Reply.bare status with contentType := some "text/plain; charset=utf-8", body := text }

/-- Whether a reply refuses its request. -/
def Reply.isRefusal (reply : Reply) : Bool :=
  400 ≤ reply.status

end ComposeDeploy.Http
