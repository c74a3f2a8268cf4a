/-
Requests to a container engine and its replies, as they cross the network.

A `Transport` carries one request at a time. `Transport.recorded` keeps a note
of every request that gets through, and `Replies.transport` answers from a list
of prepared replies.
-/

import ComposeDeploy.Engine.Basic
import ComposeDeploy.Json.Value
import ComposeDeploy.Text.Percent

namespace ComposeDeploy.Wire

/-- What a request carries. -/
inductive Content where
  | nothing
  | json (value : Json)
  | bytes (content : ByteArray)

/-- A request to an engine. -/
structure Request where
  method : String
  /-- The path, without the version of the interface. -/
  path : String
  query : List (String × String)
  content : Content

/-- A reply of an engine. -/
structure Reply where
  status : Nat
  body : ByteArray
  deriving DecidableEq

/-- A path with the characters that may not stand in one written as bytes. -/
def encodedPath (path : String) : String :=
  Text.Percent.encodePath path

/-- The query as it is sent: a key, an equals sign and a value for each pair. -/
def Request.queryPairs (request : Request) : List String :=
  request.query.map fun (key, value) =>
    Text.Percent.encodeForm key ++ "=" ++ Text.Percent.encodeForm value

/-- The method and the path of a request. -/
def Request.call (request : Request) : String :=
  request.method ++ " " ++ encodedPath request.path

/-- A way to an engine. -/
abbrev Transport (W : Type) := Request → W → Except ClientFailure Reply × W

/-- The way to an engine that cannot be reached. -/
def Transport.unreachable {W : Type} : Transport W :=
  fun _ world => (.error .connection, world)

/-- A transport that puts every request at the end of a list in the world. -/
def Transport.recorded {W : Type} (transport : Transport W) :
    Transport (W × List Request) :=
  fun request (world, requests) =>
    let (reply, world) := transport request world
    (reply, (world, requests ++ [request]))

/-! ### Prepared replies -/

/-- The replies prepared for each call, in order; the last one repeats. -/
abbrev Replies := Dictionary (List Reply)

/-- The reply to a call for which none is prepared. -/
def unknownCall : Reply where
  status := 404
  body := "\x7b\"message\":\"page not found\"\x7d".toUTF8

/-- Answers from prepared replies. -/
def Replies.transport : Transport Replies :=
  fun request replies =>
    match replies.get? request.call with
    | some (reply :: next :: rest) => (.ok reply, replies.insert request.call (next :: rest))
    | some [reply] => (.ok reply, replies)
    | some [] | none => (.ok unknownCall, replies)

end ComposeDeploy.Wire
