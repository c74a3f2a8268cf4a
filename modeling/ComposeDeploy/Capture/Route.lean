/-
The paths of the captured interface.

`Route.ofPath?` finds the call that a path belongs to; each path has one
method. Paths are compared as they were sent, and the parts of them that name
something are decoded afterwards.
-/

import ComposeDeploy.Text.Percent

namespace ComposeDeploy.Capture

/-- The version of the interface, which begins most of its paths. -/
def interfaceVersion : String := "1.18"

/-- A call of the interface. -/
inductive Route where
  | ping
  | version
  | create
  | list
  /-- Inspects the container that the text names. -/
  | containerDetails (id : String)
  | startCreated (id : String)
  | pull
  /-- Inspects the image that the text names. -/
  | imageDetails (name : String)
  | build
  deriving DecidableEq, Repr

namespace Route

/-- The call of a path below the version. -/
def ofSegments? : List String → Option Route
  | ["_ping"] => some .ping
  | ["version"] => some .version
  | ["containers", "create"] => some .create
  | ["containers", "json"] => some .list
  | ["containers", id, "json"] => some (.containerDetails id)
  | ["containers", id, "start"] => some (.startCreated id)
  | ["images", "create"] => some .pull
  | "images" :: name =>
    let name := "/".intercalate name
    if name = "" then none else some (.imageDetails name)
  | ["build"] => some .build
  | _ => none

/-- The call that a path belongs to. -/
def ofPath? (path : String) : Option Route :=
  match Text.split path '/' with
  | ["", "_ping"] => some .ping
  | ["", "version"] => some .version
  | "" :: first :: rest => if first = "v" ++ interfaceVersion then ofSegments? rest else none
  | _ => none

/-- Whether the call changes something and is made by `POST`, or only asks and
is made by `GET`. -/
def isPost : Route → Bool
  | .create | .startCreated _ | .pull | .build => true
  | _ => false

/-- Whether a method may be used. -/
def allows (route : Route) (method : String) : Bool :=
  if route.isPost then method == "POST" else method == "GET" || method == "HEAD"

/-- The methods that may be used, as a reply lists them. -/
def allowed (route : Route) : String :=
  if route.isPost then "POST" else "GET,HEAD"

end Route

end ComposeDeploy.Capture
