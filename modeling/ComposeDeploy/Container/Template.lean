/-
The body of a call that creates a container.

Older clients write some booleans as strings, commands as one string of words
and resource limits beside the host settings instead of within them.
`modernise` brings a body to the form that the schema has, and
`Template.configuration` reads any body.
-/

import ComposeDeploy.Container.Configuration
import ComposeDeploy.Error
import ComposeDeploy.Json.Reader
import ComposeDeploy.Text.Blank

namespace ComposeDeploy.Template

/-- The members of a JSON object. -/
abbrev Members := List (String × Json)

/-! ### Older forms -/

/-- The flags of a configuration that may be written as strings. -/
def flagNames : List String :=
  ["Tty", "OpenStdin", "AttachStdin", "AttachStdout", "AttachStderr", "StdinOnce",
    "NetworkDisabled"]

/-- The flags of the host settings that may be written as strings. -/
def hostFlagNames : List String :=
  ["Privileged", "ReadonlyRootfs", "PublishAllPorts"]

/-- The commands that may be written as one string. -/
def commandNames : List String :=
  ["Entrypoint", "Cmd"]

/-- The limits that may stand outside the host settings, with their names
within. -/
def limitNames : List (String × String) :=
  [("Memory", "Memory"), ("MemorySwap", "MemorySwap"), ("CpuShares", "CpuShares"),
    ("Cpuset", "CpusetCpus")]

/-- A flag: the string `true`, in any letter case, is the truth value, and any
other string is its opposite. -/
def flagOf : Json → Json
  | .str s => .bool (Text.sameIgnoringCase s "true")
  | j => j

/-- A command: a string is the list of its words. -/
def commandOf : Json → Json
  | .str s => .arr ((Text.words s).map .str)
  | j => j

/-- Changes the member of that name, if there is one. -/
def adjust (change : Json → Json) (name : String) (members : Members) : Members :=
  members.map fun member =>
    if member.1 = name then (member.1, change member.2) else member

/-- Changes all members of these names. -/
def adjustAll (change : Json → Json) (names : List String) (members : Members) : Members :=
  names.foldl (fun members name => adjust change name members) members

/-! ### Resource limits -/

/-- The limits that stand outside the host settings and are not null, under
their names within. -/
def outerLimits (members : Members) : Members :=
  limitNames.filterMap fun (outer, inner) =>
    match Entries.find? outer members with
    | none | some .null => none
    | some value => some (inner, value)

/-- The members other than limits outside the host settings. -/
def withoutLimits (members : Members) : Members :=
  members.filter fun member => !(limitNames.any fun limit => limit.1 == member.1)

/-- Adds a member unless there is one of its name. -/
def addMissing (members : Members) (member : String × Json) : Members :=
  if member.1 ∈ Entries.names members then members else members ++ [member]

/-- Puts the outer limits within the host settings, where those do not set
them; host settings that are no object are replaced. -/
def moveLimits (members : Members) : Members :=
  let rest := withoutLimits members
  match outerLimits members with
  | [] => rest
  | limits =>
    let host := ((Entries.find? "HostConfig" rest).bind Json.members?).getD []
    Entries.put "HostConfig" (.obj (limits.foldl addMissing host)) rest

/-- Host settings with their flags in the modern form. -/
def modernHost : Json → Json
  | .obj host => .obj (adjustAll flagOf hostFlagNames host)
  | j => j

/-- The members of a body in the form of the schema. -/
def modernise (members : Members) : Members :=
  adjust modernHost "HostConfig"
    (moveLimits (adjustAll commandOf commandNames (adjustAll flagOf flagNames members)))

/-! ### Reading -/

/-- A body in the form of the schema; of repeated members the last counts. -/
def normalise (body : Json) : Json :=
  match body.lastWins with
  | .obj members => .obj (modernise members)
  | j => j

/-- The configuration that a body describes. -/
def configuration (name : String) (body : ByteArray) : Except Error Configuration :=
  match Json.readBytes? body with
  | none => .error (.invalidTemplate name .syntaxError)
  | some j =>
    match Configuration.ofJson? (normalise j) with
    | none => .error (.invalidTemplate name .dataError)
    | some config => .ok config

end ComposeDeploy.Template
