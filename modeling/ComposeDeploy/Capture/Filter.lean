/-
Filters of a container list.

A client that looks for the containers of one service sends a JSON object of
filters. Under `label` it lists labels as texts `name=value`: in an array, or
as the names of an object that says which of them count.
-/

import ComposeDeploy.Json.Reader
import ComposeDeploy.Text.Blank

namespace ComposeDeploy.Capture

/-- The label that names the service of a container. -/
def composeServiceLabel : String := "com.docker.compose.service"

/-- The values of one filter. -/
inductive Selection where
  | list (values : List String)
  | map (values : Dictionary Bool)
  deriving DecidableEq

namespace Selection

/-- A member that says whether a value counts. -/
def enabled? (member : String × Json) : Option (String × Bool) :=
  member.2.flag?.map fun b => (member.1, b)

/-- Reads the values of a filter. -/
def ofJson? : Json → Option Selection
  | .arr items => (items.mapM Json.text?).map .list
  | .obj members =>
    (members.mapM enabled?).map fun entries => .map (Dictionary.ofList entries)
  | _ => none

/-- The values that count. -/
def values : Selection → List String
  | .list values => values
  | .map values => (values.entries.filter Prod.snd).map Prod.fst

end Selection

/-- Reads the filters; of several under one name the last counts. -/
def filters? (text : String) : Option (Dictionary Selection) := do
  let members ← (← Json.read? text.toList).members?
  let entries ← members.mapM fun member =>
    (Selection.ofJson? member.2).map fun values => (member.1, values)
  return Dictionary.ofList entries

/-- The service that a filter text asks for, `none` within if it asks for no
particular one, `none` if it is no text of filters. -/
def wantedService? (text : String) : Option (Option String) :=
  (filters? text).map fun filters =>
    (filters.get? "label").bind fun labels =>
      labels.values.findSome? (Text.afterStart (composeServiceLabel ++ "="))

end ComposeDeploy.Capture
