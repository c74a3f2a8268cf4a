/-
Query strings of the calls that are captured.

Each call knows some keys. A known key may stand once at most; other keys
count for nothing.
-/

import ComposeDeploy.Engine.Basic
import ComposeDeploy.Text.Percent

namespace ComposeDeploy.Capture

/-- The first key among `known` that stands a second time. -/
def repeatedKey? (known : List String) :
    (seen : List String) → List (String × String) → Option String
  | _, [] => none
  | seen, (key, _) :: rest =>
    if key ∈ known ∧ key ∈ seen then some key else repeatedKey? known (key :: seen) rest

/-- The values of a query string, or the key that it repeats. -/
def query (known : List String) (text : String) : Except String (String → Option String) :=
  let pairs := Text.Percent.pairs text
  match repeatedKey? known [] pairs with
  | some key => .error key
  | none => .ok fun key => Entries.find? key pairs

/-- The keys of a build call. -/
def buildKeys : List String :=
  ["t", "dockerfile", "nocache", "rm", "forcerm", "q"]

/-- A text that is not empty. -/
def nonempty (value : Option String) : Option String :=
  value.filter (· ≠ "")

/-- The truth value that a query gives: 1 or 0, or a word in any letter case;
anything else leaves the default. -/
def flag (value : Option String) (default : Bool) : Bool :=
  match value.map Text.trim with
  | some text =>
    if text = "1" then true
    else if text = "0" then false
    else if Text.sameIgnoringCase text "true" then true
    else if Text.sameIgnoringCase text "false" then false
    else default
  | none => default

/-- The options of a build call. -/
def requestedBuild (get : String → Option String) : ImageBuild :=
  let usual := ImageBuild.usual
  { tag := nonempty (get "t")
    dockerfile := nonempty (get "dockerfile")
    noCache := flag (get "nocache") usual.noCache
    removeOnSuccess := flag (get "rm") usual.removeOnSuccess
    removeAlways := flag (get "forcerm") usual.removeAlways
    quiet := flag (get "q") usual.quiet }

end ComposeDeploy.Capture
