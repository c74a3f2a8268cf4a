/-
What a run prints, and its exit status.

`Report.ofOutcomes` tells every outcome once: successes on standard output and
failures on standard error, each in the order of the engines. A run fails if
any engine failed.
-/

import ComposeDeploy.Deployment.Fleet

namespace ComposeDeploy.CommandLine

/-- What a run has printed. -/
structure Report where
  stdout : String
  stderr : String
  /-- The exit status. -/
  status : Nat
  deriving DecidableEq, Repr

/-- The lines of a failure that ends a run, and its causes from the nearest to
the farthest; several causes are numbered. -/
def failureText (top : String) (causes : List String) : String :=
  /- The lines of a cause, those after its first under the first. -/
  let indented (first later cause : String) : String :=
    first ++ ("\n" ++ later).intercalate (Text.split cause '\n') ++ "\n"
  "Error: " ++ top ++ "\n" ++
    match causes with
    | [] => ""
    | [cause] => "\nCaused by:\n" ++ indented "    " "    " cause
    | causes =>
      "\nCaused by:\n" ++ String.join (causes.mapIdx fun i cause =>
        let number := toString i
        let padding := String.ofList (List.replicate (5 - number.length) ' ')
        indented (padding ++ number ++ ": ") "       " cause)

namespace Report

/-- A run that failed before it reached any engine. -/
def failed (top : String) (causes : List String) : Report where
  stdout := ""
  stderr := failureText top causes
  status := 1

/-- The block of a success; `labeled` puts the name of the engine before it. -/
def block (labeled : Bool) (endpoint : String) (answer : Answer) : String :=
  (if labeled then endpoint ++ ":\n" else "") ++ Text.trimRight answer.render ++ "\n"

/-- The message of a failure. -/
def line (endpoint : String) (e : Error) : String :=
  endpoint ++ ": " ++ e.message ++ "\n"

/-- What an outcome adds to standard output. -/
def stdoutOf (labeled : Bool) (outcome : Outcome) : String :=
  match outcome.result with
  | .ok answer => block labeled outcome.endpoint answer
  | .error _ => ""

/-- What an outcome adds to standard error. -/
def stderrOf (outcome : Outcome) : String :=
  match outcome.result with
  | .ok _ => ""
  | .error e => line outcome.endpoint e

/-- Whether the action failed on that engine. -/
def isFailure (outcome : Outcome) : Bool :=
  match outcome.result with
  | .ok _ => false
  | .error _ => true

/-- Why a run failed, if any of its outcomes is a failure. -/
def summary? (outcomes : List Outcome) : Option String :=
  let failures := outcomes.countP isFailure
  if failures = 0 then none
  else some (toString failures ++ " of " ++ toString outcomes.length ++ " endpoint(s) failed")

/-- The report of a run. -/
def ofOutcomes (outcomes : List Outcome) : Report :=
  let labeled := 1 < outcomes.length
  let stderr := String.join (outcomes.map stderrOf)
  { stdout := String.join (outcomes.map (stdoutOf labeled))
    stderr := stderr ++ ((summary? outcomes).map fun text => failureText text []).getD ""
    status := if (summary? outcomes).isSome then 1 else 0 }

end Report

end ComposeDeploy.CommandLine
