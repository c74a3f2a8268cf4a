/-
A whole run of the program.

`run` reads the command line and the settings, reaches the engines and
performs the action on each of them in turn. Everything outside the program is
part of the `Surroundings`: the environment, the files, the engines and what
plans a deployment.
-/

import ComposeDeploy.CommandLine.Arguments
import ComposeDeploy.CommandLine.Report
import ComposeDeploy.Settings

namespace ComposeDeploy.CommandLine

/-- The name and the version of the program. -/
def programVersion : String := "zodiac 0.1.0"

/-- How the program is used. -/
def usage : String :=
  "Usage: zodiac [OPTIONS] <" ++ "|".intercalate (Command.all.map Command.name) ++ ">"

/-- What a run meets. -/
structure Surroundings (W : Type) where
  environment : Environment
  files : Files
  /-- The engine that is reached at a name. -/
  engine : Settings → (name : String) → Engine W
  /-- The planner that stands before an engine. -/
  planner : Settings → Engine W → Planner W
  /-- The time of the run. -/
  now : String

/-- The causes of a failure to reach engines, from the nearest to the
farthest. -/
def causes (e : Error) : List String :=
  match e with
  | .client failure => [e.message, failure.message]
  | .io text => [e.message, text]
  | e => [e.message]

/-- Performs what a command line asks for. -/
def perform {W : Type} (around : Surroundings W) (arguments : Arguments) (world : W) :
    Report × W :=
  match Settings.ofEnvironment around.environment with
  | .error e => (.failed "Failed to load configuration" e.causes, world)
  | .ok settings =>
    match arguments.connection.reachAll around.environment around.files with
    | .error e => (.failed "Failed to set up endpoints" (causes e), world)
    | .ok names =>
      let setup : Setup W := ⟨around.planner settings, settings.historyLimit, around.now⟩
      let (outcomes, world) :=
        runAll (setup.perform arguments.action) (names.map (around.engine settings)) world
      (.ofOutcomes outcomes, world)

/-- Runs the program. -/
def run {W : Type} (around : Surroundings W) (args : List String) (world : W) : Report × W :=
  match Arguments.ofList around.environment args with
  | .error .misuse => (⟨"", usage ++ "\n", 2⟩, world)
  | .error .help => (⟨usage ++ "\n", "", 0⟩, world)
  | .error .version => (⟨programVersion ++ "\n", "", 0⟩, world)
  | .ok arguments => perform around arguments world

end ComposeDeploy.CommandLine
