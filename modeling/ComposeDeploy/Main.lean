/-
The program.

This layer hands the arguments, the environment and the files that are there
to `CommandLine.run`, and prints the report. It has no network: no engine can
be reached, and the compose tool is never started.
-/

import ComposeDeploy.CommandLine.Program
import ComposeDeploy.Engine.Client

namespace ComposeDeploy.CommandLine

/-- The variables that a run looks at. -/
def variableNames : List String :=
  ["HOME", "DOCKER_HOST", "DOCKER_CERT_PATH", Setting.captureAddress.name,
    Setting.composeTool.name, Setting.createRetrySeconds.name, Setting.historyLimit.name]

/-- The variables that are set. -/
def readEnvironment : IO (List (String × String)) := do
  let values ← variableNames.mapM fun name => return (name, ← IO.getEnv name)
  return values.filterMap fun (name, value) => value.map fun value => (name, value)

/-- Whether a file is there. -/
def isThere (path : String) : IO Bool := do
  try
    let _ ← IO.FS.realPath path
    return true
  catch _ => return false

/-- Whether a file can be read. -/
def isReadable (path : String) : IO Bool := do
  try
    let _ ← IO.FS.readBinFile path
    return true
  catch _ => return false

/-- What a run meets on a machine without a network. -/
def offline (environment : Environment) (files : Files) : Surroundings Capture.Server where
  environment
  files
  engine settings name := (Client.mk name .unreachable settings.retryInterval 0).engine
  planner settings engine :=
    Planner.ofServer ⟨id, fun server _ => server⟩ false Capture.bindFailure?
      settings.composeTool (fun _ => .error "No such file or directory (os error 2)") engine
  now := "1970-01-01T00:00:00+00:00"

end ComposeDeploy.CommandLine

section

open ComposeDeploy ComposeDeploy.CommandLine

/-- Runs the program and prints its report. -/
def main (args : List String) : IO UInt32 := do
  let entries ← readEnvironment
  let environment : Environment := fun name => Entries.find? name entries
  let paths := match Arguments.ofList environment args with
    | .ok arguments => arguments.connection.paths environment
    | .error _ => []
  let there ← paths.filterM fun path => isThere path
  let readable ← paths.filterM fun path => isReadable path
  let files : Files := ⟨fun path => there.contains path, fun path => readable.contains path⟩
  let address := (environment Setting.captureAddress.name).getD "localhost:61908"
  let (report, _) := run (offline environment files) args (.atAddress address)
  IO.print report.stdout
  IO.eprint report.stderr
  return UInt32.ofNat report.status

end
