/-
Actions on several engines.

The engines take their turns in order. A failure on one does not keep the
others from theirs, and every engine has its own outcome.
-/

import ComposeDeploy.Deployment.Actions

namespace ComposeDeploy

/-- What came of an action on one engine. -/
structure Outcome where
  endpoint : String
  result : Except Error Answer


/-- Runs an action on engines in order. -/
def runAll {W : Type} (action : Engine W → Act W Answer) :
    List (Engine W) → W → List Outcome × W
  | [], world => ([], world)
  | engine :: rest, world =>
    let (result, world) := (action engine).on world
    let (outcomes, world) := runAll action rest world
    (⟨engine.name, result⟩ :: outcomes, world)

end ComposeDeploy
