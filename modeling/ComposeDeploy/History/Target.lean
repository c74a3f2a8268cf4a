/-
Which deployment a rollback restores.

Deployments are numbered from 1, oldest first. A rollback names one by its
number or, naming none, means the one before the active deployment.
-/

import ComposeDeploy.Error
import ComposeDeploy.History.Basic
import ComposeDeploy.Text.Blank
import ComposeDeploy.Text.Numeral

namespace ComposeDeploy.History

/-- The position, counted from 0, of the deployment to restore. -/
def rollbackPosition (history : History) (requested : Option String) : Except Error Nat :=
  match requested with
  | none =>
    if 2 ≤ history.length then .ok (history.length - 2) else .error .noPreviousDeployment
  | some text =>
    match Text.Numeral.signed (Text.trim text).toList with
    | .error _ => .error (.invalidRollbackIndex text)
    | .ok position =>
      if position < 1 ∨ (history.length : Int) < position then
        .error (.rollbackIndexOutOfRange position)
      else .ok (position.toNat - 1)

end ComposeDeploy.History
