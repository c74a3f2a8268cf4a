/-
Settings from the environment.

Four variables are looked up, each with a default. `Settings.ofEnvironment` refuses
texts that are no numbers, and numbers and addresses that nothing could be done
with: an accepted pause is at least a second and an accepted history limit at
least 1.
-/

import ComposeDeploy.Engine.Address
import ComposeDeploy.Text.Numeral

namespace ComposeDeploy

/-- The settings of a run. -/
structure Settings where
  /-- Where the capturing server listens. -/
  captureAddress : String
  /-- The compose tool. -/
  composeTool : String
  /-- The seconds between two attempts to create a container. -/
  createRetrySeconds : Nat
  /-- The number of deployments to remember, if limited. -/
  historyLimit : Option Nat
  deriving DecidableEq, Repr

/-- The variables that are looked up. -/
inductive Setting where
  | captureAddress
  | composeTool
  | createRetrySeconds
  | historyLimit
  deriving DecidableEq, Repr

/-- The name of a variable. -/
def Setting.name : Setting → String
  | .captureAddress => "ZODIAC_PROXY_ADDRESS"
  | .composeTool => "ZODIAC_COMPOSE_BINARY"
  | .createRetrySeconds => "ZODIAC_CREATE_RETRY_SECS"
  | .historyLimit => "ZODIAC_HISTORY_LIMIT"

/-- Why settings are refused. -/
inductive SettingsError where
  /-- The text of the variable is no number. -/
  | invalid (setting : Setting) (problem : Text.Numeral.Problem)
  | emptyAddress
  | zeroRetry
  | zeroLimit
  deriving DecidableEq, Repr

namespace SettingsError

/-- What is told of a refusal, from the general to the particular. -/
def causes : SettingsError → List String
  | .invalid setting problem => ["Invalid " ++ setting.name, problem.message]
  | .emptyAddress => [Setting.captureAddress.name ++ " must not be empty"]
  | .zeroRetry => [Setting.createRetrySeconds.name ++ " must be greater than 0"]
  | .zeroLimit => [Setting.historyLimit.name ++ " must be greater than 0 when set"]

/-- How a refusal is told in one line. -/
def message (e : SettingsError) : String :=
  ": ".intercalate e.causes

end SettingsError

namespace Settings

/-- A number as a variable holds it. -/
def number (setting : Setting) (text : String) : Except SettingsError Nat :=
  (Text.Numeral.word text.toList).mapError (SettingsError.invalid setting)

/-- The limit that a text sets; a blank text sets none. -/
def limit (text : Option String) : Except SettingsError (Option Nat) :=
  match (text.map Text.trim).filter (· ≠ "") with
  | none => .ok none
  | some text => (number .historyLimit text).map some

/-- Refuses settings that nothing could be done with. -/
def checked (settings : Settings) : Except SettingsError Settings :=
  if Text.trim settings.captureAddress = "" then .error .emptyAddress
  else if settings.createRetrySeconds = 0 then .error .zeroRetry
  else if settings.historyLimit = some 0 then .error .zeroLimit
  else .ok settings

/-- The settings of an environment. -/
def ofEnvironment (env : Environment) : Except SettingsError Settings := do
  let seconds ← number .createRetrySeconds ((env Setting.createRetrySeconds.name).getD "5")
  let limit ← limit (env Setting.historyLimit.name)
  checked {
    captureAddress := (env Setting.captureAddress.name).getD "localhost:61908"
    composeTool := (env Setting.composeTool.name).getD "docker-compose"
    createRetrySeconds := seconds
    historyLimit := limit }

/-- The milliseconds between two attempts to create a container. -/
def retryInterval (settings : Settings) : Nat :=
  settings.createRetrySeconds * 1000

end Settings

end ComposeDeploy
