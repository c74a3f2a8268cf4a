/-
The history as the text of a label.

`labelText` writes a history as JSON, `ofLabelText` reads it. An absent or blank
label is the empty history; any other text must be the JSON of a history, so a
damaged label is an error and never an empty history.
-/

import ComposeDeploy.Error
import ComposeDeploy.History.Basic
import ComposeDeploy.Json.Reader
import ComposeDeploy.Json.Writer
import ComposeDeploy.Text.Blank

namespace ComposeDeploy

namespace Service

/-- Writes a service. -/
def toJson (service : Service) : Json :=
  .obj <|
    ("Name", .str service.name) ::
      ((service.templateImage.map fun image => ("OriginalImageReference", .str image)).toList ++
        [("ContainerConfig", service.configuration.toJson)])

/-- A string, for which null stands if it is absent. -/
def optionalText? : Option Json → Option (Option String)
  | none | some .null => some none
  | some j => j.text?.map some

/-- Reads a service. -/
def ofJson? (j : Json) : Option Service := do
  match ← j.fields? ["Name", "OriginalImageReference", "ContainerConfig"] 3 with
  | [some name, image, some configuration] =>
    return {
      name := ← name.text?
      templateImage := ← optionalText? image
      configuration := ← Configuration.ofJson? configuration }
  | _ => none

end Service

namespace Manifest

/-- Writes a deployment; an empty message is left out. -/
def toJson (manifest : Manifest) : Json :=
  .obj <|
    ("Services", .arr (manifest.services.map Service.toJson)) ::
      ("DeployedAt", .str manifest.madeAt) ::
        (if manifest.message = "" then [] else [("Message", .str manifest.message)])

/-- Reads a deployment. -/
def ofJson? (j : Json) : Option Manifest := do
  match ← j.fields? ["Services", "DeployedAt", "Message"] 2 with
  | [some services, some madeAt, message] =>
    return {
      services := ← (← services.items?).mapM Service.ofJson?
      madeAt := ← madeAt.text?
      message := ← match message with
        | none => some ""
        | some message => message.text? }
  | _ => none

end Manifest

namespace History

/-- Writes a history. -/
def toJson (history : History) : Json :=
  .arr (history.entries.map Manifest.toJson)

/-- Reads a history. -/
def ofJson? (j : Json) : Option History := do
  return ⟨← (← j.items?).mapM Manifest.ofJson?⟩

/-- The text of a label that holds the history. -/
def labelText (history : History) : String :=
  history.toJson.render

/-- Why a label is refused. -/
def unreadable : Error :=
  .history ("unable to decode '" ++ historyLabel ++ "' label: " ++ jsonMark)

/-- The history that a label holds. -/
def ofLabelText (label : Option String) : Except Error History :=
  match label.map Text.trim with
  | none => .ok empty
  | some text =>
    if text = "" then .ok empty
    else match (Json.scan? text.toList).bind ofJson? with
      | some history => .ok history
      | none => .error unreadable

end History

end ComposeDeploy
