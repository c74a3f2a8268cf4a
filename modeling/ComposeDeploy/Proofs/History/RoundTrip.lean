import ComposeDeploy.History.Label
import ComposeDeploy.Proofs.Container.Encoding
import ComposeDeploy.Proofs.Text.Trimming

/-!
A history survives its label.

Each part of a history is read back from the JSON that it writes; a label is
an array, so no blank is trimmed from it and it is never taken for an absent
one. `survives_label` is the main statement.
-/

namespace ComposeDeploy

/-! ### Parts of a history -/

namespace Service

theorem ofJson?_toJson (service : Service) : ofJson? service.toJson = some service := by
  obtain ⟨name, image, configuration⟩ := service
  have read := configuration.ofJson?_toJson
  unfold toJson
  generalize configuration.toJson = written at read
  cases image with
  | none =>
    have given : (Json.obj [("Name", .str name), ("ContainerConfig", written)]).fields?
        ["Name", "OriginalImageReference", "ContainerConfig"] 3 =
        some [some (.str name), none, some written] := rfl
    simp [ofJson?, given, optionalText?, Json.text?, read]
  | some image =>
    have given : (Json.obj [("Name", .str name), ("OriginalImageReference", .str image),
        ("ContainerConfig", written)]).fields?
        ["Name", "OriginalImageReference", "ContainerConfig"] 3 =
        some [some (.str name), some (.str image), some written] := rfl
    simp [ofJson?, given, optionalText?, Json.text?, read]

theorem fits_toJson (service : Service) : service.toJson.Fits (Configuration.depth + 1) := by
  obtain ⟨name, image, configuration⟩ := service
  have fits := configuration.fits_toJson
  refine ⟨by omega, Json.allMembersFit_iff.mpr ?_⟩
  intro member written
  simp only [List.mem_cons, List.mem_append, Option.mem_toList, List.not_mem_nil, or_false]
    at written
  rcases written with rfl | written | rfl
  · trivial
  · obtain ⟨image, _, rfl⟩ := Option.map_eq_some_iff.mp written
    trivial
  · exact fits

end Service

namespace Manifest

theorem ofJson?_toJson (manifest : Manifest) : ofJson? manifest.toJson = some manifest := by
  obtain ⟨services, madeAt, message⟩ := manifest
  have read := mapM_map_of_leftInverse Service.ofJson?_toJson services
  unfold toJson
  generalize services.map Service.toJson = written at read
  by_cases silent : message = ""
  · have given : (Json.obj [("Services", .arr written), ("DeployedAt", .str madeAt)]).fields?
        ["Services", "DeployedAt", "Message"] 2 =
        some [some (.arr written), some (.str madeAt), none] := rfl
    simp [ofJson?, silent, given, Json.items?, Json.text?, read]
  · have given : (Json.obj [("Services", .arr written), ("DeployedAt", .str madeAt),
        ("Message", .str message)]).fields? ["Services", "DeployedAt", "Message"] 2 =
        some [some (.arr written), some (.str madeAt), some (.str message)] := rfl
    simp [ofJson?, silent, given, Json.items?, Json.text?, read]

theorem fits_toJson (manifest : Manifest) : manifest.toJson.Fits (Configuration.depth + 3) := by
  refine ⟨by omega, ⟨by omega, Json.allFit_iff.mpr fun j member => ?_⟩, trivial, ?_⟩
  · obtain ⟨service, _, rfl⟩ := List.mem_map.mp member
    exact service.fits_toJson
  · split <;> simp [Json.AllMembersFit, Json.Fits]

end Manifest

/-! ### The text of a label -/

theorem Json.writeItems_ends (rest : List Json) : ∃ cs, writeItems rest = cs ++ [']'] := by
  induction rest with
  | nil => exact ⟨[], rfl⟩
  | cons item rest ih =>
    obtain ⟨cs, ends⟩ := ih
    exact ⟨',' :: (write item ++ cs), by simp [writeItems, ends]⟩

theorem Json.write_arr_ends (items : List Json) :
    ∃ cs, write (.arr items) = '[' :: (cs ++ [']']) := by
  cases items with
  | nil => exact ⟨[], rfl⟩
  | cons item rest =>
    obtain ⟨cs, ends⟩ := writeItems_ends rest
    exact ⟨write item ++ cs, by simp [write, ends]⟩

namespace History

theorem ofJson?_toJson (history : History) : ofJson? history.toJson = some history := by
  have read := mapM_map_of_leftInverse Manifest.ofJson?_toJson history.entries
  simp [ofJson?, toJson, Json.items?, read]

theorem fits_toJson (history : History) : history.toJson.Fits (Configuration.depth + 4) := by
  refine ⟨by omega, Json.allFit_iff.mpr ?_⟩
  intro j member
  obtain ⟨manifest, _, rfl⟩ := List.mem_map.mp member
  exact manifest.fits_toJson

theorem fits_maxDepth (history : History) : history.toJson.Fits Json.maxDepth :=
  history.fits_toJson.mono (by decide)

theorem scan?_labelText (history : History) :
    Json.scan? history.labelText.toList = some history.toJson := by
  rw [labelText, Json.render, String.toList_ofList]
  exact Json.scan?_write history.fits_maxDepth

theorem trim_labelText (history : History) : Text.trim history.labelText = history.labelText := by
  obtain ⟨cs, ends⟩ := Json.write_arr_ends (history.entries.map Manifest.toJson)
  rw [labelText, Json.render, toJson, ends]
  exact Text.trim_of_ends (by decide) (by decide) cs

theorem labelText_ne_empty (history : History) : history.labelText ≠ "" := by
  intro blank
  obtain ⟨cs, ends⟩ := Json.write_arr_ends (history.entries.map Manifest.toJson)
  rw [labelText, Json.render, toJson, ends] at blank
  simpa using congrArg String.toList blank

theorem ofLabelText_labelText (history : History) :
    ofLabelText (some history.labelText) = .ok history := by
  simp only [ofLabelText, Option.map_some, trim_labelText, labelText_ne_empty, if_false,
    scan?_labelText, Option.bind_some, ofJson?_toJson]

/-- The label of a history is the JSON text of the history, and it is read
back as that history, whatever its configurations hold. -/
theorem survives_label (history : History) :
    Json.read? history.labelText.toList = some history.toJson ∧
      ofLabelText (some history.labelText) = .ok history := by
  refine ⟨?_, history.ofLabelText_labelText⟩
  rw [labelText, Json.render, String.toList_ofList]
  exact Json.read?_write history.fits_maxDepth

end History

end ComposeDeploy
