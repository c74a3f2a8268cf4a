import ComposeDeploy.Capture.Route
import ComposeDeploy.Proofs.Text.Pieces

/-!
The paths of the calls.

A path is cut at its slashes, so what is behind a slash is cut by itself
(`Route.ofPath?_versioned`), and a text is known by its parts. That tells which
paths belong to a call: one alone builds (`Route.ofPath?_build_iff`), and a whole
family of them asks for images (`Route.ofPath?_imageDetails_iff`).
-/

namespace ComposeDeploy.Capture.Route

/-- Below the version there are the calls of `ofSegments?`, beside it two others. -/
theorem ofPath?_cases {path : String} {route : Route} (found : ofPath? path = some route) :
    route = .ping ∨ route = .version ∨
      ∃ segments, Text.split path '/' = "" :: "v1.18" :: segments ∧
        ofSegments? segments = some route := by
  unfold ofPath? at found
  split at found
  · cases found
    exact .inl rfl
  · cases found
    exact .inr (.inl rfl)
  · next first segments _ _ cut =>
    split at found
    · next versioned =>
      rw [versioned] at cut
      exact .inr (.inr ⟨segments, cut, found⟩)
    · cases found
  · cases found

theorem split_versioned (rest : String) :
    Text.split ("/v1.18/" ++ rest) '/' = "" :: "v1.18" :: Text.split rest '/' := by
  have path : "/v1.18/" ++ rest = "" ++ String.singleton '/' ++
      ("v1.18" ++ String.singleton '/' ++ rest) := by
    simp only [← String.append_assoc]
    rfl
  rw [path, Text.split_append (by decide), Text.split_append (by decide)]

theorem ofPath?_versioned (rest : String) :
    ofPath? ("/v1.18/" ++ rest) = ofSegments? (Text.split rest '/') := by
  unfold ofPath?
  rw [split_versioned]
  exact if_pos (by decide)

theorem ofSegments?_build {segments : List String} (found : ofSegments? segments = some .build) :
    segments = ["build"] := by
  unfold ofSegments? at found
  split at found
  case h_9 => rfl
  case h_8 =>
    simp only at found
    split at found <;> cases found
  all_goals cases found

theorem ofSegments?_imageDetails {segments : List String} {raw : String}
    (found : ofSegments? segments = some (.imageDetails raw)) :
    ∃ name, segments = "images" :: name ∧ raw = "/".intercalate name ∧ raw ≠ "" := by
  unfold ofSegments? at found
  split at found
  case h_8 name _ =>
    simp only at found
    split at found
    · cases found
    · next nonempty =>
      cases found
      exact ⟨name, rfl, rfl, nonempty⟩
  all_goals cases found

/-- Only one path builds. -/
theorem ofPath?_build_iff {path : String} : ofPath? path = some .build ↔ path = "/v1.18/build" := by
  constructor
  · intro found
    rcases ofPath?_cases found with other | other | ⟨segments, cut, below⟩
    · cases other
    · cases other
    · rw [ofSegments?_build below] at cut
      exact Text.split_injective (cut.trans (by decide))
  · rintro rfl
    decide

/-- All that stands below the images names one, unless it pulls. -/
theorem ofSegments?_images {name : List String} (other : name ≠ ["create"]) :
    ofSegments? ("images" :: name) =
      if "/".intercalate name = "" then none else some (.imageDetails ("/".intercalate name)) := by
  unfold ofSegments?
  split
  case h_7 same =>
    cases same
    exact absurd rfl other
  case h_8 same =>
    cases same
    rfl
  all_goals simp_all

/-- An image is asked for by the path of the images and something behind it that
is not the call that pulls. -/
theorem ofPath?_imageDetails_iff {path raw : String} :
    ofPath? path = some (.imageDetails raw) ↔
      path = "/v1.18/images/" ++ raw ∧ raw ≠ "" ∧ raw ≠ "create" := by
  have below (raw : String) :
      "/v1.18/images/" ++ raw = "/v1.18/" ++ ("images" ++ String.singleton '/' ++ raw) := by
    simp only [← String.append_assoc]
    rfl
  constructor
  · intro found
    rcases ofPath?_cases found with other | other | ⟨segments, cut, routed⟩
    · cases other
    · cases other
    obtain ⟨name, rfl, rfl, nonempty⟩ := ofSegments?_imageDetails routed
    have path_eq : path = "/v1.18/images/" ++ "/".intercalate name := by
      cases name with
      | nil => exact absurd rfl nonempty
      | cons part parts =>
        have joined := Text.join_split '/' path
        rw [cut] at joined
        have slash : String.singleton '/' = "/" := by decide
        rw [← joined, below, slash]
        simp only [String.intercalate_cons_cons]
        simp only [← String.append_assoc]
        rfl
    refine ⟨path_eq, nonempty, fun pulls => ?_⟩
    rw [path_eq, pulls] at found
    have pull : ofPath? ("/v1.18/images/" ++ "create") = some .pull := by decide
    rw [pull] at found
    cases found
  · rintro ⟨rfl, nonempty, other⟩
    have joined : "/".intercalate (Text.split raw '/') = raw := Text.join_split '/' raw
    have notCreate : Text.split raw '/' ≠ ["create"] := by
      intro same
      rw [same] at joined
      exact other joined.symm
    rw [below, ofPath?_versioned, Text.split_append (by decide), ofSegments?_images notCreate,
      joined, if_neg nonempty]

end ComposeDeploy.Capture.Route
