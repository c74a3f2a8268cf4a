import ComposeDeploy.Proofs.Capture.Paths
import ComposeDeploy.Proofs.Capture.Recording

/-!
Images are missing once.

What counts is the image that a request looks at (`LooksAt`), not how it spells
its name: escapes are read and `/json` is cut off the end. A look at an image adds
one to its count and nothing else does (`inspections_handle_of_looksAt`,
`inspections_handle_of_not_looksAt`), so in a fresh session the count is the
number of looks, and the first of them is told from the others
(`handleAll_missesOnce`).
-/

namespace ComposeDeploy.Capture

/-! ### The image of a request -/

/-- A decoded path names an image: it is the image's name, behind which `/json`
may stand. -/
inductive NamesImage : (path image : String) → Prop where
  | detailed (image : String) : NamesImage (image ++ "/json") image
  | bare {image : String} : (∀ other, image ≠ other ++ "/json") → NamesImage image image

/-- The request looks at an image: it asks for something below the path of the
images that decodes to a name of the image, `create` apart. -/
structure LooksAt (request : Http.Request) (image : String) : Prop where
  method : request.method = "GET" ∨ request.method = "HEAD"
  path : ∃ raw decoded, request.path = "/v1.18/images/" ++ raw ∧ raw ≠ "" ∧ raw ≠ "create" ∧
    Text.Percent.decodeText? raw = some decoded ∧ NamesImage decoded image

/-- What is left without the ending is the name. -/
theorem imageName_eq_iff {path image : String} :
    imageName path = image ↔ NamesImage path image := by
  have stripped (rest : List Char) : Text.stripStart "/json".toList.reverse path.toList.reverse =
      some rest ↔ path = String.ofList rest.reverse ++ "/json" := by
    rw [Text.stripStart_eq_some_iff, ← String.toList_inj, ← List.reverse_inj]
    simp
  unfold imageName
  simp only
  cases ended : Text.stripStart "/json".toList.reverse path.toList.reverse with
  | some rest =>
    have whole := (stripped rest).mp ended
    constructor
    · rintro rfl
      rw [whole]
      exact .detailed _
    · intro names
      cases names with
      | detailed =>
        exact (String.append_left_inj _).mp whole.symm
      | bare undetailed => exact absurd whole (undetailed _)
  | none =>
    constructor
    · rintro rfl
      refine .bare fun other detailed => ?_
      have found := (stripped other.toList.reverse).mpr (by simpa using detailed)
      rw [ended] at found
      cases found
    · intro names
      cases names with
      | detailed =>
        have found := (stripped image.toList.reverse).mpr (by simp)
        rw [ended] at found
        cases found
      | bare => rfl

/-- The image that a request looks at, if it looks at one. -/
def seen? (request : Http.Request) : Option String :=
  match Route.ofPath? request.path with
  | some (.imageDetails raw) =>
    if request.method = "GET" ∨ request.method = "HEAD" then
      (Text.Percent.decodeText? raw).map imageName
    else none
  | _ => none

theorem seen?_eq_some_iff {request : Http.Request} {image : String} :
    seen? request = some image ↔ LooksAt request image := by
  constructor
  · intro seen
    unfold seen? at seen
    split at seen
    · next raw routed =>
      split at seen
      · next asks =>
        obtain ⟨decoded, readable, named⟩ := Option.map_eq_some_iff.mp seen
        obtain ⟨path, nonempty, other⟩ := Route.ofPath?_imageDetails_iff.mp routed
        exact ⟨asks, raw, decoded, path, nonempty, other, readable, imageName_eq_iff.mp named⟩
      · cases seen
    · cases seen
  · rintro ⟨asks, raw, decoded, path, nonempty, other, readable, names⟩
    unfold seen?
    rw [Route.ofPath?_imageDetails_iff.mpr ⟨path, nonempty, other⟩]
    simp only [if_pos asks, readable, Option.map_some, imageName_eq_iff.mpr names]

instance (request : Http.Request) (image : String) : Decidable (LooksAt request image) :=
  decidable_of_iff _ seen?_eq_some_iff

/-! ### One request -/

section Handling

variable {W : Type} (builder : Builder W) (skipBuilds : Bool) {request : Http.Request}
  (record : Record) (w : W)

/-- A look at an image is reported as one. -/
theorem handle_looksAt {image : String} (looks : LooksAt request image) :
    handle builder skipBuilds request record w =
      ((sent request.method (reportImage skipBuilds image record).1,
        (reportImage skipBuilds image record).2), w) := by
  obtain ⟨asks, raw, decoded, path, nonempty, other, readable, names⟩ := looks
  have allowed : (Route.imageDetails raw).allows request.method = true := by
    rcases asks with method | method
    all_goals
      rw [method]
      rfl
  have routed := Route.ofPath?_imageDetails_iff.mpr ⟨path, nonempty, other⟩
  rw [handle_allowed builder skipBuilds record w routed allowed]
  simp only [answer, withPart, readable, imageName_eq_iff.mpr names]

theorem inspections_create (get : String → Option String) (body : Http.Body) :
    (create get body record).2.inspections = record.inspections := by
  unfold create
  split
  · rfl
  · rfl
  · split <;> rfl

theorem inspections_list (get : String → Option String) :
    (list get record).2.inspections = record.inspections := by
  unfold list
  simp only
  split
  · rfl
  · split <;> rfl

theorem inspections_build (get : String → Option String) (body : Http.Body) :
    (build builder skipBuilds get body record w).1.2.inspections = record.inspections := by
  unfold build
  split
  · rfl
  · split
    · rfl
    · split <;> rfl

theorem inspections_withQuery {known : List String}
    {call : (String → Option String) → (Http.Reply × Record) × W}
    (kept : ∀ get, (call get).1.2.inspections = record.inspections) :
    (withQuery known request call record w).1.2.inspections = record.inspections := by
  unfold withQuery
  split
  · rfl
  · exact kept _

/-- A request that looks at no image counts for none. -/
theorem inspections_handle_of_seen?_eq_none (unseen : seen? request = none) :
    (handle builder skipBuilds request record w).1.2.inspections = record.inspections := by
  unfold handle
  unfold seen? at unseen
  cases routed : Route.ofPath? request.path with
  | none => rfl
  | some route =>
    by_cases allowed : route.allows request.method
    · simp only [allowed, if_true]
      cases route with
      | ping | version | pull => rfl
      | create => exact inspections_withQuery record w fun get => inspections_create record get _
      | list => exact inspections_withQuery record w (inspections_list record)
      | build =>
        exact inspections_withQuery record w fun get =>
          inspections_build builder skipBuilds record w get _
      | containerDetails | startCreated =>
        simp only [answer, withPart]
        split <;> rfl
      | imageDetails raw =>
        have asks : request.method = "GET" ∨ request.method = "HEAD" := by
          simpa [Route.allows, Route.isPost] using allowed
        simp only [routed, if_pos asks, Option.map_eq_none_iff] at unseen
        simp only [answer, withPart, unseen]
    · simp only [allowed]
      rfl

/-- A look at an image counts once for the image. -/
theorem inspections_handle_of_looksAt {image : String} (looks : LooksAt request image) :
    (handle builder false request record w).1.2.inspections.get? image =
      some ((record.inspections.get? image).getD 0 + 1) := by
  rw [handle_looksAt builder false record w looks]
  simp only [reportImage, Bool.false_eq_true, if_false, Dictionary.get?_insert, if_true]

/-- Nothing else counts for it. -/
theorem inspections_handle_of_not_looksAt {image : String} (blind : ¬ LooksAt request image) :
    (handle builder skipBuilds request record w).1.2.inspections.get? image =
      record.inspections.get? image := by
  cases seen : seen? request with
  | none => rw [inspections_handle_of_seen?_eq_none builder skipBuilds record w seen]
  | some other =>
    have looks : LooksAt request other := seen?_eq_some_iff.mp seen
    have apart : image ≠ other := by
      rintro rfl
      exact blind looks
    rw [handle_looksAt builder skipBuilds record w looks]
    cases skipBuilds with
    | true => rfl
    | false =>
      simp only [reportImage, Bool.false_eq_true, if_false, Dictionary.get?_insert, if_neg apart]

/-- When builds are disabled, nothing counts. -/
theorem inspections_handle_disabled :
    (handle builder true request record w).1.2.inspections = record.inspections := by
  cases seen : seen? request with
  | none => exact inspections_handle_of_seen?_eq_none builder true record w seen
  | some image =>
    rw [handle_looksAt builder true record w (seen?_eq_some_iff.mp seen)]
    rfl

end Handling

/-! ### Many requests -/

section Runs

variable {W : Type} (builder : Builder W)

/-- The count of an image grows by the looks at it. -/
theorem inspections_handleAll (image : String) (requests : List Http.Request) (record : Record)
    (w : W) :
    (handleAll builder false requests record w).record.inspections.get? image =
      if requests.countP (LooksAt · image) = 0 then record.inspections.get? image
      else some ((record.inspections.get? image).getD 0 +
        requests.countP (LooksAt · image)) := by
  induction requests generalizing record w with
  | nil => rfl
  | cons request rest ih =>
    have later := ih (handle builder false request record w).1.2
      (handle builder false request record w).2
    refine later.trans ?_
    by_cases looks : LooksAt request image
    · rw [inspections_handle_of_looksAt builder record w looks,
        List.countP_cons_of_pos (by simpa using looks)]
      simp only [Option.getD_some, Nat.succ_ne_zero, if_false]
      split
      · next none => rw [none]
      · rw [Nat.add_assoc, Nat.add_comm 1]
    · rw [inspections_handle_of_not_looksAt builder false record w looks,
        List.countP_cons_of_neg (by simpa using looks)]

theorem inspections_handleAll_disabled (requests : List Http.Request) (record : Record) (w : W) :
    (handleAll builder true requests record w).record.inspections = record.inspections := by
  induction requests generalizing record w with
  | nil => rfl
  | cons request rest ih =>
    exact (ih _ _).trans (inspections_handle_disabled builder record w)

/-- In a fresh session an image is reported missing until it has been looked at. -/
theorem reply_of_looksAt {requests : List Http.Request} {w : W}
    {before after : List (Http.Request × Http.Reply)} {request : Http.Request}
    {reply : Http.Reply} {image : String}
    (exchanged : (handleAll builder false requests .empty w).exchanges =
      before ++ (request, reply) :: after) (looks : LooksAt request image) :
    reply = sent request.method (if ∃ x ∈ before, LooksAt x.1 image then imageReply image
      else failure 404 ("No such image: " ++ image)) := by
  have replied := handleAll_exchange exchanged
  have counted := inspections_handleAll builder image (before.map Prod.fst) .empty w
  rw [handle_looksAt builder false _ _ looks] at replied
  subst replied
  by_cases seen : ∃ x ∈ before, LooksAt x.1 image
  · have some : (before.map Prod.fst).countP (LooksAt · image) ≠ 0 := by
      simpa [List.countP_eq_zero] using seen
    rw [if_neg some] at counted
    have again : ((Record.empty.inspections.get? image).getD 0 +
        (before.map Prod.fst).countP (LooksAt · image)) ≠ 0 := by omega
    simp only [reportImage, counted, Bool.false_eq_true, if_false, Option.getD_some, if_neg again,
      if_pos seen]
  · have none : (before.map Prod.fst).countP (LooksAt · image) = 0 := by
      simpa [List.countP_eq_zero] using seen
    rw [if_pos none] at counted
    simp only [reportImage, counted, Bool.false_eq_true, if_false, if_neg seen]
    rfl

theorem reply_of_looksAt_disabled {requests : List Http.Request} {record : Record} {w : W}
    {x : Http.Request × Http.Reply}
    (member : x ∈ (handleAll builder true requests record w).exchanges) {image : String}
    (looks : LooksAt x.1 image) : x.2 = sent x.1.method (imageReply image) := by
  obtain ⟨before, after, exchanged⟩ := List.append_of_mem member
  have replied := handleAll_exchange exchanged
  rw [handle_looksAt builder true _ _ looks] at replied
  exact replied.symm

end Runs

/-! ### Main result -/

/-- The reply says that the image is there, under its name if it has a body. -/
structure Presents (request : Http.Request) (reply : Http.Reply) (image : String) : Prop where
  status : reply.status = 200
  named : request.method ≠ "HEAD" → reply.body = (Json.obj [("Id", .str image)]).render

theorem presents_sent (request : Http.Request) (image : String) :
    Presents request (sent request.method (imageReply image)) image where
  status := by
    unfold sent
    split <;> rfl
  named hasBody := by
    unfold sent
    rw [if_neg hasBody]
    rfl

/-- Of the requests that look at an image the first misses it and the others do
not. -/
structure Dialogue.MissesOnce {W : Type} (dialogue : Dialogue W) (requests : List Http.Request)
    (image : String) : Prop where
  answered : dialogue.exchanges.map Prod.fst = requests
  first : ∀ before request reply after,
    dialogue.exchanges = before ++ (request, reply) :: after → LooksAt request image →
      (¬ ∃ x ∈ before, LooksAt x.1 image) → reply.status = 404
  later : ∀ before request reply after,
    dialogue.exchanges = before ++ (request, reply) :: after → LooksAt request image →
      (∃ x ∈ before, LooksAt x.1 image) → Presents request reply image
  /-- Each of them counts. -/
  counted : dialogue.record.inspections.get? image =
    if requests.countP (LooksAt · image) = 0 then none
    else some (requests.countP (LooksAt · image))

/-- In a fresh session each image is reported missing once, to the first request
that looks at it, however the request spells its name and whatever comes in
between. When builds are disabled, no image is missing and none is counted.
Nothing but a look at an image counts for it. -/
theorem handleAll_missesOnce {W : Type} (builder : Builder W) (requests : List Http.Request)
    (w : W) :
    (∀ image, (handleAll builder false requests .empty w).MissesOnce requests image) ∧
      ((∀ x ∈ (handleAll builder true requests .empty w).exchanges, ∀ image,
          LooksAt x.1 image → Presents x.1 x.2 image) ∧
        (handleAll builder true requests .empty w).record.inspections = .empty) ∧
      ∀ (skipBuilds : Bool) (request : Http.Request) (record : Record) (v : W) (image : String),
        ¬ LooksAt request image →
        (handle builder skipBuilds request record v).1.2.inspections.get? image =
          record.inspections.get? image := by
  refine ⟨fun image => ?_, ⟨?_, ?_⟩, ?_⟩
  · constructor
    · exact (handleAll_isMarked builder false requests .empty w).1
    · intro before request reply after exchanged looks unseen
      rw [reply_of_looksAt builder exchanged looks, if_neg unseen]
      unfold sent
      split <;> rfl
    · intro before request reply after exchanged looks seen
      rw [reply_of_looksAt builder exchanged looks, if_pos seen]
      exact presents_sent request image
    · rw [inspections_handleAll]
      simp only [Record.empty, Dictionary.get?_empty, Option.getD_none, Nat.zero_add]
  · intro x member image looks
    rw [reply_of_looksAt_disabled builder member looks]
    exact presents_sent x.1 image
  · exact inspections_handleAll_disabled builder requests .empty w
  · intro skipBuilds request record v image blind
    exact inspections_handle_of_not_looksAt builder skipBuilds record v blind

/-- An image is looked at under two of its names, with a pull in between. -/
def variedLooks : List Http.Request :=
  [.of "GET" "/v1.18/images/team%2Fweb/json" (.bytes .empty),
    .of "POST" "/v1.18/images/create?fromImage=team/web" (.bytes .empty),
    .of "HEAD" "/v1.18/images/te%61m/web" (.bytes .empty)]

theorem handleAll_missesOnce_spellings :
    ∃ first pulled second missing pull present,
      variedLooks = [first, pulled, second] ∧ LooksAt first "team/web" ∧ LooksAt second "team/web" ∧
        (handleAll (fun _ _ => Act.settle (.ok ())) false variedLooks .empty ()).exchanges =
          [(first, missing), (pulled, pull), (second, present)] ∧
        missing.status = 404 ∧ Presents second present "team/web" ∧
        (handleAll (fun _ _ => Act.settle (.ok ())) false variedLooks .empty
          ()).record.inspections.get? "team/web" = some 2 := by
  have once := handleAll_missesOnce (fun _ _ => Act.settle (.ok ())) variedLooks ()
  obtain ⟨answered, first, later, counted⟩ := once.1 "team/web"
  refine ⟨_, _, _, _, _, _, rfl, by decide +kernel, by decide +kernel, rfl, ?_, ?_, ?_⟩
  · exact first [] _ _ _ rfl (by decide +kernel) (by simp)
  · exact later [_, _] _ _ [] rfl (by decide +kernel) ⟨_, List.mem_cons_self, by decide +kernel⟩
  · rw [counted]
    decide +kernel

end ComposeDeploy.Capture
