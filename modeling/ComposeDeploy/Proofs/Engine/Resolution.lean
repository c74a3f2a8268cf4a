import ComposeDeploy.Proofs.Engine.Requests
import ComposeDeploy.Proofs.ImageName

/-!
How a client finds the identifier of an image.

What an inspection and a pull come to is read off what came back for their requests
(`Client.inspected`, `Client.pulled`), so a client can take three courses: the first
inspection decides, or the image is missing and cannot be pulled, or it is pulled and
the second inspection decides (`Client.Course`, `Client.identify_course`). From the
courses it is told when an image is pulled, when its identifier is found and what is
said if it is not (`Client.identify_resolves`).
-/

namespace ComposeDeploy

open Wire (Response Sent Tapped)

variable {W : Type}

namespace Wire

/-! ### What is sent and what comes back -/

/-- This was sent to pull an image. -/
def Sent.isPull (sent : Sent) : Bool :=
  sent.request.method == "POST" && sent.request.path == "/images/create"

/-- This was sent to look at something. -/
def Sent.isInspection (sent : Sent) : Bool :=
  sent.request.method == "GET"

/-- What came back says that the engine does not have what was asked for. -/
inductive IsMissing : Response → Prop where
  | reply {reply : Reply} : reply.status = 404 → IsMissing (.ok reply)
  | failure (message : String) : IsMissing (.error (.response 404 message))

/-- What came back says that an image has this identifier. -/
structure Identifies (response : Response) (id : String) : Prop where
  told : ∃ reply members, response = .ok reply ∧ reply.isSuccess = true ∧
    Json.scanBytes? reply.body = some (.obj members) ∧
    Entries.find? "Id" members = some (.str id)

/-- A line of progress that reports no failure: nothing at all, or a record without
an error. -/
inductive IsFine (line : ByteArray) : Prop where
  | nothing : line.isEmpty = true → IsFine line
  | record {members : List (String × Json)} : Json.scanBytes? line = some (.obj members) →
      (Entries.find? "error" members = none ∨ Entries.find? "error" members = some .null) →
      (optional? (textMember? "message") (Entries.find? "errorDetail" members)).isSome = true →
      IsFine line

/-- What came back for a pull reports no failure, neither at once nor in its
progress. -/
structure IsPulled (response : Response) : Prop where
  told : ∃ reply, response = .ok reply ∧ reply.isSuccess = true ∧
    ∀ line ∈ streamLines reply.body, IsFine line

theorem Reply.status_ne_of_isSuccess {reply : Reply} (success : reply.isSuccess = true) :
    reply.status ≠ 404 := by
  intro missing
  simp [isSuccess, missing] at success

/-- What comes back says that something is missing if a client takes it for that. -/
theorem Response.isMissing_iff {response : Response} :
    IsMissing response ↔ ∃ failure, response.settled = .error failure ∧ failure.isNotFound := by
  constructor
  · rintro (missing | message)
    · rename_i reply
      have refused : reply.isSuccess ≠ true := fun success =>
        Reply.status_ne_of_isSuccess success missing
      exact ⟨_, by simp only [settled, refused]; rfl, by simp [ClientFailure.isNotFound, missing]⟩
    · exact ⟨_, rfl, rfl⟩
  · rintro ⟨failure, settled, missing⟩
    cases response with
    | error other =>
      cases settled
      cases failure with
      | response status message =>
        have same : status = 404 := by simpa [ClientFailure.isNotFound] using missing
        subst same
        exact .failure message
      | _ => cases missing
    | ok reply =>
      by_cases success : reply.isSuccess = true
      · simp [Response.settled, success] at settled
      · simp only [Response.settled, success] at settled
        cases settled
        exact .reply (by simpa [ClientFailure.isNotFound] using missing)

/-! ### Reading -/

theorem textMember?_eq_some_some_iff {name text : String} {j : Json} :
    textMember? name j = some (some text) ↔
      ∃ members, j = .obj members ∧ Entries.find? name members = some (.str text) := by
  cases j with
  | obj members =>
    simp only [textMember?, Json.members?, Json.obj.injEq, Option.bind_eq_bind, Option.bind_some,
      Option.pure_def, exists_eq_left']
    cases Entries.find? name members with
    | none => simp
    | some value => cases value <;> simp [Json.text?]
  | _ => simp [textMember?, Json.members?]

theorem Reply.decode_eq_ok_iff {α : Type} {read : Json → Option α} {reply : Reply} {value : α} :
    reply.decode read = .ok value ↔
      ∃ j, Json.scanBytes? reply.body = some j ∧ read j = some value := by
  unfold Reply.decode
  cases Json.scanBytes? reply.body with
  | none => simp
  | some j => cases found : read j <;> simp [found]

/-- A reply that cannot be read does not say that something is missing. -/
theorem Reply.isNotFound_of_decode {α : Type} {read : Json → Option α} {reply : Reply}
    {failure : ClientFailure} (unread : reply.decode read = .error failure) :
    failure.isNotFound = false := by
  unfold Reply.decode at unread
  split at unread
  · cases unread
    rfl
  · split at unread
    · cases unread
      rfl
    · cases unread

theorem optional?_text?_eq_some_none_iff {value : Option Json} :
    optional? Json.text? value = some none ↔ value = none ∨ value = some .null := by
  rcases value with _ | value
  · simp [optional?]
  · cases value <;> simp [optional?, Json.text?]

/-- Details alone do not make a pull fail. -/
theorem progressFailure_obj_eq_ok_iff {members : List (String × Json)} {failure : Option String} :
    progressFailure false (.obj members) = .ok failure ↔ failure = none ∧
      optional? Json.text? (Entries.find? "error" members) = some none ∧
      (optional? (textMember? "message") (Entries.find? "errorDetail" members)).isSome = true := by
  simp only [progressFailure, Json.members?]
  generalize optional? Json.text? (Entries.find? "error" members) = error
  generalize optional? (textMember? "message") (Entries.find? "errorDetail" members) = details
  rcases error with _ | _ | text
  · simp
  · rcases details with _ | _ | message
    · simp
    · simp [eq_comm]
    · simp [eq_comm]
  · cases details <;> simp

theorem eq_obj_of_progressFailure {j : Json} {failure : Option String}
    (reported : progressFailure false j = .ok failure) : ∃ members, j = .obj members := by
  cases j with
  | obj members => exact ⟨members, rfl⟩
  | _ => cases reported

/-- A line that is not empty is fine if it reports no failure. -/
theorem isFine_iff {line : ByteArray} (filled : ¬ line.isEmpty = true) :
    IsFine line ↔ ∃ j, Json.scanBytes? line = some j ∧ progressFailure false j = .ok none := by
  constructor
  · rintro (blank | ⟨read, error, details⟩)
    · exact absurd blank filled
    · exact ⟨_, read, progressFailure_obj_eq_ok_iff.mpr
        ⟨rfl, optional?_text?_eq_some_none_iff.mpr error, details⟩⟩
  · rintro ⟨j, read, reported⟩
    obtain ⟨members, rfl⟩ := eq_obj_of_progressFailure reported
    obtain ⟨_, error, details⟩ := progressFailure_obj_eq_ok_iff.mp reported
    exact .record read (optional?_text?_eq_some_none_iff.mp error) details

/-- A line is passed over if it is fine, and at any other line a pull ends. -/
theorem follow_cons_eq_ok_iff {line : ByteArray} {rest : List ByteArray}
    {failure : Option String} : follow false (line :: rest) = .ok failure ↔
      IsFine line ∧ follow false rest = .ok failure := by
  rw [follow]
  by_cases blank : line.isEmpty = true
  · rw [if_pos blank]
    exact ⟨fun followed => ⟨.nothing blank, followed⟩, And.right⟩
  · rw [if_neg blank, isFine_iff blank]
    cases read : Json.scanBytes? line with
    | none => simp
    | some j =>
      rcases reported : progressFailure false j with failed | _ | text
      · simp [reported]
      · simp [reported]
      · -- Without regard to details an item has no text of its own to fail with.
        obtain ⟨members, rfl⟩ := eq_obj_of_progressFailure reported
        cases (progressFailure_obj_eq_ok_iff.mp reported).1

/-- A pull is followed to its end if all of its progress is fine. -/
theorem follow_eq_ok_iff {lines : List ByteArray} {failure : Option String} :
    follow false lines = .ok failure ↔ failure = none ∧ ∀ line ∈ lines, IsFine line := by
  induction lines with
  | nil => simp [follow, eq_comm]
  | cons line rest ih =>
    rw [List.forall_mem_cons, follow_cons_eq_ok_iff, ih]
    exact and_left_comm

end Wire

/-! ### Steps -/

namespace Client

/-- The request that inspects an image. -/
def inspectRequest (image : String) : Wire.Request :=
  bare "GET" ("/images/" ++ image ++ "/json") []

/-- What an inspection comes to. -/
def inspected (image : String) (response : Response) : Except Error (Option (Option String)) :=
  match response.settled.bind (Wire.Reply.decode (Wire.textMember? "Id")) with
  | .ok id => .ok (some id)
  | .error failure => if failure.isNotFound then .ok none else .error (unresolved image failure)

/-- What a pull comes to. -/
def pulled (image : ImageName) (response : Response) : Except Error Unit :=
  (response.settled.bind fun reply =>
    (Wire.follow false (Wire.streamLines reply.body)).map fun _ => ()).mapError
      (unresolved image.display)

section Steps

variable (client : Client W)

theorem lookUp_on (image : String) (w : W) : (client.lookUp image).on w =
    (inspected image (client.transport (inspectRequest image) w).1,
      (client.transport (inspectRequest image) w).2) := by
  unfold lookUp
  rw [step_on, ask_eq]
  unfold inspected inspectRequest
  rcases client.transport (bare "GET" ("/images/" ++ image ++ "/json") []) w with
    ⟨response, after⟩
  rcases (Response.settled response).bind (Wire.Reply.decode (Wire.textMember? "Id")) with
    failure | id
  · by_cases missing : failure.isNotFound = true
    · simp [missing, Except.mapError]
    · simp [missing, Except.mapError]
  · rfl

theorem pull_on (image : ImageName) (w : W) : (client.pull image).on w =
    (pulled image (client.transport (pullRequest image) w).1,
      (client.transport (pullRequest image) w).2) := by
  unfold pull
  rw [step_on, ask_eq]
  rfl

end Steps

section Verdicts

variable {response : Response}

theorem inspected_of_ok {image : String} {reply : Wire.Reply}
    (settled : response.settled = .ok reply) : inspected image response =
      match reply.decode (Wire.textMember? "Id") with
      | .ok id => .ok (some id)
      | .error failure => .error (unresolved image failure) := by
  unfold inspected
  rw [settled]
  cases read : reply.decode (Wire.textMember? "Id") with
  | ok id => simp only [Except.bind, read]
  | error failure =>
    simp only [Except.bind, read, Wire.Reply.isNotFound_of_decode read, Bool.false_eq_true,
      if_false]

theorem inspected_of_error {image : String} {failure : ClientFailure}
    (settled : response.settled = .error failure) : inspected image response =
      if failure.isNotFound then .ok none else .error (unresolved image failure) := by
  unfold inspected
  rw [settled]
  rfl

/-- An inspection says that the image is missing if the engine says so. -/
theorem inspected_eq_missing_iff {image : String} :
    inspected image response = .ok none ↔ Wire.IsMissing response := by
  rw [Wire.Response.isMissing_iff]
  cases settled : response.settled with
  | ok reply =>
    rw [inspected_of_ok settled]
    cases reply.decode (Wire.textMember? "Id") <;> simp
  | error failure =>
    rw [inspected_of_error settled]
    by_cases missing : failure.isNotFound = true
    · simp [missing]
    · simp [missing]

theorem inspected_eq_found_iff {image id : String} :
    inspected image response = .ok (some (some id)) ↔ Wire.Identifies response id := by
  have asked : inspected image response = .ok (some (some id)) ↔
      response.settled.bind (Wire.Reply.decode (Wire.textMember? "Id")) = .ok (some id) := by
    unfold inspected
    rcases response.settled.bind (Wire.Reply.decode (Wire.textMember? "Id")) with failure | told
    · by_cases missing : failure.isNotFound = true <;> simp [missing]
    · simp
  rw [asked, Wire.Response.settled_bind_eq_ok_iff]
  constructor
  · rintro ⟨reply, same, success, read⟩
    obtain ⟨j, scanned, member⟩ := Wire.Reply.decode_eq_ok_iff.mp read
    obtain ⟨members, rfl, named⟩ := Wire.textMember?_eq_some_some_iff.mp member
    exact ⟨reply, members, same, success, scanned, named⟩
  · rintro ⟨reply, members, same, success, scanned, named⟩
    have member := Wire.textMember?_eq_some_some_iff.mpr ⟨members, rfl, named⟩
    exact ⟨reply, same, success, Wire.Reply.decode_eq_ok_iff.mpr ⟨_, scanned, member⟩⟩

theorem pulled_eq_ok_iff {image : ImageName} :
    pulled image response = .ok () ↔ Wire.IsPulled response := by
  have asked : pulled image response = .ok () ↔ response.settled.bind (fun reply =>
      (Wire.follow false (Wire.streamLines reply.body)).map fun _ => ()) = .ok () := by
    unfold pulled
    rcases response.settled.bind fun reply =>
      (Wire.follow false (Wire.streamLines reply.body)).map fun _ => () with failure | _
    · simp [Except.mapError]
    · simp [Except.mapError]
  rw [asked, Wire.Response.settled_bind_eq_ok_iff]
  constructor
  · rintro ⟨reply, same, success, followed⟩
    cases ended : Wire.follow false (Wire.streamLines reply.body) with
    | error failure =>
      rw [ended] at followed
      cases followed
    | ok text => exact ⟨reply, same, success, (Wire.follow_eq_ok_iff.mp ended).2⟩
  · rintro ⟨reply, same, success, fine⟩
    exact ⟨reply, same, success, by rw [Wire.follow_eq_ok_iff.mpr ⟨rfl, fine⟩]; rfl⟩

end Verdicts

/-! ### Courses -/

/-- What is made of the last inspection. -/
def concluded (image : ImageName) (response : Response) : Except Error String :=
  match inspected image.display response with
  | .error e => .error e
  | .ok none => .error (.imageResolution image.display "image not found after pull")
  | .ok (some none) => .error (.imageResolution image.display "engine returned no image id")
  | .ok (some (some id)) => .ok id

/-- What a client sends to identify an image, what comes back, and how it ends. -/
inductive Course (image : ImageName) : List Sent → Except Error String → Prop where
  | known {first : Response} : ¬ Wire.IsMissing first →
      Course image [⟨inspectRequest image.display, first⟩] (concluded image first)
  | unpulled {first pull : Response} {e : Error} : Wire.IsMissing first →
      pulled image pull = .error e →
      Course image [⟨inspectRequest image.display, first⟩, ⟨pullRequest image, pull⟩] (.error e)
  | pulled {first pull second : Response} : Wire.IsMissing first → Wire.IsPulled pull →
      Course image [⟨inspectRequest image.display, first⟩, ⟨pullRequest image, pull⟩,
        ⟨inspectRequest image.display, second⟩] (concluded image second)

section Identify

variable (client : Client W) {reference : String} {image : ImageName}
  {w between later after : W} {first pull second : Response}

/-- A text that names no image is refused at once. -/
theorem identify_unread {e : Error} (unread : ImageName.ofText reference = .error e) :
    (client.identify reference).on w = (.error e, w) := by
  unfold identify
  rw [unread]
  rfl

/-- The first inspection decides unless the image is missing. -/
theorem identify_known (read : ImageName.ofText reference = .ok image)
    (sent : client.transport (inspectRequest image.display) w = (first, after))
    (here : ¬ Wire.IsMissing first) :
    (client.identify reference).on w = (concluded image first, after) := by
  unfold identify concluded
  simp only [read, Act.settle_ok_bind, Act.on_bind, lookUp_on, sent]
  rcases seen : inspected image.display first with e | _ | _ | id
  · rfl
  · exact absurd (inspected_eq_missing_iff.mp seen) here
  · rfl
  · rfl

/-- If an image is missing and cannot be pulled, this is told. -/
theorem identify_unpulled (read : ImageName.ofText reference = .ok image)
    (sent : client.transport (inspectRequest image.display) w = (first, between))
    (missing : Wire.IsMissing first)
    (asked : client.transport (pullRequest image) between = (pull, after))
    {e : Error} (refused : pulled image pull = .error e) :
    (client.identify reference).on w = (.error e, after) := by
  unfold identify
  simp only [read, Act.settle_ok_bind, Act.on_bind, lookUp_on, sent,
    inspected_eq_missing_iff.mpr missing, pull_on, asked, refused]

/-- A pulled image is inspected once more, and this decides. -/
theorem identify_pulled (read : ImageName.ofText reference = .ok image)
    (sent : client.transport (inspectRequest image.display) w = (first, between))
    (missing : Wire.IsMissing first)
    (asked : client.transport (pullRequest image) between = (pull, later))
    (made : Wire.IsPulled pull)
    (again : client.transport (inspectRequest image.display) later = (second, after)) :
    (client.identify reference).on w = (concluded image second, after) := by
  unfold identify concluded
  simp only [read, Act.settle_ok_bind, Act.on_bind, lookUp_on, sent,
    inspected_eq_missing_iff.mpr missing, pull_on, asked, pulled_eq_ok_iff.mpr made, again]
  rcases inspected image.display second with e | _ | _ | id <;> rfl

/-- Identifying an image takes one of the courses, whether the requests are remembered
or not. -/
theorem identify_course (read : ImageName.ofText reference = .ok image) (s : Tapped W) :
    ∃ log result after, Course image log result ∧
      (client.tapped.identify reference).on s = (result, ⟨after, s.log ++ log⟩) ∧
      (client.identify reference).on s.world = (result, after) := by
  rcases sent : client.transport (inspectRequest image.display) s.world with ⟨first, between⟩
  -- Both clients get the same replies, so one case analysis follows both of them.
  have sent' := client.tapped_transport sent
  by_cases missing : Wire.IsMissing first
  · rcases asked : client.transport (pullRequest image) between with ⟨pull, later⟩
    have asked' := client.tapped_transport
      (s := ⟨between, s.log ++ [⟨inspectRequest image.display, first⟩]⟩) asked
    rcases drawn : pulled image pull with e | _
    · refine ⟨_, _, _, .unpulled missing drawn, ?_,
        client.identify_unpulled read sent missing asked drawn⟩
      simpa only [List.append_assoc, List.cons_append, List.nil_append] using
        client.tapped.identify_unpulled read sent' missing asked' drawn
    · have made := pulled_eq_ok_iff.mp drawn
      rcases again : client.transport (inspectRequest image.display) later with ⟨second, after⟩
      have again' := client.tapped_transport (s := ⟨later, s.log ++
        [⟨inspectRequest image.display, first⟩] ++ [⟨pullRequest image, pull⟩]⟩) again
      refine ⟨_, _, _, .pulled missing made, ?_,
        client.identify_pulled read sent missing asked made again⟩
      simpa only [List.append_assoc, List.cons_append, List.nil_append] using
        client.tapped.identify_pulled read sent' missing asked' made again'
  · exact ⟨_, _, _, .known missing, client.tapped.identify_known read sent' missing,
      client.identify_known read sent missing⟩

end Identify

/-! ### How an identification ends -/

theorem concluded_eq_ok_iff {image : ImageName} {response : Response} {id : String} :
    concluded image response = .ok id ↔ Wire.Identifies response id := by
  have told : inspected image.display response = .ok (some (some id)) ↔
      Wire.Identifies response id := inspected_eq_found_iff
  rw [← told]
  unfold concluded
  rcases inspected image.display response with e | _ | _ | found <;> simp

/-- A failed inspection tells which image was inspected. -/
theorem inspected_eq_error {image : String} {response : Response} {e : Error}
    (failed : inspected image response = .error e) :
    ∃ reason, e = .imageResolution image reason := by
  unfold inspected at failed
  split at failed
  · cases failed
  · split at failed
    · cases failed
    · cases failed
      exact ⟨_, rfl⟩

theorem concluded_eq_error {image : ImageName} {response : Response} {e : Error}
    (failed : concluded image response = .error e) :
    ∃ reason, e = .imageResolution image.display reason := by
  unfold concluded at failed
  split at failed
  · cases failed
    exact inspected_eq_error ‹_›
  · cases failed
    exact ⟨_, rfl⟩
  · cases failed
    exact ⟨_, rfl⟩
  · cases failed

theorem pulled_eq_error {image : ImageName} {response : Response} {e : Error}
    (failed : pulled image response = .error e) :
    ∃ reason, e = .imageResolution image.display reason := by
  unfold pulled at failed
  cases drawn : response.settled.bind fun reply =>
      (Wire.follow false (Wire.streamLines reply.body)).map fun _ => () with
  | ok _ =>
    rw [drawn] at failed
    cases failed
  | error failure =>
    rw [drawn] at failed
    cases failed
    exact ⟨_, rfl⟩

/-! ### Resolution -/

@[simp] theorem isInspection_inspectRequest (image : String) (response : Response) :
    (⟨inspectRequest image, response⟩ : Sent).isInspection = true := rfl

@[simp] theorem isPull_inspectRequest (image : String) (response : Response) :
    (⟨inspectRequest image, response⟩ : Sent).isPull = false := rfl

@[simp] theorem isInspection_pullRequest (image : ImageName) (response : Response) :
    (⟨pullRequest image, response⟩ : Sent).isInspection = false := rfl

@[simp] theorem isPull_pullRequest (image : ImageName) (response : Response) :
    (⟨pullRequest image, response⟩ : Sent).isPull = true := rfl

/-- What is sent to identify an image, and what becomes of it. -/
structure Resolves (reference : String) (log : List Sent) (result : Except Error String) :
    Prop where
  /-- Nothing is sent for a text that names no image. -/
  unread {e : Error} : ImageName.ofText reference = .error e →
    log = [] ∧ result = .error (.invalidImageName (Text.trim reference))
  /-- The first of all requests is an inspection. -/
  first {image : ImageName} : ImageName.ofText reference = .ok image →
    (log.head?.map Sent.request) = some (inspectRequest image.display)
  /-- Only inspections and pulls of the image are sent, both by its canonical name. -/
  sent {image : ImageName} : ImageName.ofText reference = .ok image → ∀ sent ∈ log,
    sent.isInspection ∧ sent.request = inspectRequest image.display ∨
      sent.isPull ∧ sent.request = pullRequest image
  /-- An image is pulled if and only if the engine says at first that it is missing. -/
  pull : (∃ sent ∈ log, sent.isPull) ↔
    (ImageName.ofText reference).isOk ∧ ∃ first, log.head? = some first ∧
      Wire.IsMissing first.response
  /-- It is pulled once at most. -/
  once : log.countP Sent.isPull ≤ 1
  /-- The identifier is the one that the last inspection tells. -/
  found {id : String} : result = .ok id ↔
    (∃ last, (log.filter Sent.isInspection).getLast? = some last ∧
      Wire.Identifies last.response id) ∧
    ∀ sent ∈ log, sent.isPull → Wire.IsPulled sent.response
  /-- Any failure names the image. -/
  failed {image : ImageName} {e : Error} : ImageName.ofText reference = .ok image →
    result = .error e → ∃ reason, e = .imageResolution image.display reason

theorem Resolves.of_unread {reference : String} {e : Error}
    (unread : ImageName.ofText reference = .error e) : Resolves reference [] (.error e) where
  unread _ := ⟨rfl, by rw [(ImageName.ofText_eq_error_iff.mp unread).1]⟩
  first read := by
    rw [unread] at read
    cases read
  sent _ := by simp
  pull := by simp
  once := by simp
  found := by simp
  failed read := by
    rw [unread] at read
    cases read

namespace Course

variable {image : ImageName} {log : List Sent} {result : Except Error String}

theorem pull_iff (course : Course image log result) : (∃ sent ∈ log, sent.isPull) ↔
    ∃ first, log.head? = some first ∧ Wire.IsMissing first.response := by
  cases course with
  | known here => simp [here]
  | unpulled missing _ => simp [missing]
  | pulled missing _ => simp [missing]

theorem found_iff (course : Course image log result) {id : String} : result = .ok id ↔
    (∃ last, (log.filter Sent.isInspection).getLast? = some last ∧
      Wire.Identifies last.response id) ∧
    ∀ sent ∈ log, sent.isPull → Wire.IsPulled sent.response := by
  cases course with
  | known _ => simp [concluded_eq_ok_iff]
  | @unpulled _ pull _ _ refused =>
    -- The inspection need not be looked at, since the pull alone refuses an identifier.
    have unmade : ¬ Wire.IsPulled pull := fun made => by
      rw [pulled_eq_ok_iff.mpr made] at refused
      cases refused
    simp [unmade]
  | pulled _ made => simp [concluded_eq_ok_iff, made]

theorem resolves (course : Course image log result) {reference : String}
    (read : ImageName.ofText reference = .ok image) : Resolves reference log result where
  unread refused := by
    rw [read] at refused
    cases refused
  first read' := by
    cases read.symm.trans read'
    cases course <;> rfl
  sent read' := by
    cases read.symm.trans read'
    cases course <;> simp
  pull := by
    rw [course.pull_iff, read]
    exact (and_iff_right rfl).symm
  once := by cases course <;> simp [List.countP_cons]
  found := course.found_iff
  failed read' failed := by
    cases read.symm.trans read'
    cases course with
    | known _ => exact concluded_eq_error failed
    | unpulled _ refused =>
      cases failed
      exact pulled_eq_error refused
    | pulled _ _ => exact concluded_eq_error failed

end Course

/-- An image is identified with one pull at most, and with none unless it is missing at
first; what is remembered of the requests changes nothing. -/
theorem identify_resolves (client : Client W) (reference : String) (w : W) :
    let run := (client.tapped.identify reference).on ⟨w, []⟩
    Resolves reference run.2.log run.1 ∧
      (client.identify reference).on w = (run.1, run.2.world) := by
  intro run
  cases read : ImageName.ofText reference with
  | ok image =>
    obtain ⟨log, result, after, course, ran, ran'⟩ := client.identify_course read ⟨w, []⟩
    have ran : run = (result, ⟨after, log⟩) := ran
    rw [ran, ran']
    exact ⟨course.resolves read, rfl⟩
  | error e =>
    have ran : run = (.error e, ⟨w, []⟩) := client.tapped.identify_unread read
    rw [ran, client.identify_unread read]
    exact ⟨.of_unread read, rfl⟩

/-- The replies of an engine that has the image only after a pull. -/
def lateReplies : Wire.Replies :=
  let reply (status : Nat) (body : String) : Wire.Reply := ⟨status, body.toUTF8⟩
  .ofList [("GET /images/app:latest/json",
      [reply 404 "", reply 200 "\x7b\"Id\":\"sha256:1\"\x7d"]),
    ("POST /images/create", [reply 200 "\x7b\"status\":\"Pulling\"\x7d\n"])]

example :
    let client : Client Wire.Replies := ⟨"east", Wire.Replies.transport, 0, 0⟩
    let run := (client.tapped.identify " app ").on ⟨lateReplies, []⟩
    run.1.toOption = some "sha256:1" ∧ run.2.log.map (fun sent => sent.request.call) =
      ["GET /images/app:latest/json", "POST /images/create", "GET /images/app:latest/json"] := by
  decide +kernel

end Client

end ComposeDeploy
