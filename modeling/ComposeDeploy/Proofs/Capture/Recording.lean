import ComposeDeploy.Capture.Server
import ComposeDeploy.Proofs.Text.Pieces
import Mathlib.Data.List.Forall2

/-!
What requests leave in the record of a session.

A request leaves one `Mark` at most: a call that is captured, a refusal, or a
look at an image. `Handled` says which mark goes with which status of the
reply, and `handle_isMarked` that there is no other way for a request to go.
From it, by induction on the requests, a session's record is what its exchanges
say (`handleAll_isMarked`): the captured calls are those that were answered as
created, unchanged and in order, and the record only grows
(`handleAll_capturesExactly`).
-/

namespace ComposeDeploy.Capture

/-! ### Marks -/

/-- What a request leaves in the record. -/
inductive Mark where
  | nothing
  | creation (call : CreateRequest)
  | refusal (message : String)
  | inspection (image : String)
  deriving DecidableEq

namespace Mark

/-- The call that a mark captures. -/
def creation? : Mark → Option CreateRequest
  | .creation call => some call
  | _ => none

/-- The refusal that a mark remembers. -/
def refusal? : Mark → Option String
  | .refusal message => some message
  | _ => none

end Mark

/-- The record with one mark more. -/
def Record.marked (record : Record) : Mark → Record
  | .nothing => record
  | .creation call => record.capture call
  | .refusal message => record.refuse message
  | .inspection image =>
    { record with
      inspections := record.inspections.insert image
        ((record.inspections.get? image).getD 0 + 1) }

/-! ### Calls that plan -/

/-- The calls from which an orchestrator's intent is learnt: method, path and
the keys that the query may name once each. -/
def planningCalls : List (String × String × List String) :=
  [("POST", "/v1.18/containers/create", ["name"]),
    ("GET", "/v1.18/containers/json", ["filters"]),
    ("POST", "/v1.18/build", buildKeys)]

/-- The request is a planning call with these keys. -/
def Plans (request : Http.Request) (keys : List String) : Prop :=
  (request.method, request.path, keys) ∈ planningCalls

instance (request : Http.Request) (keys : List String) : Decidable (Plans request keys) :=
  inferInstanceAs (Decidable (_ ∈ planningCalls))

/-- No key of these stands twice in the query. -/
def NamesOnce (request : Http.Request) (keys : List String) : Prop :=
  ∀ key ∈ keys, ((Text.Percent.pairs request.query).map Prod.fst).count key ≤ 1

instance (request : Http.Request) (keys : List String) : Decidable (NamesOnce request keys) :=
  inferInstanceAs (Decidable (∀ key ∈ keys, _))

/-- The request creates a container of a decoded name that is not empty, by a
body that is a JSON text. -/
structure Creates (request : Http.Request) (call : CreateRequest) : Prop where
  method : request.method = "POST"
  path : request.path = "/v1.18/containers/create"
  name : Entries.find? "name" (Text.Percent.pairs request.query) = some call.name
  nonempty : call.name ≠ ""
  body : request.body = .bytes call.body
  valid : ∃ value, Json.readBytes? call.body = some value

/-- Which mark a request leaves, by the status of its reply. -/
inductive Handled (request : Http.Request) : (status : Nat) → Mark → Prop where
  | created {call : CreateRequest} : Creates request call → Handled request 201 (.creation call)
  | refused {status : Nat} {message : String} :
    400 ≤ status → Handled request status (.refusal message)
  | inspected {status : Nat} {image : String} :
    status ≠ 201 → (∀ keys, ¬ Plans request keys) → Handled request status (.inspection image)
  /-- A planning call without a mark has not been refused, unless its query
  names a key twice. -/
  | unmarked {status : Nat} :
    status ≠ 201 → (∀ keys, Plans request keys → NamesOnce request keys → status < 400) →
      Handled request status .nothing

/-! ### Paths and queries -/

/-- The keys of a planning call. -/
def Route.keys? : Route → Option (List String)
  | .create => some ["name"]
  | .list => some ["filters"]
  | .build => some buildKeys
  | _ => none

/-- A planning call has a route that allows its method. -/
theorem Plans.route {request : Http.Request} {keys : List String} (plans : Plans request keys) :
    ∃ route, Route.ofPath? request.path = some route ∧ route.allows request.method ∧
      route.keys? = some keys := by
  simp only [Plans, planningCalls, List.mem_cons, Prod.mk.injEq, List.not_mem_nil, or_false]
    at plans
  rcases plans with ⟨method, path, rfl⟩ | ⟨method, path, rfl⟩ | ⟨method, path, rfl⟩
  · exact ⟨.create, by rw [path]; decide, by rw [method]; decide, rfl⟩
  · exact ⟨.list, by rw [path]; decide, by rw [method]; decide, rfl⟩
  · exact ⟨.build, by rw [path]; decide, by rw [method]; decide, rfl⟩

/-- The keys of a planning call whose route is known. -/
theorem Plans.keys_eq {request : Http.Request} {keys : List String} (plans : Plans request keys)
    {route : Route} (routed : Route.ofPath? request.path = some route) :
    route.keys? = some keys := by
  obtain ⟨other, found, _, known⟩ := plans.route
  rw [routed] at found
  cases found
  exact known

/-- A request that is on no route, or on one that does not allow it, plans
nothing. -/
theorem not_plans_of_refused {request : Http.Request}
    (refused : ∀ route, Route.ofPath? request.path = some route →
      ¬ route.allows request.method) (keys : List String) : ¬ Plans request keys := by
  intro plans
  obtain ⟨route, found, allowed, _⟩ := plans.route
  exact refused route found allowed

theorem Route.ofSegments?_create {segments : List String}
    (found : ofSegments? segments = some .create) : segments = ["containers", "create"] := by
  unfold ofSegments? at found
  split at found
  case h_3 => rfl
  case h_8 =>
    simp only at found
    split at found <;> cases found
  all_goals cases found

/-- Only one path creates containers. -/
theorem Route.ofPath?_create {path : String} (found : ofPath? path = some .create) :
    path = "/v1.18/containers/create" := by
  apply @Text.split_injective '/'
  unfold ofPath? at found
  split at found
  case h_3 first rest _ _ cut =>
    split at found
    · next versioned =>
      rw [cut, versioned, ofSegments?_create found]
      decide
    · cases found
  all_goals cases found

/-- A key is found a second time unless each stands once, those that have been
seen included. -/
theorem repeatedKey?_eq_none {known : List String} {pairs : List (String × String)} :
    ∀ seen, repeatedKey? known seen pairs = none ↔
      ∀ key ∈ known, (pairs.map Prod.fst).count key + (if key ∈ seen then 1 else 0) ≤ 1 := by
  induction pairs with
  | nil =>
    intro seen
    simp only [repeatedKey?, List.map_nil, List.count_nil, true_iff]
    intro key _
    split <;> omega
  | cons pair rest ih =>
    obtain ⟨first, value⟩ := pair
    intro seen
    simp only [repeatedKey?, List.map_cons, List.count_cons]
    by_cases again : first ∈ known ∧ first ∈ seen
    · rw [if_pos again]
      refine iff_of_false (Option.some_ne_none first) fun once => ?_
      have twice := once first again.1
      simp only [beq_self_eq_true, if_true, again.2] at twice
      omega
    · rw [if_neg again, ih]
      refine forall₂_congr fun key isKnown => ?_
      by_cases same : first = key
      · subst same
        have unseen : first ∉ seen := fun isSeen => again ⟨isKnown, isSeen⟩
        simp [unseen]
      · simp [same, Ne.symm same]

theorem repeatedKey?_pairs (known : List String) (request : Http.Request) :
    repeatedKey? known [] (Text.Percent.pairs request.query) = none ↔ NamesOnce request known := by
  rw [repeatedKey?_eq_none]
  simp only [NamesOnce, List.not_mem_nil, if_false, Nat.add_zero]

/-- A query is refused exactly if it names a known key twice. -/
theorem query_cases (known : List String) (request : Http.Request) :
    (∃ key, query known request.query = .error key ∧ ¬ NamesOnce request known) ∨
      NamesOnce request known ∧ query known request.query =
        .ok fun key => Entries.find? key (Text.Percent.pairs request.query) := by
  rw [← repeatedKey?_pairs]
  simp only [query]
  cases repeatedKey? known [] (Text.Percent.pairs request.query) with
  | some key => exact .inl ⟨key, rfl, Option.some_ne_none key⟩
  | none => exact .inr ⟨rfl, rfl⟩

/-- A call whose keys stand once each gets what the query holds. -/
theorem withQuery_of_namesOnce {W : Type} {known : List String} {request : Http.Request}
    (once : NamesOnce request known) (call : (String → Option String) → (Http.Reply × Record) × W)
    (record : Record) (w : W) :
    withQuery known request call record w =
      call fun key => Entries.find? key (Text.Percent.pairs request.query) := by
  rcases query_cases known request with ⟨_, _, twice⟩ | ⟨_, decoded⟩
  · exact absurd once twice
  · simp only [withQuery, decoded]

/-- A request on a route that allows it is answered by the call of the route. -/
theorem handle_allowed {W : Type} (builder : Builder W) (skipBuilds : Bool)
    {request : Http.Request} (record : Record) (w : W) {route : Route}
    (routed : Route.ofPath? request.path = some route) (allowed : route.allows request.method) :
    handle builder skipBuilds request record w =
      ((sent request.method (answer builder skipBuilds route request record w).1.1,
        (answer builder skipBuilds route request record w).1.2),
        (answer builder skipBuilds route request record w).2) := by
  unfold handle
  simp only [routed, allowed, if_true]

/-! ### One request -/

/-- What came of a request is told by one mark. -/
def IsMarked (request : Http.Request) (record : Record) (outcome : Http.Reply × Record) : Prop :=
  ∃ mark, Handled request outcome.1.status mark ∧ outcome.2 = record.marked mark

namespace IsMarked

variable {request : Http.Request} {record : Record}

theorem refusal {status : Nat} (message : String) (fails : 400 ≤ status) :
    IsMarked request record (Capture.refusal record status message) :=
  ⟨.refusal message, .refused fails, rfl⟩

/-- What succeeds without creating anything need not be remembered. -/
theorem answered {reply : Http.Reply} (success : reply.status = 200) :
    IsMarked request record (reply, record) := by
  refine ⟨.nothing, ?_, rfl⟩
  rw [success]
  exact .unmarked (by decide) fun _ _ _ => by decide

/-- Nothing else need be remembered of a request that is no planning call. -/
theorem unplanned (apart : ∀ keys, ¬ Plans request keys) {reply : Http.Reply}
    (notCreated : reply.status ≠ 201) : IsMarked request record (reply, record) :=
  ⟨.nothing, .unmarked notCreated fun keys plans => absurd plans (apart keys), rfl⟩

end IsMarked

section Handlers

variable {request : Http.Request} {record : Record}

theorem nonempty_eq_some {value : Option String} {text : String} :
    nonempty value = some text ↔ value = some text ∧ text ≠ "" := by
  simp only [nonempty, Option.filter_eq_some_iff, decide_eq_true_eq]

theorem create_isMarked (method : request.method = "POST")
    (path : request.path = "/v1.18/containers/create") :
    IsMarked request record
      (create (fun key => Entries.find? key (Text.Percent.pairs request.query)) request.body
        record) := by
  unfold create
  split
  · exact .refusal _ (by decide)
  · exact .refusal _ (by decide)
  · next name content named body =>
    obtain ⟨found, isNamed⟩ := nonempty_eq_some.mp named
    split
    · exact .refusal _ (by decide)
    · next value valid =>
      exact ⟨.creation ⟨name, content⟩, .created ⟨method, path, found, isNamed, body, value, valid⟩,
        rfl⟩

theorem list_isMarked (get : String → Option String) :
    IsMarked request record (list get record) := by
  unfold list
  simp only
  split
  · exact .answered rfl
  · split
    · exact .answered rfl
    · exact .refusal _ (by decide)

theorem reportImage_isMarked (apart : ∀ keys, ¬ Plans request keys) (skipBuilds : Bool)
    (image : String) : IsMarked request record (reportImage skipBuilds image record) := by
  unfold reportImage
  split
  · exact .answered rfl
  · refine ⟨.inspection image, .inspected ?_ apart, rfl⟩
    simp only
    split
    · exact (by decide : 404 ≠ 201)
    · exact (by decide : 200 ≠ 201)

variable {W : Type} {w : W}

theorem build_isMarked (builder : Builder W) (skipBuilds : Bool) (get : String → Option String) :
    IsMarked request record (build builder skipBuilds get request.body record w).1 := by
  unfold build
  split
  · exact .answered rfl
  · split
    · exact .refusal _ (by decide)
    · split
      · exact .answered rfl
      · exact .refusal _ (by decide)

variable {route : Route} (routed : Route.ofPath? request.path = some route)
include routed

/-- A call whose query is read leaves the mark of its handler; otherwise the
query names a key twice. -/
theorem withQuery_isMarked {known : List String} (keys : route.keys? = some known)
    {call : (String → Option String) → (Http.Reply × Record) × W}
    (marked : IsMarked request record
      (call fun key => Entries.find? key (Text.Percent.pairs request.query)).1) :
    IsMarked request record (withQuery known request call record w).1 := by
  unfold withQuery
  rcases query_cases known request with ⟨key, refused, twice⟩ | ⟨_, read⟩
  · rw [refused]
    refine ⟨.nothing, .unmarked (by decide : 400 ≠ 201) fun planned plans once => ?_, rfl⟩
    have same : known = planned := Option.some.inj (keys.symm.trans (plans.keys_eq routed))
    exact absurd (same ▸ once) twice
  · rw [read]
    exact marked

theorem not_plans (free : route.keys? = none) (keys : List String) : ¬ Plans request keys := by
  intro plans
  have known := plans.keys_eq routed
  rw [free] at known
  cases known

omit routed in
theorem withPart_isMarked (apart : ∀ keys, ¬ Plans request keys) (part raw : String)
    {call : String → Http.Reply × Record}
    (marked : ∀ text, IsMarked request record (call text)) :
    IsMarked request record (withPart part raw call record w).1 := by
  unfold withPart
  split
  · exact .unplanned apart (by decide : 400 ≠ 201)
  · exact marked _

theorem answer_isMarked (builder : Builder W) (skipBuilds : Bool)
    (allowed : route.allows request.method = true) :
    IsMarked request record (answer builder skipBuilds route request record w).1 := by
  cases route with
  | ping | version | pull => exact .answered rfl
  | create =>
    have method : request.method = "POST" := beq_iff_eq.mp allowed
    exact withQuery_isMarked routed rfl (create_isMarked method (Route.ofPath?_create routed))
  | list => exact withQuery_isMarked routed rfl (list_isMarked _)
  | build => exact withQuery_isMarked routed rfl (build_isMarked builder skipBuilds _)
  | containerDetails id =>
    exact withPart_isMarked (not_plans routed rfl) _ _ fun _ => .answered rfl
  | startCreated id =>
    have apart := not_plans routed rfl
    exact withPart_isMarked apart _ _ fun _ => .unplanned apart (by decide)
  | imageDetails path =>
    have apart := not_plans routed rfl
    exact withPart_isMarked apart _ _ fun _ => reportImage_isMarked apart skipBuilds _

end Handlers

/-- A reply without its body has the same status. -/
theorem IsMarked.sent {request : Http.Request} {record : Record} {outcome : Http.Reply × Record}
    (marked : IsMarked request record outcome) (method : String) :
    IsMarked request record (Capture.sent method outcome.1, outcome.2) := by
  have status : (Capture.sent method outcome.1).status = outcome.1.status := by
    unfold Capture.sent
    split <;> rfl
  unfold IsMarked
  rwa [status]

/-- Whatever a request is, it leaves one mark at most. -/
theorem handle_isMarked {W : Type} (builder : Builder W) (skipBuilds : Bool)
    (request : Http.Request) (record : Record) (w : W) :
    IsMarked request record (handle builder skipBuilds request record w).1 := by
  unfold handle
  refine IsMarked.sent ?_ request.method
  cases routed : Route.ofPath? request.path with
  | none =>
    have apart : ∀ keys, ¬ Plans request keys := by
      apply not_plans_of_refused
      intro route found
      rw [routed] at found
      cases found
    exact .unplanned apart (by decide : 404 ≠ 201)
  | some route =>
    by_cases allowed : route.allows request.method
    · simp only [allowed, if_true]
      exact answer_isMarked routed builder skipBuilds allowed
    · have apart : ∀ keys, ¬ Plans request keys := by
        apply not_plans_of_refused
        intro other found
        rw [routed] at found
        cases found
        exact allowed
      simp only [allowed]
      exact .unplanned apart (by decide : 405 ≠ 201)

/-! ### Many requests -/

/-- What came of a list of requests. -/
structure Dialogue (W : Type) where
  /-- Each request with its reply. -/
  exchanges : List (Http.Request × Http.Reply)
  record : Record
  world : W

/-- Answers requests in order. -/
def handleAll {W : Type} (builder : Builder W) (skipBuilds : Bool) :
    List Http.Request → Record → W → Dialogue W
  | [], record, w => ⟨[], record, w⟩
  | request :: rest, record, w =>
    let ((reply, record), w) := handle builder skipBuilds request record w
    let dialogue := handleAll builder skipBuilds rest record w
    { dialogue with exchanges := (request, reply) :: dialogue.exchanges }

/-- The record with more marks. -/
def Record.markedAll (record : Record) (marks : List Mark) : Record :=
  marks.foldl Record.marked record

namespace Record

variable (record : Record) (marks : List Mark)

theorem requests_markedAll :
    (record.markedAll marks).requests = record.requests ++ marks.filterMap Mark.creation? := by
  unfold markedAll
  induction marks generalizing record with
  | nil => simp
  | cons mark rest ih =>
    rw [List.foldl_cons, ih]
    cases mark <;> simp [marked, capture, refuse, List.filterMap_cons, Mark.creation?]

theorem errors_markedAll :
    (record.markedAll marks).errors = record.errors ++ marks.filterMap Mark.refusal? := by
  unfold markedAll
  induction marks generalizing record with
  | nil => simp
  | cons mark rest ih =>
    rw [List.foldl_cons, ih]
    cases mark <;> simp [marked, capture, refuse, List.filterMap_cons, Mark.refusal?]

end Record

/-- No mark is both a captured call and a refusal. -/
theorem length_creations_add_refusals (marks : List Mark) :
    (marks.filterMap Mark.creation?).length + (marks.filterMap Mark.refusal?).length ≤
      marks.length := by
  induction marks with
  | nil => simp
  | cons mark rest ih =>
    cases mark <;> simp [List.filterMap_cons, Mark.creation?, Mark.refusal?] <;> omega

/-- How a record may grow by some number of requests. -/
structure Record.GrowsTo (before after : Record) (count : Nat) : Prop where
  requests : before.requests <+: after.requests
  errors : before.errors <+: after.errors
  bounded : after.requests.length + after.errors.length ≤
    before.requests.length + before.errors.length + count

theorem Record.growsTo_markedAll (record : Record) (marks : List Mark) :
    record.GrowsTo (record.markedAll marks) marks.length where
  requests := ⟨_, (record.requests_markedAll marks).symm⟩
  errors := ⟨_, (record.errors_markedAll marks).symm⟩
  bounded := by
    have disjoint := length_creations_add_refusals marks
    simp only [requests_markedAll, errors_markedAll, List.length_append]
    omega

section Runs

variable {W : Type} (builder : Builder W) (skipBuilds : Bool)

/-- Every request of a list leaves its own mark. -/
theorem handleAll_isMarked (requests : List Http.Request) (record : Record) (w : W) :
    (handleAll builder skipBuilds requests record w).exchanges.map Prod.fst = requests ∧
      ∃ marks, List.Forall₂ (fun exchange mark => Handled exchange.1 exchange.2.status mark)
          (handleAll builder skipBuilds requests record w).exchanges marks ∧
        (handleAll builder skipBuilds requests record w).record = record.markedAll marks := by
  induction requests generalizing record w with
  | nil => exact ⟨rfl, [], .nil, rfl⟩
  | cons request rest ih =>
    obtain ⟨mark, handled, left⟩ := handle_isMarked builder skipBuilds request record w
    obtain ⟨listed, marks, others, final⟩ :=
      ih (handle builder skipBuilds request record w).1.2
        (handle builder skipBuilds request record w).2
    refine ⟨congrArg (request :: ·) listed, mark :: marks, .cons handled others, ?_⟩
    exact final.trans (congrArg (Record.markedAll · marks) left)

variable {builder skipBuilds} in
/-- Each reply is the one that the requests before it lead to. -/
theorem handleAll_exchange {before after : List (Http.Request × Http.Reply)}
    {request : Http.Request} {reply : Http.Reply} {requests : List Http.Request}
    {record : Record} {w : W}
    (exchanged : (handleAll builder skipBuilds requests record w).exchanges =
      before ++ (request, reply) :: after) :
    (handle builder skipBuilds request
      (handleAll builder skipBuilds (before.map Prod.fst) record w).record
      (handleAll builder skipBuilds (before.map Prod.fst) record w).world).1.1 = reply := by
  induction before generalizing requests record w with
  | nil =>
    cases requests with
    | nil => cases exchanged
    | cons first rest =>
      obtain ⟨same, _⟩ := List.cons.inj exchanged
      cases same
      rfl
  | cons x before ih =>
    cases requests with
    | nil => cases exchanged
    | cons first rest =>
      obtain ⟨rfl, others⟩ := List.cons.inj exchanged
      exact ih others

theorem handleAll_growsTo (requests : List Http.Request) (record : Record) (w : W) :
    record.GrowsTo (handleAll builder skipBuilds requests record w).record requests.length := by
  obtain ⟨listed, marks, handled, final⟩ := handleAll_isMarked builder skipBuilds requests record w
  have count : requests.length = marks.length := by
    rw [← handled.length_eq, ← List.length_map Prod.fst, listed]
  rw [final, count]
  exact record.growsTo_markedAll marks

/-- The calls that marks capture are those that were answered as created. -/
theorem forall₂_creates {exchanges : List (Http.Request × Http.Reply)} {marks : List Mark}
    (handled : List.Forall₂ (fun exchange mark => Handled exchange.1 exchange.2.status mark)
      exchanges marks) :
    List.Forall₂ (fun exchange call => Creates exchange.1 call)
      (exchanges.filter fun exchange => exchange.2.status = 201)
      (marks.filterMap Mark.creation?) := by
  induction handled with
  | nil => exact .nil
  | @cons exchange mark _ _ first _ ih =>
    obtain ⟨request, reply⟩ := exchange
    simp only at first
    generalize status : reply.status = n at first
    cases first with
    | created creates =>
      simp only [List.filter_cons, status, decide_true, if_true, List.filterMap_cons,
        Mark.creation?]
      exact .cons creates ih
    | refused refuses =>
      have other : n ≠ 201 := by omega
      simpa only [List.filter_cons, status, other, decide_false, Bool.false_eq_true, if_false,
        List.filterMap_cons, Mark.creation?] using ih
    | inspected other | unmarked other =>
      simpa only [List.filter_cons, status, other, decide_false, Bool.false_eq_true, if_false,
        List.filterMap_cons, Mark.creation?] using ih

end Runs

/-- What a session has learnt from requests is exact, and all of it is reported
or nothing. -/
structure Dialogue.IsExact {W : Type} (dialogue : Dialogue W) (builder : Builder W)
    (skipBuilds : Bool) (requests : List Http.Request) : Prop where
  answered : dialogue.exchanges.map Prod.fst = requests
  /-- The captured calls are those that were answered as created, in order. -/
  captured : List.Forall₂ (fun exchange call => Creates exchange.1 call)
    (dialogue.exchanges.filter fun exchange => exchange.2.status = 201) dialogue.record.requests
  /-- One more request takes nothing away and adds a call or a refusal at most. -/
  grows : ∀ next, dialogue.record.GrowsTo
    (handle builder skipBuilds next dialogue.record dialogue.world).1.2 1
  /-- The server reports all captured calls, or one error that tells all
  refusals. -/
  reported : ∀ address running,
    (Server.mk address running (some ⟨skipBuilds, dialogue.record⟩)).requests =
      if dialogue.record.errors = [] then .ok dialogue.record.requests
      else .error (.capture ("; ".intercalate dialogue.record.errors))

/-- Whatever requests a fresh session answers, what it has captured is exact. -/
theorem handleAll_capturesExactly {W : Type} (builder : Builder W) (skipBuilds : Bool)
    (requests : List Http.Request) (w : W) :
    (handleAll builder skipBuilds requests .empty w).IsExact builder skipBuilds requests := by
  obtain ⟨answered, marks, handled, final⟩ :=
    handleAll_isMarked builder skipBuilds requests .empty w
  constructor
  · exact answered
  · rw [final, Record.requests_markedAll]
    exact forall₂_creates handled
  · intro next
    exact handleAll_growsTo builder skipBuilds [next] _ _
  · intro address running
    simp only [Server.requests, Record.captured, List.isEmpty_iff]

end ComposeDeploy.Capture
