import ComposeDeploy.Proofs.Capture.Recording

/-!
What a session asks of the real engine.

A request forwards one build at most, and which one is decided by the request
alone (`forwarded?`). Once it is known how that build ended, the reply and the
new record are a function of the request and the old record (`reaction`), and
`handle_eq` says that nothing else goes on between a session and the world. The
mark that a request leaves does not depend on the record either
(`reaction_leavesMark`).
-/

namespace ComposeDeploy.Capture

/-! ### The build of a request -/

/-- The build that a request forwards. -/
def forwarded? (skipBuilds : Bool) (request : Http.Request) : Option (ImageBuild × ByteArray) :=
  match Route.ofPath? request.path, query buildKeys request.query, request.body with
  | some .build, .ok get, .bytes context =>
    if skipBuilds || request.method != "POST" then none else some (requestedBuild get, context)
  | _, _, _ => none

/-- How the build that a request forwards ends, and the world after it. Without
a build nothing happens. -/
def forward {W : Type} (builder : Builder W) (skipBuilds : Bool) (request : Http.Request)
    (w : W) : Except Error Unit × W :=
  match forwarded? skipBuilds request with
  | none => (.ok (), w)
  | some (options, context) => (builder options context).on w

/-- The reply and the record after a request, given how its build ended. -/
def reaction (skipBuilds : Bool) (request : Http.Request) (built : Except Error Unit)
    (record : Record) : Http.Reply × Record :=
  (handle (fun _ _ => Act.settle built) skipBuilds request record ()).1

section Handling

variable {W : Type} (builder : Builder W) (skipBuilds : Bool) (request : Http.Request)
  (record : Record) (w : W)

theorem build_eq {get : String → Option String}
    (read : query buildKeys request.query = .ok get)
    (routed : Route.ofPath? request.path = some .build) (posted : request.method = "POST") :
    build builder skipBuilds get request.body record w =
      ((build (fun _ _ => Act.settle (forward builder skipBuilds request w).1) skipBuilds get
        request.body record ()).1, (forward builder skipBuilds request w).2) := by
  unfold forward forwarded? build
  rw [routed, read, posted]
  cases skipBuilds with
  | true => cases request.body <;> rfl
  | false =>
    cases request.body with
    | broken text => rfl
    | bytes context =>
      have settled (result : Except Error Unit) : (Act.settle result).on () = (result, ()) := rfl
      simp only [bne_self_eq_false, Bool.or_self, Bool.false_eq_true, if_false, settled]
      rcases (builder (requestedBuild get) context).on w with ⟨_ | _, after⟩ <;> rfl

/-- Only a build is forwarded. -/
theorem forward_of_ne_build
    (apart : Route.ofPath? request.path = some .build → request.method ≠ "POST") :
    forward builder skipBuilds request w = (.ok (), w) := by
  have nothing : forwarded? skipBuilds request = none := by
    unfold forwarded?
    split
    · next routed _ _ => simp [apart routed]
    · rfl
  simp only [forward, nothing]

/-- A call that is read from its query and needs no build leaves the world
alone. -/
theorem withQuery_eq (known : List String) (call : (String → Option String) → Http.Reply × Record) :
    withQuery known request (fun get => (call get, w)) record w =
      ((withQuery known request (fun get => (call get, ())) record ()).1, w) := by
  unfold withQuery
  split <;> rfl

theorem withPart_eq (part raw : String) (call : String → Http.Reply × Record) :
    withPart part raw call record w = ((withPart part raw call record ()).1, w) := by
  unfold withPart
  split <;> rfl

theorem answer_eq {route : Route} (routed : Route.ofPath? request.path = some route)
    (allowed : route.allows request.method = true) :
    answer builder skipBuilds route request record w =
      ((answer (fun _ _ => Act.settle (forward builder skipBuilds request w).1) skipBuilds route
        request record ()).1, (forward builder skipBuilds request w).2) := by
  by_cases builds : route = .build
  · subst builds
    have posted : request.method = "POST" := beq_iff_eq.mp allowed
    unfold answer withQuery
    rcases read : query buildKeys request.query with key | get
    · have nothing : forwarded? skipBuilds request = none := by simp [forwarded?, read]
      simp only [forward, nothing]
    · exact build_eq builder skipBuilds request record w read routed posted
  · rw [forward_of_ne_build builder skipBuilds request w
      fun found => absurd (Option.some.inj (routed.symm.trans found)) builds]
    cases route with
    | ping | version | pull => rfl
    | build => exact absurd rfl builds
    | create | list => exact withQuery_eq request record w _ _
    | containerDetails | startCreated | imageDetails => exact withPart_eq record w _ _ _

/-- A request is its build and a reaction to how that ended. -/
theorem handle_eq :
    handle builder skipBuilds request record w =
      (reaction skipBuilds request (forward builder skipBuilds request w).1 record,
        (forward builder skipBuilds request w).2) := by
  unfold reaction handle
  cases routed : Route.ofPath? request.path with
  | none => rw [forward_of_ne_build builder skipBuilds request w (by simp [routed])]
  | some route =>
    by_cases allowed : route.allows request.method
    · simp only [allowed, if_true]
      rw [answer_eq builder skipBuilds request record w routed allowed]
    · have apart : Route.ofPath? request.path = some .build → request.method ≠ "POST" := by
        intro found posted
        rw [routed, Option.some.injEq] at found
        exact allowed (found ▸ beq_iff_eq.mpr posted)
      simp only [allowed]
      rw [forward_of_ne_build builder skipBuilds request w apart]
      rfl

end Handling

/-! ### The mark of a request -/

/-- A call leaves the same mark in every record. -/
def LeavesMark (call : Record → Http.Reply × Record) : Prop :=
  ∃ mark, ∀ record, (call record).2 = record.marked mark

namespace LeavesMark

theorem nothing (reply : Record → Http.Reply) : LeavesMark fun record => (reply record, record) :=
  ⟨.nothing, fun _ => rfl⟩

theorem refusal (status : Nat) (message : String) :
    LeavesMark fun record => Capture.refusal record status message :=
  ⟨.refusal message, fun _ => rfl⟩

theorem create (get : String → Option String) (body : Http.Body) :
    LeavesMark (Capture.create get body) := by
  unfold Capture.create
  split
  · exact .refusal _ _
  · exact .refusal _ _
  · next name content _ =>
    split
    · exact .refusal _ _
    · exact ⟨.creation ⟨name, content⟩, fun _ => rfl⟩

theorem list (get : String → Option String) : LeavesMark (Capture.list get) := by
  unfold Capture.list
  simp only
  split
  · exact .nothing _
  · split
    · exact .nothing _
    · exact .refusal _ _

theorem reportImage (skipBuilds : Bool) (image : String) :
    LeavesMark (Capture.reportImage skipBuilds image) := by
  unfold Capture.reportImage
  split
  · exact .nothing _
  · exact ⟨.inspection image, fun _ => rfl⟩

variable (skipBuilds : Bool) (request : Http.Request) (built : Except Error Unit)

theorem build (get : String → Option String) (body : Http.Body) :
    LeavesMark fun record =>
      (Capture.build (fun _ _ => Act.settle built) skipBuilds get body record ()).1 := by
  unfold Capture.build
  split
  · exact .nothing _
  · split
    · exact .refusal _ _
    · cases built with
      | ok => exact .nothing _
      | error e => exact .refusal _ e.message

theorem withQuery (known : List String)
    {call : (String → Option String) → Record → Http.Reply × Record}
    (leaves : ∀ get, LeavesMark (call get)) :
    LeavesMark fun record =>
      (Capture.withQuery known request (fun get => (call get record, ())) record ()).1 := by
  unfold Capture.withQuery
  split
  · exact .nothing _
  · exact leaves _

theorem withPart (part raw : String) {call : String → Record → Http.Reply × Record}
    (leaves : ∀ text, LeavesMark (call text)) :
    LeavesMark fun record =>
      (Capture.withPart part raw (fun text => call text record) record ()).1 := by
  unfold Capture.withPart
  split
  · exact .nothing _
  · exact leaves _

theorem answer (route : Route) :
    LeavesMark fun record =>
      (Capture.answer (fun _ _ => Act.settle built) skipBuilds route request record ()).1 := by
  cases route with
  | ping | version | pull => exact .nothing _
  | create => exact .withQuery _ _ fun get => .create get _
  | list => exact .withQuery _ _ .list
  | containerDetails | startCreated => exact .withPart _ _ fun _ => .nothing _
  | imageDetails path => exact .withPart _ _ fun path => .reportImage _ _
  | build => exact .withQuery _ _ fun get => .build _ _ get _

end LeavesMark

/-- Given how its build ended, a request leaves the same mark in every
record. -/
theorem reaction_leavesMark (skipBuilds : Bool) (request : Http.Request)
    (built : Except Error Unit) : LeavesMark (reaction skipBuilds request built) := by
  unfold reaction handle
  split
  · exact .nothing _
  · split
    · exact .answer _ _ _ _
    · exact .nothing _

end ComposeDeploy.Capture
