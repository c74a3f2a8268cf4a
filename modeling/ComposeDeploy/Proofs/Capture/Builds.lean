import ComposeDeploy.Proofs.Capture.Forwarding
import ComposeDeploy.Proofs.Capture.Paths
import ComposeDeploy.Proofs.Engine.Exchange

/-!
Builds are forwarded and nothing else is.

Which build a request asks for is said by the request alone: by its query, read
with the engine's defaults (`Describes`), and by its body (`AsksFor`). The calls
that a session makes are the builds that its requests ask for, in order
(`log_handleAll`); when builds are disabled there are none
(`world_handleAll_disabled`). How a build is answered is told by how it ended
(`handle_answersBuild`).
-/

namespace ComposeDeploy.Capture

/-! ### What a query asks for -/

/-- The text sets a flag. -/
def SaysYes (text : String) : Prop :=
  Text.trim text = "1" ∨ Text.sameIgnoringCase (Text.trim text) "true"

/-- The text clears a flag. -/
def SaysNo (text : String) : Prop :=
  Text.trim text = "0" ∨ Text.sameIgnoringCase (Text.trim text) "false"

/-- The flag that a value of a query stands for. Without a value, or with one
that says neither yes nor no, it is the default. -/
inductive GivesFlag (default : Bool) : (value : Option String) → (given : Bool) → Prop where
  | absent : GivesFlag default none default
  | yes {text : String} : SaysYes text → GivesFlag default (some text) true
  | no {text : String} : SaysNo text → GivesFlag default (some text) false
  | neither {text : String} : ¬ SaysYes text → ¬ SaysNo text →
      GivesFlag default (some text) default

/-- The text that a value of a query stands for. An empty one counts for
nothing. -/
inductive GivesText : (value given : Option String) → Prop where
  | absent : GivesText none none
  | empty : GivesText (some "") none
  | some {text : String} : text ≠ "" → GivesText (some text) (some text)

/-- The query describes the options of a build. -/
structure Describes (query : String → Option String) (options : ImageBuild) : Prop where
  tag : GivesText (query "t") options.tag
  dockerfile : GivesText (query "dockerfile") options.dockerfile
  noCache : GivesFlag ImageBuild.usual.noCache (query "nocache") options.noCache
  removeOnSuccess : GivesFlag ImageBuild.usual.removeOnSuccess (query "rm") options.removeOnSuccess
  removeAlways : GivesFlag ImageBuild.usual.removeAlways (query "forcerm") options.removeAlways
  quiet : GivesFlag ImageBuild.usual.quiet (query "q") options.quiet

/-- No text says both yes and no. -/
theorem SaysYes.not_saysNo {text : String} (yes : SaysYes text) : ¬ SaysNo text := by
  unfold SaysYes SaysNo Text.sameIgnoringCase at *
  simp only [beq_iff_eq] at *
  rcases yes with one | word
  · rw [one]
    decide
  · rw [word]
    rintro (zero | other)
    · rw [zero] at word
      revert word
      decide
    · revert other
      decide

theorem flag_of_saysYes {text : String} (yes : SaysYes text) (default : Bool) :
    flag (some text) default = true := by
  simp only [flag, Option.map_some]
  split
  · rfl
  · next notOne =>
    rw [if_neg fun zero => yes.not_saysNo (.inl zero), if_pos (yes.resolve_left notOne)]

theorem flag_of_saysNo {text : String} (no : SaysNo text) (default : Bool) :
    flag (some text) default = false := by
  simp only [flag, Option.map_some]
  rw [if_neg fun one => SaysYes.not_saysNo (.inl one) no]
  split
  · rfl
  · next notZero =>
    rw [if_neg fun word => SaysYes.not_saysNo (.inr word) no, if_pos (no.resolve_left notZero)]

theorem flag_of_neither {text : String} (notYes : ¬ SaysYes text) (notNo : ¬ SaysNo text)
    (default : Bool) : flag (some text) default = default := by
  simp only [SaysYes, SaysNo, not_or] at notYes notNo
  simp only [flag, Option.map_some, if_neg notYes.1, if_neg notNo.1, if_neg notYes.2,
    if_neg notNo.2]

theorem givesFlag_iff {default given : Bool} {value : Option String} :
    GivesFlag default value given ↔ flag value default = given := by
  constructor
  · intro gives
    cases gives with
    | absent => rfl
    | yes yes => exact flag_of_saysYes yes default
    | no no => exact flag_of_saysNo no default
    | neither notYes notNo => exact flag_of_neither notYes notNo _
  · rintro rfl
    cases value with
    | none => exact .absent
    | some text =>
      by_cases yes : SaysYes text
      · rw [flag_of_saysYes yes]
        exact .yes yes
      by_cases no : SaysNo text
      · rw [flag_of_saysNo no]
        exact .no no
      · rw [flag_of_neither yes no]
        exact .neither yes no

theorem givesText_iff {value given : Option String} :
    GivesText value given ↔ nonempty value = given := by
  constructor
  · intro gives
    cases gives with
    | absent => rfl
    | empty => rfl
    | some nonempty => exact nonempty_eq_some.mpr ⟨rfl, nonempty⟩
  · rintro rfl
    cases value with
    | none => exact .absent
    | some text =>
      by_cases empty : text = ""
      · subst empty
        exact .empty
      · rw [nonempty_eq_some.mpr ⟨rfl, empty⟩]
        exact .some empty

theorem describes_iff {query : String → Option String} {options : ImageBuild} :
    Describes query options ↔ requestedBuild query = options := by
  constructor
  · rintro ⟨tag, dockerfile, noCache, removeOnSuccess, removeAlways, quiet⟩
    simp only [requestedBuild, givesText_iff.mp tag, givesText_iff.mp dockerfile,
      givesFlag_iff.mp noCache, givesFlag_iff.mp removeOnSuccess, givesFlag_iff.mp removeAlways,
      givesFlag_iff.mp quiet]
  · rintro rfl
    exact ⟨givesText_iff.mpr rfl, givesText_iff.mpr rfl, givesFlag_iff.mpr rfl,
      givesFlag_iff.mpr rfl, givesFlag_iff.mpr rfl, givesFlag_iff.mpr rfl⟩

/-! ### Requests that ask for a build -/

/-- The request is a build call whose query can be read. -/
structure CallsForBuild (request : Http.Request) : Prop where
  method : request.method = "POST"
  path : request.path = "/v1.18/build"
  readable : NamesOnce request buildKeys

/-- The request asks for this build: its query describes the options and its body
is the context. -/
structure AsksFor (request : Http.Request) (options : ImageBuild) (context : ByteArray) :
    Prop extends CallsForBuild request where
  described : Describes (fun key => Entries.find? key (Text.Percent.pairs request.query)) options
  body : request.body = .bytes context

/-- The builds that requests ask for, in the order of the requests. -/
inductive AskInTurn : List Http.Request → List EngineCall → Prop where
  | nil : AskInTurn [] []
  | build {request : Http.Request} {options : ImageBuild} {context : ByteArray}
      {rest : List Http.Request} {calls : List EngineCall} :
    AsksFor request options context → AskInTurn rest calls →
      AskInTurn (request :: rest) (.build options context :: calls)
  | other {request : Http.Request} {rest : List Http.Request} {calls : List EngineCall} :
    (∀ options context, ¬ AsksFor request options context) → AskInTurn rest calls →
      AskInTurn (request :: rest) calls

/-- The build that a request forwards is the one that it asks for. -/
theorem forwarded?_eq_some_iff {request : Http.Request} {options : ImageBuild}
    {context : ByteArray} :
    forwarded? false request = some (options, context) ↔ AsksFor request options context := by
  unfold forwarded?
  constructor
  · intro forwards
    split at forwards
    · next get content routed read body =>
      rcases query_cases buildKeys request with ⟨key, refused, _⟩ | ⟨once, decoded⟩
      · rw [refused] at read
        cases read
      rw [decoded] at read
      cases read
      rcases eq_or_ne request.method "POST" with posted | other
      · simp only [posted, bne_self_eq_false, Bool.or_self, Bool.false_eq_true, if_false,
          Option.some.injEq, Prod.mk.injEq] at forwards
        obtain ⟨described, rfl⟩ := forwards
        exact ⟨⟨posted, Route.ofPath?_build_iff.mp routed, once⟩, describes_iff.mpr described, body⟩
      · simp [other] at forwards
    · cases forwards
  · rintro ⟨⟨posted, path, once⟩, described, body⟩
    rcases query_cases buildKeys request with ⟨_, _, twice⟩ | ⟨_, decoded⟩
    · exact absurd once twice
    rw [Route.ofPath?_build_iff.mpr path, decoded, body]
    simp [posted, describes_iff.mp described]

/-- When builds are disabled, no build is forwarded. -/
theorem forwarded?_disabled (request : Http.Request) : forwarded? true request = none := by
  unfold forwarded?
  split <;> rfl

/-! ### One request -/

section Handling

variable {W : Type} (builder : Builder W) (skipBuilds : Bool) {request : Http.Request}
  (record : Record) (w : W)

/-- How a session answers a build call: with success if builds are disabled or
the body could be read and the build succeeded, and by one refusal if the build
failed. -/
structure AnswersBuild (request : Http.Request) (outcome : (Http.Reply × Record) × W) : Prop where
  succeeds : outcome.1.1.status = 200 ↔
    skipBuilds = true ∨ ∃ options context after, AsksFor request options context ∧
      (builder options context).on w = (.ok (), after)
  fails : ∀ options context e after, skipBuilds = false → AsksFor request options context →
    (builder options context).on w = (.error e, after) →
      outcome.1.1.status = 500 ∧ outcome.1.2 = record.refuse e.message ∧ outcome.2 = after

/-- A build call is answered as a build. -/
theorem handle_callsForBuild (calls : CallsForBuild request) :
    handle builder skipBuilds request record w =
      build builder skipBuilds (fun key => Entries.find? key (Text.Percent.pairs request.query))
        request.body record w := by
  obtain ⟨posted, path, once⟩ := calls
  have allowed : Route.build.allows request.method = true := by
    rw [posted]
    rfl
  rw [handle_allowed builder skipBuilds record w (Route.ofPath?_build_iff.mpr path) allowed, answer,
    withQuery_of_namesOnce once, posted]
  rfl

section Forwarded

variable {options : ImageBuild} {context : ByteArray} {after : W}

theorem AsksFor.handle_ok (asks : AsksFor request options context)
    (run : (builder options context).on w = (.ok (), after)) :
    handle builder false request record w = ((buildReply, record), after) := by
  rw [handle_callsForBuild builder false record w asks.toCallsForBuild, asks.body]
  simp only [build, describes_iff.mp asks.described, Bool.false_eq_true, if_false, run]

theorem AsksFor.handle_error (asks : AsksFor request options context) {e : Error}
    (run : (builder options context).on w = (.error e, after)) :
    handle builder false request record w = (refusal record 500 e.message, after) := by
  rw [handle_callsForBuild builder false record w asks.toCallsForBuild, asks.body]
  simp only [build, describes_iff.mp asks.described, Bool.false_eq_true, if_false, run]

end Forwarded

theorem handle_answersBuild (calls : CallsForBuild request) :
    AnswersBuild builder skipBuilds record w request
      (handle builder skipBuilds request record w) := by
  have feigned : (handle builder true request record w).1.1.status = 200 := by
    rw [handle_callsForBuild builder true record w calls]
    rfl
  constructor
  · constructor
    · intro success
      cases skipBuilds with
      | true => exact .inl rfl
      | false =>
        cases body : request.body with
        | broken text =>
          rw [handle_callsForBuild builder false record w calls, body] at success
          exact absurd success (by decide : 400 ≠ 200)
        | bytes context =>
          have asks : AsksFor request _ context := ⟨calls, describes_iff.mpr rfl, body⟩
          rcases run : (builder _ context).on w with ⟨e | _, after⟩
          · rw [asks.handle_error builder record w run] at success
            exact absurd success (by decide : 500 ≠ 200)
          · exact .inr ⟨_, context, after, asks, run⟩
    · rintro (rfl | ⟨options, context, after, asks, run⟩)
      · exact feigned
      · cases skipBuilds with
        | true => exact feigned
        | false =>
          rw [asks.handle_ok builder record w run]
          rfl
  · rintro options context e after rfl asks run
    rw [asks.handle_error builder record w run]
    exact ⟨rfl, rfl, rfl⟩

end Handling

/-! ### The calls of a session -/

section Runs

variable {W : Type}

/-- A request that forwards no build leaves the world alone. -/
theorem world_handle_of_forwarded?_eq_none (builder : Builder W) {skipBuilds : Bool}
    {request : Http.Request} (nothing : forwarded? skipBuilds request = none) (record : Record)
    (w : W) : (handle builder skipBuilds request record w).2 = w := by
  rw [handle_eq, forward, nothing]

/-- When builds are disabled, so does a whole session. -/
theorem world_handleAll_disabled (builder : Builder W) (requests : List Http.Request)
    (record : Record) (w : W) : (handleAll builder true requests record w).world = w := by
  induction requests generalizing record w with
  | nil => rfl
  | cons request rest ih =>
    exact (ih _ _).trans
      (world_handle_of_forwarded?_eq_none builder (forwarded?_disabled request) record w)

variable (engine : Engine W) {request : Http.Request} (record : Record) (s : Watched W)

/-- A request that asks for a build makes this call. -/
theorem AsksFor.log_handle {options : ImageBuild} {context : ByteArray}
    (asks : AsksFor request options context) :
    ∃ result, (handle engine.watched.build false request record s).2.log =
      s.log ++ [.build options context result] := by
  rcases run : (engine.watched.build options context).on s with ⟨result, after⟩
  refine ⟨result, ?_⟩
  rw [handle_eq, forward, forwarded?_eq_some_iff.mpr asks]
  simp only [run]
  exact (Act.noted_on run).2

/-- A session makes the calls that its requests ask for, and no others. -/
theorem log_handleAll (requests : List Http.Request) :
    ∃ xs, (handleAll engine.watched.build false requests record s).world.log = s.log ++ xs ∧
      AskInTurn requests (xs.map Exchange.call) := by
  induction requests generalizing record s with
  | nil => exact ⟨[], (List.append_nil _).symm, .nil⟩
  | cons request rest ih =>
    obtain ⟨xs, later, asked⟩ := ih (handle engine.watched.build false request record s).1.2
      (handle engine.watched.build false request record s).2
    by_cases asks : ∃ options context, AsksFor request options context
    · obtain ⟨options, context, asks⟩ := asks
      obtain ⟨result, made⟩ := asks.log_handle engine record s
      refine ⟨.build options context result :: xs, ?_, .build asks asked⟩
      refine later.trans ?_
      rw [made, List.append_assoc, List.singleton_append]
    · have other : ∀ options context, ¬ AsksFor request options context := by simpa using asks
      have nothing : forwarded? false request = none :=
        Option.eq_none_iff_forall_not_mem.mpr fun (options, context) forwards =>
          other options context (forwarded?_eq_some_iff.mp forwards)
      refine ⟨xs, ?_, .other other asked⟩
      refine later.trans ?_
      rw [world_handle_of_forwarded?_eq_none engine.watched.build nothing]

end Runs

end ComposeDeploy.Capture
