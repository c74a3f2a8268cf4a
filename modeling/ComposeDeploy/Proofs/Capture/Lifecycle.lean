import ComposeDeploy.Proofs.Capture.Recording

/-!
The life of a server, from the log of what was asked of it.

A `Host` meets demands one by one: serve, stop, an HTTP request, a report. Its
log says when the server is open (`Log.IsOpen`), and what it has to report is
what the requests handled since the last successful `serve` leave in an empty
record (`Log.Leaves`). `Host.Follows` ties the state of the server to the log;
one demand keeps it (`Host.Follows.meet`), so every run does, and each demand
after a run is met as the log says (`Host.run_isLawful`).
-/

namespace ComposeDeploy.Capture

/-! ### Demands -/

/-- What is asked of a server. -/
inductive Demand (W : Type) where
  /-- Serve, with builds going to `builder`. `bindFailure` says why the address
  cannot be listened on, if that is so. -/
  | serve (builder : Builder W) (bindFailure : Option String) (skipBuilds : Bool)
  | stop
  /-- Answer a request that comes in the world `w`. -/
  | request (connects : Bool) (request : Http.Request) (w : W)
  | report

/-- What comes of a demand. -/
inductive Response where
  | served
  | notServed (e : Error)
  | stopped
  | replied (reply : Http.Reply)
  | unanswered (why : Unanswered)
  | reported (result : Except Error (List CreateRequest))

/-- A server and where its session forwards builds. -/
structure Host (W : Type) where
  server : Server
  builder : Builder W

/-- Demands and what came of them, oldest first. -/
abbrev Log (W : Type) := List (Demand W × Response)

section Hosts

variable {W : Type}

/-- One demand. -/
def Host.meet (host : Host W) : Demand W → Response × Host W
  | .serve builder bindFailure skipBuilds =>
    match host.server.serve bindFailure skipBuilds with
    | (.ok _, server) => (.served, ⟨server, builder⟩)
    | (.error e, server) => (.notServed e, { host with server })
  | .stop => (.stopped, { host with server := host.server.stop })
  | .request connects request w =>
    match (host.server.receive connects host.builder request w).1 with
    | (.ok reply, server) => (.replied reply, { host with server })
    | (.error why, server) => (.unanswered why, { host with server })
  | .report => (.reported host.server.requests, host)

/-- Demands in order. -/
def Host.run (host : Host W) : List (Demand W) → Log W × Host W
  | [] => ([], host)
  | demand :: rest =>
    let (response, host) := host.meet demand
    let (log, host) := host.run rest
    ((demand, response) :: log, host)

/-! ### What a log tells -/

/-- The entry of a server that has been started. -/
def serves (entry : Demand W × Response) : Bool :=
  match entry.2 with
  | .served => true
  | _ => false

/-- The entry of a server that has been stopped. -/
def stops (entry : Demand W × Response) : Bool :=
  match entry.1 with
  | .stop => true
  | _ => false

/-- The request that an entry shows to have been handled, and the world that it
came in. -/
def handled? : Demand W × Response → Option (Http.Request × W)
  | (.request _ request w, .replied _) => some (request, w)
  | _ => none

/-- The record of a session that has handled these requests. -/
def recordOf (builder : Builder W) (skipBuilds : Bool) (handled : List (Http.Request × W)) :
    Record :=
  handled.foldl (fun record (request, w) => (handle builder skipBuilds request record w).1.2) .empty

namespace Log

variable (log : Log W)

/-- The server has been started, and not stopped since. -/
def IsOpen : Prop :=
  ∃ before entry after, log = before ++ entry :: after ∧ serves entry = true ∧
    ∀ later ∈ after, stops later = false

/-- The session after a log: none if the server was never started, and
otherwise what the requests handled since the last start have left. -/
inductive Leaves : Log W → Builder W → Option Session → Prop where
  | nothing {log : Log W} {idle : Builder W} :
    (∀ entry ∈ log, serves entry = false) → Leaves log idle none
  | since {before after : Log W} {builder : Builder W} {bindFailure : Option String}
    {skipBuilds : Bool} :
    (∀ entry ∈ after, serves entry = false) →
      Leaves (before ++ (.serve builder bindFailure skipBuilds, .served) :: after) builder
        (some ⟨skipBuilds, recordOf builder skipBuilds (after.filterMap handled?)⟩)

variable {log} {entry : Demand W × Response}

theorem not_isOpen_nil : ¬ IsOpen ([] : Log W) := by
  rintro ⟨before, entry, after, cut, _⟩
  simp at cut

theorem isOpen_of_serves (served : serves entry = true) : IsOpen (log ++ [entry]) :=
  ⟨log, entry, [], rfl, served, by simp⟩

/-- An entry that starts nothing leaves a server open unless it stops it. -/
theorem isOpen_concat (unserved : serves entry = false) :
    IsOpen (log ++ [entry]) ↔ log.IsOpen ∧ stops entry = false := by
  constructor
  · rintro ⟨before, start, after, cut, served, kept⟩
    rcases List.eq_nil_or_concat after with rfl | ⟨rest, last, rfl⟩
    · obtain ⟨_, same⟩ := List.append_inj' cut rfl
      rw [List.singleton_inj.mp same, served] at unserved
      cases unserved
    · rw [List.concat_eq_append] at cut kept
      have cut : log ++ [entry] = (before ++ start :: rest) ++ [last] := by simpa using cut
      obtain ⟨earlier, same⟩ := List.append_inj' cut rfl
      cases same
      have onward : ∀ later ∈ rest, stops later = false :=
        fun later member => kept later (List.mem_append_left _ member)
      exact ⟨⟨before, start, rest, earlier, served, onward⟩, kept entry (by simp)⟩
  · rintro ⟨⟨before, start, after, rfl, served, kept⟩, unstopped⟩
    refine ⟨before, start, after ++ [entry], by simp, served, ?_⟩
    intro later member
    rcases List.mem_append.mp member with member | member
    · exact kept later member
    · rwa [List.mem_singleton.mp member]

/-- A server that was never started is not open. -/
theorem Leaves.not_isOpen {builder : Builder W} (leaves : log.Leaves builder none) :
    ¬ log.IsOpen := by
  rintro ⟨before, start, after, cut, served, _⟩
  cases leaves with
  | nothing unserved =>
    rw [unserved start (by simp [cut])] at served
    cases served

/-- A session with what one more entry has handled. -/
def heard (builder : Builder W) (entry : Demand W × Response) (session : Session) : Session :=
  { session with record := (handled? entry).elim session.record fun (request, w) =>
    (handle builder session.skipBuilds request session.record w).1.2 }

theorem heard_of_none (builder : Builder W) (unhandled : handled? entry = none)
    (session : Session) : heard builder entry session = session := by
  simp only [heard, unhandled, Option.elim_none]

/-- An entry that starts nothing adds to the session what it handled. -/
theorem Leaves.concat {builder : Builder W} {session : Option Session}
    (leaves : log.Leaves builder session) (unserved : serves entry = false) :
    Leaves (log ++ [entry]) builder (session.map (heard builder entry)) := by
  have still {entries : Log W} (before : ∀ earlier ∈ entries, serves earlier = false) :
      ∀ later ∈ entries ++ [entry], serves later = false := by
    intro later member
    rcases List.mem_append.mp member with member | member
    · exact before later member
    · rwa [List.mem_singleton.mp member]
  cases leaves with
  | nothing before => exact .nothing (still before)
  | @since _ after _ _ skipBuilds before =>
    have record : (heard builder entry
        ⟨skipBuilds, recordOf builder skipBuilds (after.filterMap handled?)⟩) =
          ⟨skipBuilds, recordOf builder skipBuilds ((after ++ [entry]).filterMap handled?)⟩ := by
      cases handles : handled? entry <;>
        simp [heard, recordOf, handles, List.filterMap_append]
    rw [Option.map_some, record, List.append_assoc, List.cons_append]
    exact .since (still before)

end Log

/-! ### One demand -/

namespace Host

variable (host : Host W)

theorem meet_serve_of_running (running : host.server.running = true) (builder : Builder W)
    (bindFailure : Option String) (skipBuilds : Bool) :
    host.meet (.serve builder bindFailure skipBuilds) =
      (.notServed (.other ("proxy is already serving on " ++ host.server.address)), host) := by
  simp only [meet, Server.serve, running, if_true]

theorem meet_serve_of_unbound (idle : host.server.running = false) (builder : Builder W)
    (reason : String) (skipBuilds : Bool) :
    host.meet (.serve builder (some reason) skipBuilds) = (.notServed (.io reason), host) := by
  simp only [meet, Server.serve, idle, Bool.false_eq_true, if_false]

theorem meet_serve (idle : host.server.running = false) (builder : Builder W)
    (skipBuilds : Bool) :
    host.meet (.serve builder none skipBuilds) =
      (.served, ⟨⟨host.server.address, true, some ⟨skipBuilds, .empty⟩⟩, builder⟩) := by
  simp only [meet, Server.serve, idle, Bool.false_eq_true, if_false]

theorem meet_request {session : Session} (current : host.server.session = some session)
    (running : host.server.running = true) (request : Http.Request) (w : W) :
    host.meet (.request true request w) =
      (.replied (handle host.builder session.skipBuilds request session.record w).1.1,
        { host with server.session := some { session with
          record := (handle host.builder session.skipBuilds request session.record w).1.2 } }) := by
  simp only [meet, Server.receive, current, running, Bool.and_self, if_true]

/-- A request that comes to no open session is not answered. -/
theorem meet_request_of_refused {connects : Bool} (request : Http.Request) (w : W)
    (refused : host.server.running = false ∨ connects = false) :
    ∃ why, host.meet (.request connects request w) = (.unanswered why, host) := by
  have closed : (host.server.running && connects) = false := by
    rcases refused with idle | apart
    · rw [idle, Bool.false_and]
    · rw [apart, Bool.and_false]
  simp only [meet, Server.receive]
  cases host.server.session with
  | none => exact ⟨.notBound, rfl⟩
  | some session =>
    refine ⟨.refused, ?_⟩
    simp only [closed, Bool.false_eq_true, if_false]

/-- The state of a server is what its log tells. -/
structure Follows (log : Log W) : Prop where
  running : host.server.running = true ↔ log.IsOpen
  leaves : log.Leaves host.builder host.server.session

variable {host} {log : Log W}

namespace Follows

theorem idle (follows : host.Follows log) (closed : ¬ log.IsOpen) : host.server.running = false :=
  Bool.eq_false_iff.mpr (mt follows.running.mp closed)

/-- An open server has a session. -/
theorem session (follows : host.Follows log) (isOpen : log.IsOpen) :
    ∃ session, host.server.session = some session := by
  have leaves := follows.leaves
  cases current : host.server.session with
  | none =>
    rw [current] at leaves
    exact absurd isOpen leaves.not_isOpen
  | some session => exact ⟨session, rfl⟩

/-- A demand that starts nothing and changes nothing. -/
theorem unchanged (follows : host.Follows log) {demand : Demand W} {response : Response}
    (unserved : serves (demand, response) = false) (unstopped : stops (demand, response) = false)
    (unhandled : handled? (demand, response) = none) :
    host.Follows (log ++ [(demand, response)]) where
  running := by rw [Log.isOpen_concat unserved, unstopped, follows.running]; simp
  leaves := by
    have leaves := follows.leaves.concat unserved
    rwa [funext (Log.heard_of_none host.builder unhandled), Option.map_id'] at leaves

/-- One demand. -/
theorem meet (follows : host.Follows log) (demand : Demand W) :
    (host.meet demand).2.Follows (log ++ [(demand, (host.meet demand).1)]) := by
  cases demand with
  | serve builder bindFailure skipBuilds =>
    cases running : host.server.running with
    | true =>
      rw [host.meet_serve_of_running running]
      exact follows.unchanged rfl rfl rfl
    | false =>
      cases bindFailure with
      | some reason =>
        rw [host.meet_serve_of_unbound running]
        exact follows.unchanged rfl rfl rfl
      | none =>
        rw [host.meet_serve running]
        have none : ∀ entry ∈ ([] : Log W), serves entry = false := by simp
        exact ⟨iff_of_true rfl (Log.isOpen_of_serves rfl), .since none⟩
  | stop =>
    have closed : ¬ Log.IsOpen (log ++ [(.stop, .stopped)]) := by
      rw [Log.isOpen_concat rfl]
      simp [stops]
    have leaves : Log.Leaves (log ++ [(.stop, .stopped)]) host.builder _ :=
      follows.leaves.concat rfl
    rw [funext (Log.heard_of_none host.builder rfl), Option.map_id'] at leaves
    exact ⟨iff_of_false Bool.false_ne_true closed, leaves⟩
  | report => exact follows.unchanged rfl rfl rfl
  | request connects request w =>
    by_cases answered : host.server.running = true ∧ connects = true
    · obtain ⟨running, rfl⟩ := answered
      have isOpen := follows.running.mp running
      obtain ⟨session, current⟩ := follows.session isOpen
      have leaves := follows.leaves
      rw [current] at leaves
      rw [host.meet_request current running]
      refine ⟨?_, leaves.concat rfl⟩
      rw [Log.isOpen_concat rfl]
      exact iff_of_true running ⟨isOpen, rfl⟩
    · have refused : host.server.running = false ∨ connects = false := by
        rwa [not_and_or, Bool.not_eq_true, Bool.not_eq_true] at answered
      obtain ⟨why, met⟩ := host.meet_request_of_refused request w refused
      rw [met]
      exact follows.unchanged rfl rfl rfl

/-- Demands in order. -/
theorem run (follows : host.Follows log) (demands : List (Demand W)) :
    (host.run demands).2.Follows (log ++ (host.run demands).1) := by
  induction demands generalizing host log with
  | nil => simpa [Host.run] using follows
  | cons demand rest ih =>
    have next := ih (follows.meet demand)
    rwa [List.append_assoc] at next

end Follows

/-! ### All demands -/

theorem map_fst_run (host : Host W) (demands : List (Demand W)) :
    (host.run demands).1.map Prod.fst = demands := by
  induction demands generalizing host with
  | nil => rfl
  | cons demand rest ih => exact congrArg (demand :: ·) (ih _)

/-- How a server meets what is asked of it next, by its log. -/
structure IsLawful (host : Host W) (log : Log W) : Prop where
  /-- Open or not, what is reported is the capture of exactly the requests
  handled since the last start, and nothing if there was none. -/
  reports : ∃ session, log.Leaves host.builder session ∧
    host.meet .report =
      (.reported (session.elim (.ok []) fun session => session.record.captured), host)
  servesOnce : log.IsOpen → ∀ builder bindFailure skipBuilds,
    host.meet (.serve builder bindFailure skipBuilds) =
      (.notServed (.other ("proxy is already serving on " ++ host.server.address)), host)
  /-- Without an address to listen on, the old capture stays. -/
  needsAddress : ¬ log.IsOpen → ∀ builder reason skipBuilds,
    host.meet (.serve builder (some reason) skipBuilds) = (.notServed (.io reason), host)
  startsEmpty : ¬ log.IsOpen → ∀ builder skipBuilds, ∃ after,
    host.meet (.serve builder none skipBuilds) = (.served, after) ∧
      after.server.session = some ⟨skipBuilds, .empty⟩ ∧
      after.meet .report = (.reported (.ok []), after)
  /-- Stopping keeps what there is to report, and without a service it changes
  nothing at all. -/
  stops : ∃ after, host.meet .stop = (.stopped, after) ∧
    (after.meet .report).1 = (host.meet .report).1 ∧ (¬ log.IsOpen → after = host)
  answers : log.IsOpen → ∀ request w, ∃ reply after,
    host.meet (.request true request w) = (.replied reply, after)
  ignores : ∀ connects, ¬ log.IsOpen ∨ connects = false → ∀ request w, ∃ why,
    host.meet (.request connects request w) = (.unanswered why, host)

theorem Follows.isLawful (follows : host.Follows log) : host.IsLawful log where
  reports := by
    refine ⟨host.server.session, follows.leaves, ?_⟩
    simp only [Host.meet, Server.requests]
    cases host.server.session <;> rfl
  servesOnce isOpen := host.meet_serve_of_running (follows.running.mpr isOpen)
  needsAddress closed := host.meet_serve_of_unbound (follows.idle closed)
  startsEmpty closed builder skipBuilds :=
    ⟨_, host.meet_serve (follows.idle closed) builder skipBuilds, rfl, rfl⟩
  stops := by
    refine ⟨_, rfl, rfl, ?_⟩
    intro closed
    simp only [Server.stop, ← follows.idle closed]
  answers isOpen request w := by
    obtain ⟨session, current⟩ := follows.session isOpen
    exact ⟨_, _, host.meet_request current (follows.running.mpr isOpen) request w⟩
  ignores connects refused request w :=
    host.meet_request_of_refused request w (refused.imp_left follows.idle)

/-- Before the first demand. -/
def fresh (address : String) (idle : Builder W) : Host W :=
  ⟨.atAddress address, idle⟩

/-- Whatever has been asked of a server, in whatever order, it meets the next
demand as its log says. -/
theorem run_isLawful (address : String) (idle : Builder W) (demands : List (Demand W)) :
    ((fresh address idle).run demands).1.map Prod.fst = demands ∧
      ((fresh address idle).run demands).2.IsLawful ((fresh address idle).run demands).1 := by
  have start : (fresh address idle).Follows [] :=
    ⟨iff_of_false Bool.false_ne_true Log.not_isOpen_nil, .nothing (by simp)⟩
  exact ⟨map_fst_run _ demands, (start.run demands).isLawful⟩

end Host

end Hosts

end ComposeDeploy.Capture
