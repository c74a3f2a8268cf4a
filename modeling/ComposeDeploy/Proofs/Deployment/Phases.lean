import ComposeDeploy.Proofs.Deployment.Conversation
import ComposeDeploy.Proofs.Deployment.Planning
import ComposeDeploy.Proofs.Engine.Containers

/-!
The phases of a change never interleave, and a failure before the first
removal changes nothing.

A conversation is `Orderly` if each call is made after the success of all
before it. Each step of a change is orderly and makes calls of one kind
(`Phases.InOrder`), so the whole change is orderly, and an error that does
not answer a removal or a start comes before all removals and starts. The
main statement is `Setup.change_goesInPhases`.
-/

namespace ComposeDeploy

theorem Except.isOk_map {ε α β : Type} (f : α → β) (result : Except ε α) :
    (result.map f).isOk = result.isOk := by
  cases result <;> rfl

/-! ### Orderly conversations -/

/-- Each call is made after the success of all before it, and if the step is
done, all have succeeded. -/
structure Exchange.Orderly (xs : List Exchange) (done : Bool) : Prop where
  earlier : xs.Pairwise fun earlier _ => earlier.succeeded
  all : done → ∀ x ∈ xs, x.succeeded

namespace Exchange.Orderly

theorem nil {done : Bool} : Orderly [] done where
  earlier := .nil
  all _ _ member := absurd member List.not_mem_nil

theorem single {x : Exchange} {done : Bool} (success : done → x.succeeded) :
    Orderly [x] done where
  earlier := List.pairwise_singleton _ x
  all finished y member := by
    rw [List.mem_singleton.mp member]
    exact success finished

theorem append {xs ys : List Exchange} {done : Bool} (first : Orderly xs true)
    (second : Orderly ys done) : Orderly (xs ++ ys) done where
  earlier := List.pairwise_append.mpr
    ⟨first.earlier, second.earlier, fun x member _ _ => first.all rfl x member⟩
  all finished x member := by
    rcases List.mem_append.mp member with member | member
    · exact first.all rfl x member
    · exact second.all finished x member

theorem cons {x : Exchange} {xs : List Exchange} {done : Bool} (success : x.succeeded)
    (rest : Orderly xs done) : Orderly (x :: xs) done :=
  append (single fun _ => success) rest

end Exchange.Orderly

open Exchange (Orderly)

/-! ### Single steps -/

/-- The call that resolves the image of a request, unless it is refused. -/
def CreateRequest.resolution? (request : CreateRequest) : Option EngineCall :=
  match request.wanted with
  | .ok (_, reference) => some (.resolve reference)
  | .error _ => none

namespace Pins

variable {requests : List CreateRequest} {xs : List Exchange}
  {result : Except Error (List Service)}

theorem orderly (pins : Pins requests xs result) : Orderly xs result.isOk := by
  induction pins with
  | nil => exact .nil
  | refused => exact .nil
  | unresolved => exact .single nofun
  | more _ _ ih =>
    rw [Except.isOk_map]
    exact .cons rfl ih

theorem resolves (pins : Pins requests xs result) :
    ∀ x ∈ xs, ∃ reference answer, x = .resolve reference answer := by
  induction pins with
  | nil => exact List.forall_mem_nil _
  | refused => exact List.forall_mem_nil _
  | unresolved => exact List.forall_mem_singleton.mpr ⟨_, _, rfl⟩
  | more _ _ ih => exact List.forall_mem_cons.mpr ⟨⟨_, _, rfl⟩, ih⟩

/-- Images are resolved for one request after the other. -/
theorem calls (pins : Pins requests xs result) :
    xs.map (fun x => some x.call) <+: requests.map CreateRequest.resolution? := by
  induction pins with
  | nil => exact List.prefix_rfl
  | refused => exact List.nil_prefix
  | unresolved wanted =>
    refine List.cons_prefix_cons.mpr ⟨?_, List.nil_prefix⟩
    simp only [Exchange.call, CreateRequest.resolution?, wanted]
  | more wanted _ ih =>
    refine List.cons_prefix_cons.mpr ⟨?_, ih⟩
    simp only [Exchange.call, CreateRequest.resolution?, wanted]

/-- Pinned services are those of the requests, and each image has been
resolved. -/
theorem complete {services : List Service} (pins : Pins requests xs (.ok services)) :
    services.map Service.name = requests.map CreateRequest.name ∧
      xs.length = requests.length := by
  generalize outcome : Except.ok services = result at pins
  induction pins generalizing services with
  | nil =>
    cases outcome
    exact ⟨rfl, rfl⟩
  | refused => cases outcome
  | unresolved => cases outcome
  | @more request rest _ _ _ _ result _ _ ih =>
    cases result with
    | error e => cases outcome
    | ok others =>
      cases outcome
      obtain ⟨names, length⟩ := ih rfl
      simp only [List.map_cons, List.length_cons, CreateRequest.served, names, length, and_self]

end Pins

namespace Reads

variable {names : List String} {xs : List Exchange} {result : Except Error History}

theorem orderly (reads : Reads names xs result) : Orderly xs result.isOk := by
  induction reads with
  | nil => exact .nil
  | failed => exact .single nofun
  | found => exact .single fun _ => rfl
  | absent _ ih => exact .cons rfl ih

theorem inspects (reads : Reads names xs result) :
    ∀ x ∈ xs, ∃ name answer, x = .inspect name answer := by
  induction reads with
  | nil => exact List.forall_mem_nil _
  | failed => exact List.forall_mem_singleton.mpr ⟨_, _, rfl⟩
  | found => exact List.forall_mem_singleton.mpr ⟨_, _, rfl⟩
  | absent _ ih => exact List.forall_mem_cons.mpr ⟨⟨_, _, rfl⟩, ih⟩

/-- Containers are inspected one after the other. -/
theorem calls (reads : Reads names xs result) :
    xs.map Exchange.call <+: names.map EngineCall.inspect := by
  induction reads with
  | nil => exact List.prefix_rfl
  | failed => exact List.cons_prefix_cons.mpr ⟨rfl, List.nil_prefix⟩
  | found => exact List.cons_prefix_cons.mpr ⟨rfl, List.nil_prefix⟩
  | absent _ ih => exact List.cons_prefix_cons.mpr ⟨rfl, ih⟩

/-- No container is inspected after one that exists. -/
theorem absentBefore (reads : Reads names xs result) :
    ∀ x ∈ xs.dropLast, ∃ name, x = .inspect name (.ok none) := by
  induction reads with
  | nil => exact List.forall_mem_nil _
  | failed => exact List.forall_mem_nil _
  | found => exact List.forall_mem_nil _
  | @absent name rest xs _ _ ih =>
    cases xs with
    | nil => exact List.forall_mem_nil _
    | cons y ys => exact List.forall_mem_cons.mpr ⟨⟨name, rfl⟩, ih⟩

end Reads

namespace Removes

variable {names : List String} {xs : List Exchange} {result : Except Error Nat}

theorem orderly (removes : Removes names xs result) : Orderly xs result.isOk := by
  induction removes with
  | nil => exact .nil
  | failed => exact .single nofun
  | present _ ih =>
    rw [Except.isOk_map]
    exact .cons rfl ih
  | missing _ ih =>
    rw [Except.isOk_map]
    exact .cons rfl ih

theorem removes (removes : Removes names xs result) :
    ∀ x ∈ xs, ∃ name answer, x = .remove name answer := by
  induction removes with
  | nil => exact List.forall_mem_nil _
  | failed => exact List.forall_mem_singleton.mpr ⟨_, _, rfl⟩
  | present _ ih => exact List.forall_mem_cons.mpr ⟨⟨_, _, rfl⟩, ih⟩
  | missing _ ih => exact List.forall_mem_cons.mpr ⟨⟨_, _, rfl⟩, ih⟩

/-- Containers are removed one after the other. -/
theorem calls (removes : Removes names xs result) :
    xs.map Exchange.call <+: names.map EngineCall.remove := by
  induction removes with
  | nil => exact List.prefix_rfl
  | failed => exact List.cons_prefix_cons.mpr ⟨rfl, List.nil_prefix⟩
  | present _ ih => exact List.cons_prefix_cons.mpr ⟨rfl, ih⟩
  | missing _ ih => exact List.cons_prefix_cons.mpr ⟨rfl, ih⟩

/-- Removals that fail are those of the names before the one that is refused. -/
theorem stuck {e : Error} (removes : Removes names xs (.error e)) :
    ∃ gone name left ys count, names = gone ++ name :: left ∧ xs = ys ++ [.remove name (.error e)] ∧
      Removes gone ys (.ok count) ∧ ∀ missing, e ≠ .containerNotFound missing := by
  generalize outcome : Except.error e = result at removes
  induction removes with
  | nil => cases outcome
  | failed real =>
    cases outcome
    exact ⟨[], _, _, [], 0, rfl, rfl, .nil, real⟩
  | @present first _ _ result _ ih =>
    cases result with
    | ok => cases outcome
    | error e' =>
      cases outcome
      obtain ⟨gone, name, left, ys, _, rfl, rfl, done, real⟩ := ih rfl
      exact ⟨first :: gone, name, left, _ :: ys, _, rfl, rfl, .present done, real⟩
  | @missing first _ _ _ result _ ih =>
    cases result with
    | ok => cases outcome
    | error e' =>
      cases outcome
      obtain ⟨gone, name, left, ys, _, rfl, rfl, done, real⟩ := ih rfl
      exact ⟨first :: gone, name, left, _ :: ys, _, rfl, rfl, .missing done, real⟩

/-- A failure is that of the last removal. -/
theorem failure {e : Error} (removes : Removes names xs (.error e)) :
    ∃ name, xs.getLast? = some (.remove name (.error e)) := by
  obtain ⟨_, name, _, ys, _, _, rfl, _, _⟩ := removes.stuck
  exact ⟨name, List.getLast?_concat⟩

end Removes

namespace Starts

variable {label : String} {services : List Service} {xs : List Exchange}
  {result : Except Error Unit}

theorem orderly (starts : Starts label services xs result) : Orderly xs result.isOk := by
  induction starts with
  | nil => exact .nil
  | failed => exact .single nofun
  | more _ ih => exact .cons rfl ih

theorem starts (starts : Starts label services xs result) :
    ∀ x ∈ xs, ∃ name configuration answer, x = .start name configuration answer := by
  induction starts with
  | nil => exact List.forall_mem_nil _
  | failed => exact List.forall_mem_singleton.mpr ⟨_, _, _, rfl⟩
  | more _ ih => exact List.forall_mem_cons.mpr ⟨⟨_, _, _, rfl⟩, ih⟩

/-- Services are started one after the other. -/
theorem calls (starts : Starts label services xs result) :
    xs.map Exchange.call <+:
      services.map fun service => EngineCall.start service.name (service.labeled label) := by
  induction starts with
  | nil => exact List.prefix_rfl
  | failed => exact List.cons_prefix_cons.mpr ⟨rfl, List.nil_prefix⟩
  | more _ ih => exact List.cons_prefix_cons.mpr ⟨rfl, ih⟩

/-- Starts that fail are those of the services before the one that is
refused. -/
theorem stuck {e : Error} (starts : Starts label services xs (.error e)) :
    ∃ begun service left ys, services = begun ++ service :: left ∧
      xs = ys ++ [.start service.name (service.labeled label) (.error e)] ∧
      Starts label begun ys (.ok ()) := by
  generalize outcome : Except.error e = result at starts
  induction starts with
  | nil => cases outcome
  | failed =>
    cases outcome
    exact ⟨[], _, _, [], rfl, rfl, .nil⟩
  | @more first _ _ _ _ ih =>
    obtain ⟨begun, service, left, ys, rfl, rfl, done⟩ := ih outcome
    exact ⟨first :: begun, service, left, _ :: ys, rfl, rfl, .more done⟩

/-- A failure is that of the last start. -/
theorem failure {e : Error} (starts : Starts label services xs (.error e)) :
    ∃ name configuration, xs.getLast? = some (.start name configuration (.error e)) := by
  obtain ⟨_, service, _, ys, _, rfl, _⟩ := starts.stuck
  exact ⟨service.name, _, List.getLast?_concat⟩

end Starts

namespace BringsUp

variable {history : History} {xs : List Exchange} {result : Except Error Unit}

/-- Bringing up a history starts services, if any. -/
theorem starts (brings : BringsUp history xs result) :
    ∃ services, Starts history.labelText services xs result := by
  cases brings with
  | idle => exact ⟨[], .nil⟩
  | starting _ starts => exact ⟨_, starts⟩

end BringsUp

/-! ### Carrying out an intent -/

namespace CarriesOut

variable {limit : Option Nat} {intent : Intent} {inspections removals starts : List Exchange}
  {result : Except Error Answer}

theorem reads (carries : CarriesOut limit intent inspections removals starts result) :
    ∃ read, Reads intent.names inspections read := by
  cases carries with
  | unread reads => exact ⟨_, reads⟩
  | refused reads => exact ⟨_, reads⟩
  | unremoved reads => exact ⟨_, reads⟩
  | turned reads => exact ⟨_, reads⟩

theorem removes (carries : CarriesOut limit intent inspections removals starts result) :
    ∃ names removed, Removes names removals removed := by
  cases carries with
  | unread => exact ⟨[], _, .nil⟩
  | refused => exact ⟨[], _, .nil⟩
  | unremoved _ _ removes => exact ⟨_, _, removes⟩
  | turned _ _ removes => exact ⟨_, _, removes⟩

theorem startsUp (carries : CarriesOut limit intent inspections removals starts result) :
    ∃ label services started, Starts label services starts started := by
  cases carries with
  | unread => exact ⟨"", [], _, .nil⟩
  | refused => exact ⟨"", [], _, .nil⟩
  | unremoved => exact ⟨"", [], _, .nil⟩
  | turned _ _ _ brings =>
    obtain ⟨services, starts⟩ := brings.starts
    exact ⟨_, services, _, starts⟩

theorem orderly (carries : CarriesOut limit intent inspections removals starts result) :
    Orderly (inspections ++ (removals ++ starts)) result.isOk := by
  cases carries with
  | unread reads =>
    simp only [List.append_nil]
    exact reads.orderly
  | refused reads =>
    simp only [List.append_nil]
    exact ⟨reads.orderly.earlier, nofun⟩
  | unremoved reads _ removes =>
    rw [List.append_nil]
    exact reads.orderly.append removes.orderly
  | turned reads _ removes brings =>
    obtain ⟨services, starts⟩ := brings.starts
    rw [Except.isOk_map]
    exact reads.orderly.append (removes.orderly.append starts.orderly)

/-- A failure comes before all removals, or it is that of the last removal or
of the last start. -/
theorem failure {e : Error}
    (carries : CarriesOut limit intent inspections removals starts (.error e)) :
    (removals = [] ∧ starts = []) ∨
      (starts = [] ∧ ∃ name, removals.getLast? = some (.remove name (.error e))) ∨
      ∃ name configuration, starts.getLast? = some (.start name configuration (.error e)) := by
  generalize outcome : Except.error e = result at carries
  cases carries with
  | unread => exact .inl ⟨rfl, rfl⟩
  | refused => exact .inl ⟨rfl, rfl⟩
  | unremoved _ _ removes =>
    cases outcome
    exact .inr (.inl ⟨rfl, removes.failure⟩)
  | @turned _ _ _ _ _ result _ _ _ brings =>
    obtain ⟨services, starts⟩ := brings.starts
    cases result with
    | ok => cases outcome
    | error e' =>
      cases outcome
      exact .inr (.inr starts.failure)

end CarriesOut

/-! ### Whole changes -/

/-- The calls that resolve the images of a change. -/
def Change.resolutions (requests : List CreateRequest) : Change → List (Option EngineCall)
  | .deploy _ => requests.map CreateRequest.resolution?
  | .rollback _ => []

/-- The calls of the phases are of one kind each and follow what was
captured. -/
structure Phases.InOrder (phases : Phases) (change : Change) (requests : List CreateRequest) :
    Prop where
  /-- Images are resolved for the requests in order; a rollback resolves none. -/
  resolutions : phases.resolutions.map (fun x => some x.call) <+: change.resolutions requests
  /-- Nothing else happens before all images are resolved. -/
  resolved : phases.inspections ++ (phases.removals ++ phases.starts) ≠ [] →
    phases.resolutions.map (fun x => some x.call) = change.resolutions requests
  /-- Containers are inspected in the order of the requests. -/
  inspections : phases.inspections.map Exchange.call <+:
    requests.map fun request => .inspect request.name
  /-- None is inspected after one that exists. -/
  absentBefore : ∀ x ∈ phases.inspections.dropLast, ∃ name, x = .inspect name (.ok none)
  removals : ∀ x ∈ phases.removals, ∃ name answer, x = .remove name answer
  starts : ∀ x ∈ phases.starts, ∃ name configuration answer, x = .start name configuration answer

namespace Change

variable {now : String} {limit : Option Nat} {change : Change}

namespace Resolves

variable {requests : List CreateRequest} {xs : List Exchange} {result : Except Error Intent}

theorem calls (resolves : change.Resolves now requests xs result) :
    xs.map (fun x => some x.call) <+: change.resolutions requests := by
  cases resolves with
  | deploy pins => exact pins.calls
  | rollback => exact List.nil_prefix

theorem asks (resolves : change.Resolves now requests xs result) :
    ∀ x ∈ xs, ∃ reference answer, x = .resolve reference answer := by
  cases resolves with
  | deploy pins => exact pins.resolves
  | rollback => exact List.forall_mem_nil _

theorem orderly (resolves : change.Resolves now requests xs result) :
    Orderly xs result.isOk := by
  cases resolves with
  | deploy pins =>
    rw [Except.isOk_map]
    exact pins.orderly
  | rollback => exact .nil

/-- With its images resolved, a change looks at the requested containers. -/
theorem complete {intent : Intent} (resolves : change.Resolves now requests xs (.ok intent)) :
    xs.map (fun x => some x.call) = change.resolutions requests ∧
      intent.names = requests.map CreateRequest.name := by
  generalize outcome : Except.ok intent = result at resolves
  cases resolves with
  | @deploy _ _ services pins =>
    cases services with
    | error e => cases outcome
    | ok services =>
      cases outcome
      obtain ⟨names, length⟩ := pins.complete
      refine ⟨pins.calls.eq_of_length ?_, names⟩
      simp only [List.length_map, length]
  | rollback =>
    cases outcome
    exact ⟨rfl, rfl⟩

/-- A deployment pins what was captured. -/
theorem pinned {options : Rollout} {intent : Intent}
    (resolves : Resolves now requests (.deploy options) xs (.ok intent)) :
    ∃ services, Pins requests xs (.ok services) ∧ intent = Intent.toDeploy now options services := by
  generalize outcome : Except.ok intent = result at resolves
  cases resolves with
  | @deploy _ _ services pins =>
    cases services with
    | error e => cases outcome
    | ok services =>
      cases outcome
      exact ⟨services, pins, rfl⟩

/-- A deployment deploys what was captured. -/
theorem deployed {options : Rollout} {intent : Intent} {history : History} {turn : Turn}
    (resolves : Resolves now requests (.deploy options) xs (.ok intent))
    (chosen : intent.turn history = .ok turn) :
    turn.manifest.containerNames = requests.map CreateRequest.name ∧
      turn.old = Setup.stale (requests.map CreateRequest.name) history := by
  obtain ⟨services, pins, rfl⟩ := resolves.pinned
  cases chosen
  have names : services.map Service.name = requests.map CreateRequest.name := pins.complete.1
  exact ⟨names, congrArg (Setup.stale · history) names⟩

/-- A rollback makes an earlier deployment again and removes the active one. -/
theorem restored {options : Restoration} {intent : Intent} {history : History} {turn : Turn}
    (resolves : Resolves now requests (.rollback options) xs (.ok intent))
    (chosen : intent.turn history = .ok turn) :
    ∃ index target, history.restoration options.index = .ok (index, target) ∧
      turn.manifest = target.remadeAt now ∧ turn.old = history.activeNames := by
  cases resolves
  have chosen : (history.restoration options.index).map _ = .ok turn := chosen
  cases restored : history.restoration options.index with
  | error e =>
    rw [restored] at chosen
    cases chosen
  | ok found =>
    obtain ⟨index, target⟩ := found
    rw [restored] at chosen
    cases chosen
    exact ⟨index, target, rfl, rfl, rfl⟩

end Resolves

namespace Makes

variable {captured : Except Error (List CreateRequest)} {phases : Phases}
  {result : Except Error Answer}

theorem inOrder (makes : change.Makes now limit captured phases result) :
    phases.InOrder change (captured.toOption.getD []) := by
  cases makes with
  | unplanned =>
    exact ⟨List.nil_prefix, nofun, List.nil_prefix, List.forall_mem_nil _, List.forall_mem_nil _,
      List.forall_mem_nil _⟩
  | unresolved resolves =>
    exact ⟨resolves.calls, nofun, List.nil_prefix, List.forall_mem_nil _, List.forall_mem_nil _,
      List.forall_mem_nil _⟩
  | carriedOut resolves carries =>
    obtain ⟨resolved, names⟩ := resolves.complete
    obtain ⟨_, reads⟩ := carries.reads
    obtain ⟨_, _, removes⟩ := carries.removes
    obtain ⟨_, _, _, starts⟩ := carries.startsUp
    have inspected := reads.calls
    rw [names, List.map_map] at inspected
    exact ⟨resolves.calls, fun _ => resolved, inspected, reads.absentBefore, removes.removes,
      starts.starts⟩

theorem orderly (makes : change.Makes now limit captured phases result) :
    Orderly phases.all result.isOk := by
  cases makes with
  | unplanned => exact .nil
  | unresolved resolves =>
    simp only [Phases.all, List.append_nil]
    exact resolves.orderly
  | carriedOut resolves carries => exact resolves.orderly.append carries.orderly

theorem failure {e : Error} (makes : change.Makes now limit captured phases (.error e)) :
    (phases.removals = [] ∧ phases.starts = []) ∨
      (phases.starts = [] ∧ ∃ name, phases.removals.getLast? = some (.remove name (.error e))) ∨
      ∃ name configuration,
        phases.starts.getLast? = some (.start name configuration (.error e)) := by
  cases makes with
  | unplanned => exact .inl ⟨rfl, rfl⟩
  | unresolved => exact .inl ⟨rfl, rfl⟩
  | carriedOut _ carries => exact carries.failure

theorem resolves (makes : change.Makes now limit captured phases result) :
    ∀ x ∈ phases.resolutions, ∃ reference answer, x = .resolve reference answer := by
  cases makes with
  | unplanned => exact List.forall_mem_nil _
  | unresolved resolves => exact resolves.asks
  | carriedOut resolves => exact resolves.asks

theorem inspects (makes : change.Makes now limit captured phases result) :
    ∀ x ∈ phases.inspections, ∃ name answer, x = .inspect name answer := by
  cases makes with
  | unplanned => exact List.forall_mem_nil _
  | unresolved => exact List.forall_mem_nil _
  | carriedOut _ carries =>
    obtain ⟨_, reads⟩ := carries.reads
    exact reads.inspects

/-- What comes before the removals changes no container. -/
theorem asks (makes : change.Makes now limit captured phases result) :
    ∀ x ∈ phases.resolutions ++ phases.inspections, x.changes = false ∧ x.isBuild = false := by
  intro x member
  rcases List.mem_append.mp member with resolution | inspection
  · obtain ⟨_, _, rfl⟩ := makes.resolves x resolution
    exact ⟨rfl, rfl⟩
  · obtain ⟨_, _, rfl⟩ := makes.inspects x inspection
    exact ⟨rfl, rfl⟩

theorem noBuilds (makes : change.Makes now limit captured phases result) :
    ∀ x ∈ phases.all, x.isBuild = false := by
  intro x member
  rw [Phases.all, ← List.append_assoc] at member
  rcases List.mem_append.mp member with asked | changed
  · exact (makes.asks x asked).2
  · rcases List.mem_append.mp changed with removal | start
    · obtain ⟨_, _, rfl⟩ := makes.inOrder.removals x removal
      rfl
    · obtain ⟨_, _, _, rfl⟩ := makes.inOrder.starts x start
      rfl

/-- Only starts start containers. -/
theorem started? (makes : change.Makes now limit captured phases result) :
    phases.all.filterMap Exchange.started? = phases.starts.filterMap Exchange.started? := by
  have resolutions : phases.resolutions.filterMap Exchange.started? = [] := by
    apply List.filterMap_eq_nil_iff.mpr
    intro x member
    obtain ⟨_, _, rfl⟩ := makes.resolves x member
    rfl
  have inspections : phases.inspections.filterMap Exchange.started? = [] := by
    apply List.filterMap_eq_nil_iff.mpr
    intro x member
    obtain ⟨_, _, rfl⟩ := makes.inspects x member
    rfl
  have removals : phases.removals.filterMap Exchange.started? = [] := by
    apply List.filterMap_eq_nil_iff.mpr
    intro x member
    obtain ⟨_, _, rfl⟩ := makes.inOrder.removals x member
    rfl
  simp only [Phases.all, List.filterMap_append, resolutions, inspections, removals, List.nil_append]

end Makes

end Change

/-! ### Main result -/

/-- What is to be said of a change that began in a watched world `s` and came
to `outcome`: the exchanges of its phases are its own, and they are made in
order. -/
structure Change.GoesInPhases {W α : Type} (change : Change) (setup : Setup (Watched W))
    (view : W → α) (s : Watched W) (outcome : Except Error Answer × Watched W)
    (captured : Except Error (List CreateRequest)) (phases : Phases) : Prop where
  /-- The change itself makes the calls of its phases and no others. -/
  own : outcome.2.own = s.own ++ phases.all
  /-- What was captured and what the engine answers decide the calls and the
  result. -/
  makes : change.Makes setup.now setup.historyLimit captured phases outcome.1
  inOrder : phases.InOrder change (captured.toOption.getD [])
  /-- Each call is made after the success of all before it. -/
  orderly : Orderly phases.all outcome.1.isOk
  /-- A failure is that of the last removal, after which nothing is started,
  or that of the last start; any other comes before all removals and starts
  and leaves the containers as they were. -/
  failure : ∀ e, outcome.1 = .error e →
    (phases.removals = [] ∧ phases.starts = [] ∧ view outcome.2.world = view s.world) ∨
      (phases.starts = [] ∧ ∃ name, phases.removals.getLast? = some (.remove name (.error e))) ∨
      ∃ name configuration,
        phases.starts.getLast? = some (.start name configuration (.error e))

/-- Builds are not an action's own, so the capturing server stays aside,
whatever the compose tool sends to it. -/
theorem Planner.ofServer_staysAside {W α : Type} {engine : Engine W} {view : W → α}
    (harmless : engine.AskingIsHarmless view) {place : Planner.Place (Watched W)}
    (sets : ∀ server s, view (place.set server s).world = view s.world ∧
      (place.set server s).own = s.own) (connects : Bool)
    (bindFailure : String → Option String) (binary : String)
    (launch : Invocation → Except String Script) :
    (Planner.ofServer place connects bindFailure binary launch engine.watched).Keeps
      fun s => (view s.world, s.own) := by
  refine Planner.ofServer_keeps (fun server s => Prod.ext (sets server s).1 (sets server s).2) ?_ ..
  intro options context s
  rcases run : (engine.watched.build options context).on s with ⟨result, after⟩
  have made : Exchange.Made engine.watched s after (.build options context result) := run
  refine Prod.ext (harmless.watched made rfl) ?_
  simp only [Watched.own, made.watched.2, List.filter_append]
  exact List.append_nil _

/-- A change makes its calls phase by phase, each after the success of all
before it. Unless the failure is that of a removal or of a start, a failing
change removes and starts nothing and leaves the containers as they were. -/
theorem Setup.change_goesInPhases {W α : Type} (setup : Setup (Watched W)) {engine : Engine W}
    {view : W → α} (harmless : engine.AskingIsHarmless view)
    (aside : (setup.planner engine.watched).Keeps fun s => (view s.world, s.own))
    (change : Change) (s : Watched W) :
    ∃ captured between phases,
      ((setup.planner engine.watched).collect change.flags change.skipBuilds).on s =
          (captured, between) ∧
        change.GoesInPhases setup view s ((setup.perform change.action engine.watched).on s)
          captured phases := by
  rcases run : (setup.perform change.action engine.watched).on s with ⟨result, after⟩
  obtain ⟨captured, between, phases, planned, calls, makes⟩ := setup.change_cases run
  have kept := aside.collect change.flags change.skipBuilds s
  rw [planned, Prod.mk.injEq] at kept
  obtain ⟨sameView, sameOwn⟩ := kept
  refine ⟨captured, between, phases, planned, ?_, makes, makes.inOrder, makes.orderly, ?_⟩
  · rw [← sameOwn]
    exact calls.own makes.noBuilds
  · intro e failed
    cases failed
    rcases makes.failure with ⟨noRemovals, noStarts⟩ | later
    · have asked : ∀ x ∈ phases.all, x.changes = false := by
        simp only [Phases.all, noRemovals, noStarts, List.append_nil]
        intro x member
        exact (makes.asks x member).1
      exact .inl ⟨noRemovals, noStarts, (harmless.watched.calls calls asked).trans sameView⟩
    · exact .inr later

/-! ### A bench -/

/-- A model with a capturing server beside it. -/
abbrev Bench := ModelEngine × Capture.Server

namespace Bench

/-- Where the server of a watched bench stands. -/
def serverPlace : Planner.Place (Watched Bench) where
  get s := s.world.2
  set server s := ⟨(s.world.1, server), s.log⟩

/-- The engine of a bench. -/
def engine : Engine Bench :=
  ModelEngine.engine "bench" .beside

/-- Plans by what a compose tool sends to the server. -/
def setup (script : Script) : Setup (Watched Bench) where
  planner := Planner.ofServer serverPlace true (fun _ => none) "compose" fun _ => .ok script
  historyLimit := some 2
  now := "2024-02-03T04:05:06Z"

/-- A bench whose only container cannot be removed. -/
def stuck : Bench where
  fst := {
    name := "bench"
    version := "24.0.7"
    images := .ofList [("nginx", "sha256:1")]
    containers := .ofList [("shop_web_1", none)]
    faults := { Faults.none with remove := .ofList [("shop_web_1", "device busy")] } }
  snd := .atAddress "localhost:23750"

/-- Creates one container. -/
def oneContainer : Script :=
  .ofRequests [.of "POST" "/v1.18/containers/create?name=shop_web_1"
    (.bytes "\x7b\"Image\":\"nginx\"\x7d".toUTF8)] 0

theorem askingIsHarmless : engine.AskingIsHarmless ModelEngine.Place.beside.containers :=
  (ModelEngine.isMap ModelEngine.Place.beside_isLawful "bench").askingIsHarmless

theorem staysAside (script : Script) :
    ((setup script).planner engine.watched).Keeps
      fun s => (ModelEngine.Place.beside.containers s.world, s.own) := by
  have sets : ∀ server s, ModelEngine.Place.beside.containers (serverPlace.set server s).world =
      ModelEngine.Place.beside.containers s.world ∧ (serverPlace.set server s).own = s.own :=
    fun _ _ => ⟨rfl, rfl⟩
  exact Planner.ofServer_staysAside askingIsHarmless sets true (fun _ => none) "compose"
    fun _ => .ok script

end Bench

theorem Setup.change_goesInPhases_bench :
    ∃ captured between phases,
      (((Bench.setup Bench.oneContainer).planner Bench.engine.watched).collect ⟨none, none⟩
          false).on ⟨Bench.stuck, []⟩ = (captured, between) ∧
        (Change.deploy ⟨⟨none, none⟩, "", false⟩).GoesInPhases (Bench.setup Bench.oneContainer)
          ModelEngine.Place.beside.containers ⟨Bench.stuck, []⟩
          (((Bench.setup Bench.oneContainer).perform (.deploy ⟨⟨none, none⟩, "", false⟩)
            Bench.engine.watched).on ⟨Bench.stuck, []⟩)
          captured phases :=
  Setup.change_goesInPhases (Bench.setup Bench.oneContainer) Bench.askingIsHarmless
    (Bench.staysAside Bench.oneContainer) (.deploy ⟨⟨none, none⟩, "", false⟩) ⟨Bench.stuck, []⟩

end ComposeDeploy
