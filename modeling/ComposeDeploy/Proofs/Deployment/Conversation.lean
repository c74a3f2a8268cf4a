import ComposeDeploy.Deployment.Actions
import ComposeDeploy.Proofs.Engine.Exchange
import ComposeDeploy.Proofs.History.Retention

/-!
What the steps of a deployment say to the engine.

Each step of an action has a relation between what it is given, the exchanges
that it makes and its result: `Pins`, `Reads`, `Removes`, `Starts`. A deployment
and a rollback are the same conversation with another intent (`CarriesOut`);
`Setup.change_cases` says that there is no other way for them to go.
-/

namespace ComposeDeploy

/-! ### Changes -/

/-- An action that replaces the running application. -/
inductive Change where
  | deploy (options : Rollout)
  | rollback (options : Restoration)
  deriving DecidableEq, Repr

namespace Change

def action : Change → Action
  | .deploy options => .deploy options
  | .rollback options => .rollback options

def flags : Change → UpFlags
  | .deploy options => options.flags
  | .rollback options => options.flags

def skipBuilds : Change → Bool
  | .deploy options => options.skipBuilds
  | .rollback options => options.skipBuilds

end Change

/-- What a change does once the history is known. -/
structure Turn where
  /-- The containers that it removes. -/
  old : List String
  /-- The deployment that it makes. -/
  manifest : Manifest
  answer : Answer

/-- What a change is up to once its images are known. -/
structure Intent where
  /-- The containers that may carry the history. -/
  names : List String
  turn : History → Except Error Turn

namespace Intent

/-- Deploying services. -/
def toDeploy (now : String) (options : Rollout) (services : List Service) : Intent where
  names := services.map Service.name
  turn history := .ok {
    old := Setup.stale (services.map Service.name) history
    manifest := ⟨services, now, options.message⟩
    answer := .plain
      ("Successfully deployed " ++ toString services.length ++ " container(s)") }

/-- Restoring an earlier deployment. -/
def toRestore (now : String) (options : Restoration) (requests : List CreateRequest) : Intent where
  names := requests.map CreateRequest.name
  turn history := (history.restoration options.index).map fun (index, target) => {
    old := history.activeNames
    manifest := target.remadeAt now
    answer := .plain
      ("Successfully rolled back to deployment: " ++ toString (index + 1)) }

end Intent

/-- The configuration that a request describes and the image that it asks
for. -/
def CreateRequest.wanted (request : CreateRequest) : Except Error (Configuration × String) :=
  match request.configuration with
  | .error e => .error e
  | .ok configuration =>
    match configuration.image?.filter fun image => Text.trim image ≠ "" with
    | none => .error (.imageResolution "" (request.name ++ " does not specify an image"))
    | some reference => .ok (configuration, reference)

/-- The service of a request whose image has been found. -/
def CreateRequest.served (request : CreateRequest) (configuration : Configuration)
    (reference id : String) : Service where
  name := request.name
  templateImage := some reference
  configuration := configuration.pinnedTo id

/-! ### What the steps say -/

/-- Pinning requests: images are resolved in order up to the first request
that is refused or image that is not found. -/
inductive Pins : List CreateRequest → List Exchange → Except Error (List Service) → Prop where
  | nil : Pins [] [] (.ok [])
  | refused {request : CreateRequest} {rest : List CreateRequest} {e : Error} :
    request.wanted = .error e → Pins (request :: rest) [] (.error e)
  | unresolved {request : CreateRequest} {rest : List CreateRequest} {e : Error}
      {configuration : Configuration} {reference : String} :
    request.wanted = .ok (configuration, reference) →
      Pins (request :: rest) [.resolve reference (.error e)] (.error e)
  | more {request : CreateRequest} {rest : List CreateRequest} {configuration : Configuration}
      {reference id : String} {xs : List Exchange} {result : Except Error (List Service)} :
    request.wanted = .ok (configuration, reference) → Pins rest xs result →
      Pins (request :: rest) (.resolve reference (.ok id) :: xs)
        (result.map (request.served configuration reference id :: ·))

/-- Reading the history: containers are inspected in order up to the first
that exists. -/
inductive Reads : List String → List Exchange → Except Error History → Prop where
  | nil : Reads [] [] (.ok .empty)
  | failed {name : String} {rest : List String} {e : Error} :
    Reads (name :: rest) [.inspect name (.error e)] (.error e)
  | found {name : String} {rest : List String} {inspection : Inspection} :
    Reads (name :: rest) [.inspect name (.ok (some inspection))]
      (History.ofLabelText inspection.historyText?)
  | absent {name : String} {rest : List String} {xs : List Exchange}
      {result : Except Error History} :
    Reads rest xs result → Reads (name :: rest) (.inspect name (.ok none) :: xs) result

/-- Removing containers in order up to the first failure; one that is not
there is none. The result counts those that were there. -/
inductive Removes : List String → List Exchange → Except Error Nat → Prop where
  | nil : Removes [] [] (.ok 0)
  | failed {name : String} {rest : List String} {e : Error} :
    (∀ missing, e ≠ .containerNotFound missing) →
      Removes (name :: rest) [.remove name (.error e)] (.error e)
  | present {name : String} {rest : List String} {xs : List Exchange}
      {result : Except Error Nat} :
    Removes rest xs result →
      Removes (name :: rest) (.remove name (.ok ()) :: xs) (result.map (1 + ·))
  | missing {name other : String} {rest : List String} {xs : List Exchange}
      {result : Except Error Nat} :
    Removes rest xs result →
      Removes (name :: rest) (.remove name (.error (.containerNotFound other)) :: xs)
        (result.map (0 + ·))

/-- Starting services in order up to the first failure. -/
inductive Starts (label : String) : List Service → List Exchange → Except Error Unit → Prop where
  | nil : Starts label [] [] (.ok ())
  | failed {service : Service} {rest : List Service} {e : Error} :
    Starts label (service :: rest) [.start service.name (service.labeled label) (.error e)]
      (.error e)
  | more {service : Service} {rest : List Service} {xs : List Exchange}
      {result : Except Error Unit} :
    Starts label rest xs result →
      Starts label (service :: rest)
        (.start service.name (service.labeled label) (.ok ()) :: xs) result

/-- Starting the active deployment of a history. -/
inductive BringsUp (history : History) : List Exchange → Except Error Unit → Prop where
  | idle : history.active? = none → BringsUp history [] (.ok ())
  | starting {active : Manifest} {xs : List Exchange} {result : Except Error Unit} :
    history.active? = some active → Starts history.labelText active.services xs result →
      BringsUp history xs result

/-- Carrying out an intent: the inspections, the removals and the starts that
it makes, and its result. -/
inductive CarriesOut (limit : Option Nat) (intent : Intent) :
    List Exchange → List Exchange → List Exchange → Except Error Answer → Prop where
  | unread {inspections : List Exchange} {e : Error} :
    Reads intent.names inspections (.error e) →
      CarriesOut limit intent inspections [] [] (.error e)
  | refused {inspections : List Exchange} {history : History} {e : Error} :
    Reads intent.names inspections (.ok history) → intent.turn history = .error e →
      CarriesOut limit intent inspections [] [] (.error e)
  | unremoved {inspections removals : List Exchange} {history : History} {turn : Turn}
      {e : Error} :
    Reads intent.names inspections (.ok history) → intent.turn history = .ok turn →
      Removes turn.old removals (.error e) →
      CarriesOut limit intent inspections removals [] (.error e)
  | turned {inspections removals starts : List Exchange} {history : History} {turn : Turn}
      {count : Nat} {result : Except Error Unit} :
    Reads intent.names inspections (.ok history) → intent.turn history = .ok turn →
      Removes turn.old removals (.ok count) →
      BringsUp (history.push turn.manifest limit) starts result →
      CarriesOut limit intent inspections removals starts (result.map fun _ => turn.answer)

/-- How a change gets from captured requests to its intent. Only a deployment
resolves images. -/
inductive Change.Resolves (now : String) (requests : List CreateRequest) :
    Change → List Exchange → Except Error Intent → Prop where
  | deploy {options : Rollout} {xs : List Exchange} {services : Except Error (List Service)} :
    Pins requests xs services →
      Resolves now requests (.deploy options) xs (services.map (Intent.toDeploy now options))
  | rollback {options : Restoration} :
    Resolves now requests (.rollback options) [] (.ok (Intent.toRestore now options requests))

/-- The exchanges that a change makes itself, phase by phase. -/
structure Phases where
  resolutions : List Exchange
  inspections : List Exchange
  removals : List Exchange
  starts : List Exchange

/-- The phases one after the other. -/
def Phases.all (phases : Phases) : List Exchange :=
  phases.resolutions ++ (phases.inspections ++ (phases.removals ++ phases.starts))

/-- What a change does with what was captured. -/
inductive Change.Makes (change : Change) (now : String) (limit : Option Nat) :
    Except Error (List CreateRequest) → Phases → Except Error Answer → Prop where
  | unplanned {e : Error} : Makes change now limit (.error e) ⟨[], [], [], []⟩ (.error e)
  | unresolved {requests : List CreateRequest} {resolutions : List Exchange} {e : Error} :
    change.Resolves now requests resolutions (.error e) →
      Makes change now limit (.ok requests) ⟨resolutions, [], [], []⟩ (.error e)
  | carriedOut {requests : List CreateRequest} {resolutions : List Exchange} {intent : Intent}
      {inspections removals starts : List Exchange} {result : Except Error Answer} :
    change.Resolves now requests resolutions (.ok intent) →
      CarriesOut limit intent inspections removals starts result →
      Makes change now limit (.ok requests) ⟨resolutions, inspections, removals, starts⟩ result

/-! ### Nothing else is said -/

section Cases

variable {W : Type} {engine : Engine W} {w after : W}

/-- Pinning a request asks for the wanted image. -/
theorem Engine.pin_eq (engine : Engine W) (request : CreateRequest) :
    engine.pin request = (do
      let (configuration, reference) ← Act.settle request.wanted
      let id ← engine.identify reference
      return request.served configuration reference id) := by
  unfold pin CreateRequest.wanted
  cases request.configuration with
  | error e => rfl
  | ok configuration =>
    simp only [Act.settle_ok_bind]
    cases configuration.image?.filter fun image => Text.trim image ≠ "" with
    | none => rfl
    | some reference => rfl

theorem Engine.pin_cases {request : CreateRequest} {result : Except Error Service}
    (run : (engine.pin request).on w = (result, after)) :
    (∃ e, request.wanted = .error e ∧ result = .error e ∧ after = w) ∨
      ∃ configuration reference answer, request.wanted = .ok (configuration, reference) ∧
        (engine.identify reference).on w = (answer, after) ∧
        result = answer.map (request.served configuration reference) := by
  rw [pin_eq] at run
  cases wanted : request.wanted with
  | error e =>
    rw [wanted] at run
    cases run
    exact .inl ⟨e, rfl, rfl, rfl⟩
  | ok wish =>
    obtain ⟨configuration, reference⟩ := wish
    rw [wanted, Act.settle_ok_bind] at run
    refine .inr ⟨configuration, reference, ?_⟩
    rcases Act.bind_cases run with ⟨e, answer, rfl⟩ | ⟨id, between, answer, rest⟩
    · exact ⟨.error e, rfl, answer, rfl⟩
    · cases rest
      exact ⟨.ok id, rfl, answer, rfl⟩

theorem Engine.pinAll_cases {requests : List CreateRequest} {result : Except Error (List Service)}
    (run : (engine.pinAll requests).on w = (result, after)) :
    ∃ xs, engine.Calls w xs after ∧ Pins requests xs result := by
  induction requests generalizing w result with
  | nil =>
    cases run
    exact ⟨[], .nil, .nil⟩
  | cons request rest ih =>
    rcases Act.bind_cases run with ⟨e, pinned, rfl⟩ | ⟨service, between, pinned, others⟩
    · rcases pin_cases pinned with
        ⟨e', refused, failed, rfl⟩ | ⟨_, reference, answer, wanted, call, failed⟩
      · cases failed
        exact ⟨[], .nil, .refused refused⟩
      · cases answer with
        | ok id => cases failed
        | error e' =>
          cases failed
          exact ⟨_, .single (x := .resolve reference (.error e)) call, .unresolved wanted⟩
    · rcases pin_cases pinned with ⟨_, _, failed, _⟩ | ⟨_, reference, answer, wanted, call, made⟩
      · cases failed
      · cases answer with
        | error e => cases made
        | ok id =>
          cases made
          have first : Exchange.Made engine w between (.resolve reference (.ok id)) := call
          rcases Act.bind_cases others with ⟨e, failed, rfl⟩ | ⟨services, _, done, last⟩
          · obtain ⟨xs, calls, pins⟩ := ih failed
            exact ⟨_, .cons first calls, .more wanted pins⟩
          · cases last
            obtain ⟨xs, calls, pins⟩ := ih done
            exact ⟨_, .cons first calls, .more wanted pins⟩

/-- What is asked and answered while pinning decides its result. -/
theorem Pins.on {requests : List CreateRequest} {xs : List Exchange}
    {result : Except Error (List Service)} (pins : Pins requests xs result)
    (calls : engine.Calls w xs after) : (engine.pinAll requests).on w = (result, after) := by
  induction pins generalizing w with
  | nil =>
    cases calls
    rfl
  | refused refused =>
    cases calls
    rw [Engine.pinAll, Act.on_bind, Engine.pin_eq, refused]
    rfl
  | unresolved wanted =>
    cases calls with
    | cons made rest =>
      cases rest
      have failed : (engine.identify _).on w = _ := made
      rw [Engine.pinAll, Act.on_bind, Engine.pin_eq, wanted, Act.settle_ok_bind, Act.on_bind,
        failed]
  | @more _ _ _ _ _ _ result wanted _ ih =>
    cases calls with
    | cons made rest =>
      have found : (engine.identify _).on w = _ := made
      rw [Engine.pinAll, Act.on_bind, Engine.pin_eq, wanted, Act.settle_ok_bind, Act.on_bind, found]
      simp only [Act.on_pure, Act.on_bind, ih rest]
      cases result <;> rfl

theorem Engine.carriedHistory_cases {names : List String} {result : Except Error History}
    (run : (engine.carriedHistory names).on w = (result, after)) :
    ∃ xs, engine.Calls w xs after ∧ Reads names xs result := by
  induction names generalizing w result with
  | nil =>
    cases run
    exact ⟨[], .nil, .nil⟩
  | cons name rest ih =>
    rcases Act.bind_cases run with ⟨e, failed, rfl⟩ | ⟨found, between, answer, next⟩
    · exact ⟨_, .single (x := .inspect name (.error e)) failed, .failed⟩
    · cases found with
      | none =>
        obtain ⟨xs, calls, reads⟩ := ih next
        exact ⟨_, .cons (x := .inspect name (.ok none)) answer calls, .absent reads⟩
      | some inspection =>
        cases next
        exact ⟨_, .single (x := .inspect name (.ok (some inspection))) answer, .found⟩

theorem Engine.discard_cases {name : String} {result : Except Error Bool}
    (run : (engine.discard name).on w = (result, after)) :
    ((engine.remove name).on w = (.ok (), after) ∧ result = .ok true) ∨
      (∃ other, (engine.remove name).on w = (.error (.containerNotFound other), after) ∧
        result = .ok false) ∨
      ∃ e, (engine.remove name).on w = (.error e, after) ∧
        (∀ missing, e ≠ .containerNotFound missing) ∧ result = .error e := by
  unfold discard at run
  rw [Act.on_bind, Act.on_observe] at run
  rcases call : (engine.remove name).on w with ⟨answer, between⟩
  rw [call] at run
  rcases answer with e | ⟨⟩
  · by_cases missing : ∃ other, e = .containerNotFound other
    · obtain ⟨other, rfl⟩ := missing
      cases run
      exact .inr (.inl ⟨other, rfl, rfl⟩)
    · have other : ∀ missing, e ≠ .containerNotFound missing :=
        fun name same => missing ⟨name, same⟩
      cases e with
      | containerNotFound name => exact absurd rfl (other name)
      | _ =>
        cases run
        exact .inr (.inr ⟨_, rfl, other, rfl⟩)
  · cases run
    exact .inl ⟨rfl, rfl⟩

theorem Engine.removeAll_cases {names : List String} {result : Except Error Nat}
    (run : (engine.removeAll names).on w = (result, after)) :
    ∃ xs, engine.Calls w xs after ∧ Removes names xs result := by
  induction names generalizing w result with
  | nil =>
    cases run
    exact ⟨[], .nil, .nil⟩
  | cons name rest ih =>
    rcases Act.bind_cases run with ⟨e, failed, rfl⟩ | ⟨present, between, discarded, others⟩
    · rcases discard_cases failed with ⟨_, same⟩ | ⟨_, _, same⟩ | ⟨_, call, other, same⟩
      · cases same
      · cases same
      · cases same
        exact ⟨_, .single (x := .remove name (.error e)) call, .failed other⟩
    · -- The count is added to that of the others, whether they all go or not.
      have counted : ∃ counts, (engine.removeAll rest).on between = (counts, after) ∧
          result = counts.map fun count => (if present then 1 else 0) + count := by
        rcases Act.bind_cases others with ⟨e, failed, rfl⟩ | ⟨count, _, done, last⟩
        · exact ⟨_, failed, rfl⟩
        · cases last
          exact ⟨_, done, rfl⟩
      obtain ⟨counts, removed, rfl⟩ := counted
      obtain ⟨xs, calls, removes⟩ := ih removed
      rcases discard_cases discarded with ⟨call, same⟩ | ⟨other, call, same⟩ | ⟨_, _, _, same⟩
      · cases same
        exact ⟨_, .cons (x := .remove name (.ok ())) call calls, .present removes⟩
      · cases same
        exact ⟨_, .cons (x := .remove name (.error (.containerNotFound other))) call calls,
          .missing removes⟩
      · cases same

theorem Engine.startAll_cases {label : String} {services : List Service}
    {result : Except Error Unit}
    (run : (engine.startAll label services).on w = (result, after)) :
    ∃ xs, engine.Calls w xs after ∧ Starts label services xs result := by
  induction services generalizing w result with
  | nil =>
    cases run
    exact ⟨[], .nil, .nil⟩
  | cons service rest ih =>
    rcases Act.bind_cases run with ⟨e, failed, rfl⟩ | ⟨⟨⟩, between, started, others⟩
    · exact ⟨_, .single (x := .start service.name (service.labeled label) (.error e)) failed,
        .failed⟩
    · obtain ⟨xs, calls, starts⟩ := ih others
      exact ⟨_, .cons (x := .start service.name (service.labeled label) (.ok ())) started calls,
        .more starts⟩

theorem Engine.bringUp_cases {history : History} {result : Except Error Unit}
    (run : (engine.bringUp history).on w = (result, after)) :
    ∃ xs, engine.Calls w xs after ∧ BringsUp history xs result := by
  unfold bringUp at run
  cases active : history.active? with
  | none =>
    simp only [active] at run
    cases run
    exact ⟨[], .nil, .idle active⟩
  | some manifest =>
    simp only [active] at run
    obtain ⟨xs, calls, starts⟩ := startAll_cases run
    exact ⟨xs, calls, .starting active starts⟩

/-- Carries out an intent. -/
def Engine.carryOut (engine : Engine W) (limit : Option Nat) (intent : Intent) :
    Act W Answer := do
  let history ← engine.carriedHistory intent.names
  let turn ← Act.settle (intent.turn history)
  let _ ← engine.removeAll turn.old
  engine.bringUp (history.push turn.manifest limit)
  return turn.answer

theorem Engine.carryOut_cases {limit : Option Nat} {intent : Intent}
    {result : Except Error Answer}
    (run : (engine.carryOut limit intent).on w = (result, after)) :
    ∃ inspections removals starts,
      engine.Calls w (inspections ++ (removals ++ starts)) after ∧
        CarriesOut limit intent inspections removals starts result := by
  rcases Act.bind_cases run with ⟨e, unread, rfl⟩ | ⟨history, read, answer, rest⟩
  · obtain ⟨ys, asked, reads⟩ := carriedHistory_cases unread
    exact ⟨ys, [], [], by simpa using asked, .unread reads⟩
  obtain ⟨ys, asked, reads⟩ := carriedHistory_cases answer
  rcases Act.bind_cases rest with ⟨e, refused, rfl⟩ | ⟨turn, _, settled, rest⟩
  · simp only [Act.on_settle, Prod.mk.injEq] at refused
    obtain ⟨unfit, rfl⟩ := refused
    exact ⟨ys, [], [], by simpa using asked, .refused reads unfit⟩
  simp only [Act.on_settle, Prod.mk.injEq] at settled
  obtain ⟨chosen, rfl⟩ := settled
  rcases Act.bind_cases rest with ⟨e, unremoved, rfl⟩ | ⟨count, _, removed, rest⟩
  · obtain ⟨zs, cleared, removes⟩ := removeAll_cases unremoved
    exact ⟨ys, zs, [], by simpa using asked.append cleared, .unremoved reads chosen removes⟩
  obtain ⟨zs, cleared, removes⟩ := removeAll_cases removed
  rcases Act.bind_cases rest with ⟨e, failed, rfl⟩ | ⟨⟨⟩, _, started, last⟩
  · obtain ⟨ts, up, brings⟩ := bringUp_cases failed
    exact ⟨ys, zs, ts, asked.append (cleared.append up), .turned reads chosen removes brings⟩
  · cases last
    obtain ⟨ts, up, brings⟩ := bringUp_cases started
    exact ⟨ys, zs, ts, asked.append (cleared.append up), .turned reads chosen removes brings⟩

end Cases

namespace Setup

variable {W : Type} (setup : Setup W)

/-- A deployment pins what was captured and carries out its intent. -/
theorem deploy_eq (options : Rollout) (engine : Engine W) :
    setup.deploy options engine = (do
      let requests ← (setup.planner engine).collect options.flags options.skipBuilds
      let services ← engine.pinAll requests
      engine.carryOut setup.historyLimit (Intent.toDeploy setup.now options services)) :=
  rfl

/-- A rollback carries out its intent right after planning. -/
theorem rollback_eq (options : Restoration) (engine : Engine W) :
    setup.rollback options engine = (do
      let requests ← (setup.planner engine).collect options.flags options.skipBuilds
      engine.carryOut setup.historyLimit (Intent.toRestore setup.now options requests)) := by
  unfold rollback
  refine congrArg _ (funext fun requests => congrArg _ (funext fun history => ?_))
  unfold Intent.toRestore History.restoration
  by_cases short : history.length < 2
  · simp only [short, if_true]
    rfl
  · simp only [short, if_false]
    cases history.rollbackPosition options.index with
    | error e => rfl
    | ok index =>
      cases found : history.get? index with
      | none => simp only [found, Act.settle_ok_bind, Except.map, Act.settle_error_bind]
      | some target =>
        simp only [found, Act.settle_ok_bind, Except.map]
        rfl

/-- A change plans and then makes the exchanges of its phases. -/
theorem change_cases {engine : Engine W} {w after : W} {change : Change}
    {result : Except Error Answer}
    (run : (setup.perform change.action engine).on w = (result, after)) :
    ∃ captured between phases,
      ((setup.planner engine).collect change.flags change.skipBuilds).on w =
          (captured, between) ∧
        engine.Calls between phases.all after ∧
        change.Makes setup.now setup.historyLimit captured phases result := by
  cases change with
  | deploy options =>
    have run : (setup.deploy options engine).on w = (result, after) := run
    rw [deploy_eq] at run
    rcases Act.bind_cases run with ⟨e, failed, rfl⟩ | ⟨requests, between, captured, rest⟩
    · exact ⟨.error e, after, _, failed, .nil, .unplanned⟩
    refine ⟨.ok requests, between, ?_⟩
    rcases Act.bind_cases rest with ⟨e, unpinned, rfl⟩ | ⟨services, _, pinned, rest⟩
    · obtain ⟨xs, resolved, pins⟩ := Engine.pinAll_cases unpinned
      exact ⟨⟨xs, [], [], []⟩, captured, by simpa [Phases.all] using resolved,
        .unresolved (.deploy pins)⟩
    · obtain ⟨xs, resolved, pins⟩ := Engine.pinAll_cases pinned
      obtain ⟨ys, zs, ts, carried, carries⟩ := Engine.carryOut_cases rest
      exact ⟨⟨xs, ys, zs, ts⟩, captured, resolved.append carried,
        .carriedOut (.deploy pins) carries⟩
  | rollback options =>
    have run : (setup.rollback options engine).on w = (result, after) := run
    rw [rollback_eq] at run
    rcases Act.bind_cases run with ⟨e, failed, rfl⟩ | ⟨requests, between, captured, rest⟩
    · exact ⟨.error e, after, _, failed, .nil, .unplanned⟩
    · obtain ⟨ys, zs, ts, carried, carries⟩ := Engine.carryOut_cases rest
      exact ⟨.ok requests, between, ⟨[], ys, zs, ts⟩, captured, carried,
        .carriedOut .rollback carries⟩

end Setup

end ComposeDeploy
