import ComposeDeploy.Proofs.Deployment.Replay
import ComposeDeploy.Proofs.Settings

/-!
Settings that are accepted keep what is deployed.

Where nothing may be remembered, a change would find no deployment to start after
it has removed the old one, and would report success all the same. A limit that is
accepted is never 0 (`GivesLimit.ne_zero`), so the entry that a change appends is
the last of the history that it leaves, and a change that reports success has
started all services of that entry (`Setup.change_isCompleted`).
-/

namespace ComposeDeploy

/-! ### Changes that report success -/

/-- The entry that a change appends to a history: for a deployment the captured
services with their images, for a rollback the entry that was asked for. -/
inductive Change.Appends (now : String) (requests : List CreateRequest)
    (resolutions : List Exchange) (history : History) : Change → Manifest → Prop where
  | deploy {options : Rollout} {services : List Service} :
    Pins requests resolutions (.ok services) →
      Appends now requests resolutions history (.deploy options) ⟨services, now, options.message⟩
  | rollback {options : Restoration} {index : Nat} {target : Manifest} :
    history.rollbackPosition options.index = .ok index → history.get? index = some target →
      Appends now requests resolutions history (.rollback options) (target.remadeAt now)

/-- The change has read a history, appended an entry and started all services of the
entry, each with the history that ends in the entry. -/
structure Change.Completes (change : Change) (now : String) (limit : Option Nat)
    (requests : List CreateRequest) (phases : Phases) (history : History) (entry : Manifest) :
    Prop where
  read : Reads (requests.map CreateRequest.name) phases.inspections (.ok history)
  appended : change.Appends now requests phases.resolutions history entry
  last : (history.push entry limit).active? = some entry
  told : History.ofLabelText (some (history.push entry limit).labelText) =
    .ok (history.push entry limit)
  started : phases.starts = entry.services.map fun service =>
    .start service.name (service.labeled (history.push entry limit).labelText) (.ok ())

/-- What a change has done that led from one world to the other: it has planned, and
the calls that it made then complete it. -/
def Change.IsCompleted {W : Type} (change : Change) (setup : Setup W) (engine : Engine W)
    (w after : W) : Prop :=
  ∃ requests between phases history entry,
    ((setup.planner engine).collect change.flags change.skipBuilds).on w =
        (.ok requests, between) ∧
      engine.Calls between phases.all after ∧
      change.Completes setup.now setup.historyLimit requests phases history entry

/-- The entry that an intent makes is the one that its change appends. -/
theorem Change.Resolves.appends {now : String} {change : Change} {requests : List CreateRequest}
    {xs : List Exchange} {intent : Intent} {history : History} {turn : Turn}
    (resolves : change.Resolves now requests xs (.ok intent))
    (chosen : intent.turn history = .ok turn) :
    change.Appends now requests xs history turn.manifest := by
  cases change with
  | deploy options =>
    obtain ⟨services, pins, rfl⟩ := resolves.pinned
    cases chosen
    exact .deploy pins
  | rollback options =>
    obtain ⟨index, target, restored, made, _⟩ := resolves.restored chosen
    obtain ⟨position, found⟩ := History.restoration_cases restored
    rw [made]
    exact .rollback position found

/-- A change that reports success has started all services of the entry that it
appended, unless nothing may be remembered. -/
theorem Setup.change_isCompleted {W : Type} {setup : Setup W} (positive : setup.historyLimit ≠ some 0)
    {engine : Engine W} {change : Change} {w after : W} {answer : Answer}
    (run : (setup.perform change.action engine).on w = (.ok answer, after)) :
    change.IsCompleted setup engine w after := by
  obtain ⟨captured, between, phases, planned, calls, makes⟩ := setup.change_cases run
  cases makes with
  | carriedOut resolves carries =>
    obtain ⟨history, turn, reads, chosen, _, starts⟩ := carries.complete positive
    rw [resolves.complete.2] at reads
    exact ⟨_, between, _, history, turn.manifest, planned, calls, reads, resolves.appends chosen,
      History.active?_push positive history turn.manifest, History.ofLabelText_labelText _,
      starts.complete⟩

/-! ### Settings -/

/-- What is pushed onto a history is kept, within the limit. -/
structure History.KeepsPushed (limit : Option Nat) (history : History) (manifest : Manifest) :
    Prop where
  nonempty : (history.push manifest limit).entries ≠ []
  bounded : ∀ n, limit = some n → (history.push manifest limit).length ≤ n
  last : (history.push manifest limit).entries.getLast? = some manifest
  suffix : (history.push manifest limit).entries <:+ history.entries ++ [manifest]

theorem History.push_keeps {limit : Option Nat} (positive : limit ≠ some 0) (history : History)
    (manifest : Manifest) : history.KeepsPushed limit manifest where
  nonempty empty := by
    have active := active?_push positive history manifest
    rw [active?, empty] at active
    cases active
  bounded := by
    rintro n rfl
    rw [length_push_some]
    exact Nat.min_le_right _ _
  last := active?_push positive history manifest
  suffix := by
    rw [entries_push]
    exact newestOf_suffix limit _

/-- Under these settings no deployment is lost when it is made. -/
structure Settings.KeepDeployments (settings : Settings) : Prop where
  /-- At least a second, in seconds and in milliseconds. -/
  interval : 1 ≤ settings.createRetrySeconds ∧ 1000 ≤ settings.retryInterval
  limit : ∀ n, settings.historyLimit = some n → 1 ≤ n
  pushed : ∀ (history : History) (manifest : Manifest),
    history.KeepsPushed settings.historyLimit manifest
  /-- What reports success has started all services of the entry that it appended. -/
  completed : ∀ {W : Type} (setup : Setup W) (engine : Engine W) (change : Change) (w after : W)
    (answer : Answer), setup.historyLimit = settings.historyLimit →
      (setup.perform change.action engine).on w = (.ok answer, after) →
      change.IsCompleted setup engine w after

/-- Settings that are accepted keep what is deployed. An interval is refused that does
not count seconds from 1 on, and so is a limit that is not blank and does not count
deployments from 1 on, whatever the other variables say. -/
theorem Settings.accepted_keepDeployments (env : Environment) :
    (∀ settings, ofEnvironment env = .ok settings → settings.KeepDeployments) ∧
    (∀ text, env "ZODIAC_CREATE_RETRY_SECS" = some text → (∀ n, ¬ Counts text n) →
      ∃ e, ofEnvironment env = .error e) ∧
    ∀ text, env "ZODIAC_HISTORY_LIMIT" = some text → Text.trim text ≠ "" →
      (∀ n, ¬ Counts (Text.trim text) n) → ∃ e, ofEnvironment env = .error e := by
  refine ⟨fun settings accepted => ?_, fun text => refuses_interval, fun text => refuses_limit⟩
  have isFrom := ofEnvironment_eq_ok_iff.mp accepted
  have positive := isFrom.limit.ne_zero
  have seconds := isFrom.interval.positive
  constructor
  · exact ⟨seconds, by unfold retryInterval; omega⟩
  · rintro n limited
    exact Nat.pos_of_ne_zero fun zero => positive (limited.trans (congrArg some zero))
  · exact fun history manifest => history.push_keeps positive manifest
  · intro W setup engine change w after answer same run
    rw [← same] at positive
    exact Setup.change_isCompleted positive run

namespace Shop

/-- A limit with blanks around it, and this interval. -/
def environment (interval : String) : Environment := fun name =>
  Entries.find? name [("ZODIAC_HISTORY_LIMIT", " 2 "), ("ZODIAC_CREATE_RETRY_SECS", interval)]

theorem not_counts_zero (n : Nat) : ¬ Counts "0" n := by
  intro counts
  have read := (@Settings.number_eq_ok_iff .createRetrySeconds _ _ counts.positive).mpr counts
  have zero : Settings.number .createRetrySeconds "0" = .ok 0 := rfl
  cases zero.symm.trans read
  exact Nat.lt_irrefl 0 counts.positive

end Shop

theorem Settings.accepted_keepDeployments_shop :
    (∃ settings after, ofEnvironment (Shop.environment "3") = .ok settings ∧
      settings.historyLimit = some 2 ∧
      (Shop.twice.perform (some 2) Shop.engine.watched).on ⟨Shop.start, []⟩ =
        (.ok (.plain "Successfully deployed 3 container(s)"), after) ∧
      Shop.twice.change.IsCompleted (Shop.twice.setup (some 2)) Shop.engine.watched
        ⟨Shop.start, []⟩ after) ∧
      ∃ e, ofEnvironment (Shop.environment "0") = .error e := by
  have accepted : ofEnvironment (Shop.environment "3") =
      .ok ⟨"localhost:61908", "docker-compose", 3, some 2⟩ := by decide
  have succeeded : ((Shop.twice.perform (some 2) Shop.engine.watched).on ⟨Shop.start, []⟩).1 =
      .ok (.plain "Successfully deployed 3 container(s)") := by decide +kernel
  rcases run : (Shop.twice.perform (some 2) Shop.engine.watched).on ⟨Shop.start, []⟩
    with ⟨result, after⟩
  rw [run] at succeeded
  cases succeeded
  have keep := (accepted_keepDeployments (Shop.environment "3")).1 _ accepted
  have completed := keep.completed (Shop.twice.setup (some 2)) Shop.engine.watched
    Shop.twice.change _ _ _ rfl run
  refine ⟨⟨_, after, accepted, rfl, rfl, completed⟩, ?_⟩
  exact (accepted_keepDeployments (Shop.environment "0")).2.1 "0" rfl Shop.not_counts_zero

end ComposeDeploy
