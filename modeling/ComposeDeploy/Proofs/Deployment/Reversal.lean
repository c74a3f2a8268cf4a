import ComposeDeploy.Proofs.Deployment.Provenance
import ComposeDeploy.Proofs.Deployment.Redeploy

/-!
Two rollbacks that cancel out.

A rollback without an index restores the entry before the active one and appends
a copy of it, so what was active is then the entry before the active one. As
long as two entries are remembered, the next rollback finds it there
(`newestOf_pair`) and restores it: the containers are those of the beginning but
for the history that they carry (`Call.rollbacks_cancelOut`).
-/

namespace ComposeDeploy

/-! ### The two newest entries -/

/-- A limit that leaves room for two entries keeps the last two. -/
theorem newestOf_pair {α : Type} {limit : Option Nat}
    (roomy : ∀ bound, limit = some bound → 2 ≤ bound) (entries : List α) (a b : α) :
    ∃ kept, newestOf limit (entries ++ [a, b]) = kept ++ [a, b] := by
  cases limit with
  | none => exact ⟨entries, rfl⟩
  | some bound =>
    have two : 2 ≤ bound := roomy bound rfl
    have within : entries.length + 2 - bound ≤ entries.length := by omega
    refine ⟨entries.drop (entries.length + 2 - bound), ?_⟩
    simp only [newestOf, List.length_append, List.length_cons, List.length_nil]
    exact List.drop_append_of_le_length within

theorem Manifest.containerNames_remadeAt (manifest : Manifest) (now : String) :
    (manifest.remadeAt now).containerNames = manifest.containerNames := rfl

namespace History

variable {history : History} {earlier : List Manifest} {previous active : Manifest}

/-- A rollback without an index restores the entry before the active one. -/
theorem restoration_none (entries : history.entries = earlier ++ [previous, active]) :
    history.restoration none = .ok (earlier.length, previous) := by
  have length : history.length = earlier.length + 2 := by simp [History.length, entries]
  have enough : ¬ history.length < 2 := by omega
  have found : history.get? earlier.length = some previous := by simp [get?, entries]
  have position : history.rollbackPosition none = .ok earlier.length := by
    simp [rollbackPosition, length]
  simp only [restoration, if_neg enough, position, found]

theorem active?_of_entries (entries : history.entries = earlier ++ [previous, active]) :
    history.active? = some active := by
  simp [active?, entries]

theorem activeNames_of_entries (entries : history.entries = earlier ++ [previous, active]) :
    history.activeNames = active.containerNames := by
  rw [activeNames, active?_of_entries entries]
  rfl

theorem push_push (history : History) (first second : Manifest) (limit : Option Nat) :
    (history.push first limit).push second limit =
      ⟨newestOf limit (history.entries ++ [first, second])⟩ := by
  have entries : ((history.push first limit).push second limit).entries =
      newestOf limit (history.entries ++ [first, second]) := by
    rw [entries_push, entries_push, newestOf_append, List.append_assoc, List.singleton_append]
  exact congrArg mk entries

/-- What was active is the entry before the next one. -/
theorem entries_push_pair {limit : Option Nat} (roomy : ∀ bound, limit = some bound → 2 ≤ bound)
    (entries : history.entries = earlier ++ [previous, active]) (next : Manifest) :
    ∃ kept, (history.push next limit).entries = kept ++ [active, next] := by
  obtain ⟨kept, pair⟩ := newestOf_pair roomy (earlier ++ [previous]) active next
  refine ⟨kept, ?_⟩
  rw [entries_push, entries, ← pair]
  simp

end History

/-! ### One rollback without an index -/

/-- The call rolls back without saying how far. -/
def Call.IsDefaultRollback {W : Type} (call : Call W) : Prop :=
  ∃ options : Restoration, call.change = .rollback options ∧ options.index = none

theorem Containers.without_of_absent {c : Containers} {names : List String}
    (absent : ∀ name ∈ names, c name = none) : c.without names = c := by
  funext name
  unfold without
  split
  · next member => exact (absent name member).symm
  · rfl

section Rollbacks

variable {W : Type} {engine : Engine W} {containers : W → Containers} {foreign : Containers}
  {history : History} {w : W} {call : Call W} {requests : List CreateRequest} {between : W}
  {earlier : List Manifest} {previous active : Manifest}

/-- It makes the entry before the active one once more. -/
theorem Call.IsDefaultRollback.made (isDefault : call.IsDefaultRollback)
    (finds : call.Finds engine containers foreign history w requests between)
    (entries : history.entries = earlier ++ [previous, active]) :
    call.made engine history w = .ok (previous.remadeAt call.now) := by
  obtain ⟨options, change, unnamed⟩ := isDefault
  simp only [Call.made, finds.planned, change, unnamed, History.restoration_none entries]
  rfl

/-- If it succeeds, that entry has been brought up. -/
theorem Call.IsDefaultRollback.broughtUp (isDefault : call.IsDefaultRollback)
    (isMap : engine.IsMap containers) (running : containers w = foreign.broughtUp history)
    (finds : call.Finds engine containers foreign history w requests between)
    (entries : history.entries = earlier ++ [previous, active])
    (apart : ∀ name ∈ active.containerNames, foreign name = none) {limit : Option Nat}
    {answer : Answer} {after : W} (run : (call.perform limit engine).on w = (.ok answer, after)) :
    containers after = foreign.broughtUp (history.push (previous.remadeAt call.now) limit) := by
  rw [finds.replaced isMap running (isDefault.made finds entries) run,
    History.activeNames_of_entries entries, Containers.without_of_absent apart]

/-- Without faults, it succeeds. -/
theorem Call.IsDefaultRollback.succeeds (isDefault : call.IsDefaultRollback)
    (isMap : engine.IsMap containers) (faultless : engine.IsFaultless)
    (running : containers w = foreign.broughtUp history)
    (finds : call.Finds engine containers foreign history w requests between)
    (entries : history.entries = earlier ++ [previous, active]) {limit : Option Nat} {after : W}
    {result : Except Error Answer} (run : (call.perform limit engine).on w = (result, after)) :
    result.isOk := by
  obtain ⟨answer, _, succeeded, _⟩ :=
    finds.replaces isMap faultless limit running (isDefault.made finds entries)
  rw [run] at succeeded
  cases succeeded
  rfl

end Rollbacks

/-! ### Two of them -/

/-- The second containers are the first but for the history that those of these
names carry. -/
structure Containers.IsRelabeled (c d : Containers) (names : List String)
    (history : History) : Prop where
  others : ∀ name, name ∉ names → d name = c name
  relabeled : ∀ name ∈ names, ∃ configuration, c name = some configuration ∧
    d name = some (configuration.withLabel historyLabel history.labelText) ∧
    (configuration.withLabel historyLabel history.labelText).Carries history

/-- The same services, brought up with another history. -/
theorem Containers.isRelabeled_broughtUp (foreign : Containers) {history next : History}
    (same : next.activeServices = history.activeServices) :
    (foreign.broughtUp history).IsRelabeled (foreign.broughtUp next) history.activeNames
      next where
  others name inactive := by
    have absent : name ∉ next.activeNames := by
      rwa [← next.map_name_activeServices, same, history.map_name_activeServices]
    rw [broughtUp_of_notMem absent, broughtUp_of_notMem inactive]
  relabeled name member := by
    rw [← history.map_name_activeServices] at member
    obtain ⟨service, _, _, started⟩ := started_alike member
    refine ⟨service.labeled history.labelText, started _ _, ?_, ?_⟩
    · rw [broughtUp, same, service.labeled_withLabel]
      exact started _ _
    · rw [service.labeled_withLabel]
      exact service.carries_labeled next

/-- Two rollbacks in a row that say not how far succeed without faults, and if
they succeed, the containers are those of the beginning, each with its old
configuration but for the history, which has become longer by copies of its last
two entries. -/
theorem Call.rollbacks_cancelOut {W : Type} {engine : Engine W} {containers : W → Containers}
    (isMap : engine.IsMap containers) {limit : Option Nat}
    (roomy : ∀ bound, limit = some bound → 2 ≤ bound) {foreign : Containers} {history : History}
    {w : W} (running : containers w = foreign.broughtUp history) {earlier : List Manifest}
    {previous active : Manifest} (entries : history.entries = earlier ++ [previous, active])
    (apart : ∀ name ∈ previous.containerNames ++ active.containerNames, foreign name = none)
    {first second : Call W} (isDefault : first.IsDefaultRollback)
    (isDefault' : second.IsDefaultRollback) {requests requests' : List CreateRequest}
    {between between' middle after : W} {result result' : Except Error Answer}
    (finds : first.Finds engine containers foreign history w requests between)
    (run : (first.perform limit engine).on w = (result, middle))
    (finds' : second.Finds engine containers foreign
      (history.push (previous.remadeAt first.now) limit) middle requests' between')
    (run' : (second.perform limit engine).on middle = (result', after)) :
    (engine.IsFaultless → result.isOk ∧ result'.isOk) ∧
      (result.isOk → result'.isOk →
        (containers w).IsRelabeled (containers after) active.containerNames
          ⟨newestOf limit (history.entries ++
            [previous.remadeAt first.now, active.remadeAt second.now])⟩) := by
  have positive : limit ≠ some 0 := by
    intro zero
    have := roomy 0 zero
    omega
  obtain ⟨apart', apart⟩ := List.forall_mem_append.mp apart
  -- What was active is the entry before the next one.
  obtain ⟨kept, pair⟩ := History.entries_push_pair roomy entries (previous.remadeAt first.now)
  have restored : result.isOk →
      containers middle = foreign.broughtUp (history.push (previous.remadeAt first.now) limit) := by
    intro succeeded
    cases result with
    | error e => cases succeeded
    | ok answer => exact isDefault.broughtUp isMap running finds entries apart run
  constructor
  · intro faultless
    have succeeded := isDefault.succeeds isMap faultless running finds entries run
    exact ⟨succeeded,
      isDefault'.succeeds isMap faultless (restored succeeded) finds' pair run'⟩
  · intro succeeded succeeded'
    cases result' with
    | error e => cases succeeded'
    | ok answer =>
      have services : ((history.push (previous.remadeAt first.now) limit).push
          (active.remadeAt second.now) limit).activeServices = history.activeServices := by
        rw [History.activeServices_push positive, History.activeServices,
          History.active?_of_entries entries]
        rfl
      rw [isDefault'.broughtUp isMap (restored succeeded) finds' pair apart' run', running,
        ← History.activeNames_of_entries entries, ← History.push_push]
      exact Containers.isRelabeled_broughtUp foreign services

namespace Shop

/-- Rolls the shop back once more. -/
def backAgain : Call World :=
  planning ["shop_web_1"] "2024-02-04T00:00:00Z" rollback

/-- The deployment that the shop runs. -/
def single : Manifest :=
  ⟨fleet ["shop_web_1"], "2024-02-02T00:00:00Z", "one"⟩

theorem shrunk_entries : shrunk.entries = [] ++ [both, single] := by
  unfold shrunk both single
  exact Eq.refl _

theorem back_isDefault : back.IsDefaultRollback :=
  ⟨_, rfl, rfl⟩

theorem backAgain_isDefault : backAgain.IsDefaultRollback :=
  ⟨_, rfl, rfl⟩

theorem shrunk_apart :
    ∀ name ∈ both.containerNames ++ single.containerNames, containers start name = none := by
  decide +kernel

theorem backAgain_finds (w : World) :
    backAgain.Finds engine containers (containers start)
      (shrunk.push (both.remadeAt back.now) (some 2)) w (["shop_web_1"].map request) w where
  aside := Planner.reporting_keeps _
  planned := planning_plan _ _ _ _
  apart := by decide +kernel
  meets := by
    have names : (shrunk.push (both.remadeAt back.now) (some 2)).activeNames =
        ["shop_web_1", "shop_db_1"] := by
      have positive : some 2 ≠ some 0 := by decide
      rw [History.activeNames_push positive, Manifest.containerNames_remadeAt, both_names]
    rw [map_name_request, names]
    exact ⟨"shop_web_1", List.mem_cons_self, List.mem_cons_self⟩

end Shop

theorem Call.rollbacks_cancelOut_shop :
    ∃ result middle result' after,
      (Shop.back.perform (some 2) Shop.engine).on (Shop.beside Shop.shrunk) = (result, middle) ∧
        (Shop.backAgain.perform (some 2) Shop.engine).on middle = (result', after) ∧
        result.isOk ∧ result'.isOk ∧
        (Shop.containers (Shop.beside Shop.shrunk)).IsRelabeled (Shop.containers after)
          Shop.single.containerNames
          ⟨newestOf (some 2) (Shop.shrunk.entries ++
            [Shop.both.remadeAt Shop.back.now, Shop.single.remadeAt Shop.backAgain.now])⟩ := by
  have roomy : ∀ bound, some 2 = some bound → 2 ≤ bound := by
    rintro bound ⟨rfl⟩
    exact Nat.le_refl 2
  rcases run : (Shop.back.perform (some 2) Shop.engine).on (Shop.beside Shop.shrunk)
    with ⟨result, middle⟩
  rcases run' : (Shop.backAgain.perform (some 2) Shop.engine).on middle with ⟨result', after⟩
  obtain ⟨succeed, cancelOut⟩ := Call.rollbacks_cancelOut Shop.isMap roomy
    (Shop.containers_beside Shop.shrunk) Shop.shrunk_entries Shop.shrunk_apart
    Shop.back_isDefault Shop.backAgain_isDefault Shop.back_finds run
    (Shop.backAgain_finds middle) run'
  obtain ⟨first, second⟩ := succeed Shop.isFaultless
  exact ⟨result, middle, result', after, rfl, run', first, second, cancelOut first second⟩

end ComposeDeploy
