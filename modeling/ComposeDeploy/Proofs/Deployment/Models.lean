import ComposeDeploy.Proofs.Deployment.Decision
import ComposeDeploy.Proofs.Deployment.Timing
import ComposeDeploy.Proofs.Engine.Containers

/-!
What a model engine depends on.

A model consists of its containers and of what no call changes: its name, its
version, its images and its faults (`ModelEngine.bare`). The two together decide
each answer (`ModelEngine.isDecidedBy`), and a fault keeps a container from
starting whatever it is started with, so a model does not mind what histories
say (`ModelEngine.isBlind`).
-/

namespace ComposeDeploy

variable {W α : Type}

namespace ModelEngine

/-- A model without its containers. -/
def bare (e : ModelEngine) : ModelEngine :=
  { e with containers := .empty }

@[simp]
theorem faults_bare (e : ModelEngine) : e.bare.faults = e.faults := rfl

/-! ### Answers -/

theorem inspect_eq (e : ModelEngine) (name : String) :
    e.inspect name =
      match e.bare.faults.inspect.get? name with
      | some text => .error (.other text)
      | none => .ok ((e.view name).map fun configuration => ⟨configuration.labels?⟩) := by
  have told := e.inspect_isTrue name
  rw [faults_bare]
  unfold inspect at told ⊢
  cases faulty : e.faults.inspect.get? name with
  | some text => rfl
  | none =>
    simp only [faulty] at told
    exact congrArg Except.ok told

theorem remove_answer (e : ModelEngine) (name : String) :
    (e.remove name).1 =
      match e.bare.faults.remove.get? name with
      | some text => .error (.removal name text)
      | none => if (e.view name).isSome then .ok () else .error (.containerNotFound name) := by
  rw [faults_bare]
  unfold remove view
  cases e.faults.remove.get? name with
  | some text => rfl
  | none => cases e.containers.get? name <;> rfl

theorem bare_remove (e : ModelEngine) (name : String) : (e.remove name).2.bare = e.bare := by
  unfold remove
  split
  · rfl
  · split <;> rfl

/-- Whether a model starts a container is decided by its faults. -/
theorem start_answer (e : ModelEngine) (name : String) (configuration : Configuration) :
    (e.start name configuration).1 =
      match e.bare.faults.start.get? name with
      | some text => .error (.start name text)
      | none => .ok () := by
  rw [faults_bare]
  unfold start
  cases e.faults.start.get? name <;> rfl

theorem bare_start (e : ModelEngine) (name : String) (configuration : Configuration) :
    (e.start name configuration).2.bare = e.bare := by
  unfold start
  split <;> rfl

/-! ### Models at a place -/

/-- All that the model at a place consists of. -/
def Place.state (place : Place W) (w : W) : Containers × ModelEngine :=
  (place.containers w, (place.get w).bare)

/-- What is set at a place is found there, and noting a call changes nothing of
the model. -/
structure Place.IsExact (place : Place W) : Prop where
  set : ∀ e w, place.get (place.set e w) = e
  note : ∀ call w, place.get (place.note call w) = place.get w

/-- What neither noting a call nor setting the model changes, no call changes. -/
theorem keeps {place : Place W} (name : String) {view : W → α}
    (notes : ∀ call w, view (place.note call w) = view w)
    (sets : ∀ e w, view (place.set e w) = view w) : (engine name place).Keeps view := by
  intro x w after made
  cases x with
  | version | resolve | build | inspect =>
    simp only [Exchange.Made, engine, asked_on, Prod.mk.injEq] at made
    obtain ⟨rfl, rfl⟩ := made
    exact notes _ w
  | start | remove =>
    simp only [Exchange.Made, engine, changed_on, Prod.mk.injEq] at made
    obtain ⟨rfl, rfl⟩ := made
    rw [sets, notes]

section Exact

variable {place : Place W} (isExact : place.IsExact) (name : String)
include isExact

theorem state_note (call : EngineCall) (w : W) :
    place.state (place.note call w) = place.state w := by
  simp only [Place.state, Place.containers, isExact.note]

theorem state_set (e : ModelEngine) (w : W) :
    place.state (place.set e w) = (e.view, e.bare) := by
  simp only [Place.state, Place.containers, isExact.set]

/-- A call that leaves the model as it is. -/
theorem asked_isDecided {γ : Type} (call : EngineCall) {answer : ModelEngine → Except Error γ}
    (decides : ∀ e e' : ModelEngine, e.view = e'.view → e.bare = e'.bare → answer e = answer e') :
    (asked place call answer).IsDecided place.state place.state := by
  intro v w same
  obtain ⟨sameView, sameBare⟩ := Prod.mk.inj same
  simp only [asked_on, state_note isExact, same, and_true]
  exact decides _ _ sameView sameBare

/-- A call that changes the model. -/
theorem changed_isDecided {γ : Type} (call : EngineCall)
    {change : ModelEngine → Except Error γ × ModelEngine}
    (decides : ∀ e e' : ModelEngine, e.view = e'.view → e.bare = e'.bare →
      (change e).1 = (change e').1 ∧ (change e).2.view = (change e').2.view ∧
        (change e).2.bare = (change e').2.bare) :
    (changed place call change).IsDecided place.state place.state := by
  intro v w same
  obtain ⟨sameView, sameBare⟩ := Prod.mk.inj same
  obtain ⟨answer, view, bare⟩ := decides _ _ sameView sameBare
  simp only [changed_on, state_set isExact, answer, view, bare, and_self]

/-- A model is decided by its containers and what it is besides. -/
theorem isDecidedBy : (engine name place).IsDecidedBy place.state where
  version := by
    refine asked_isDecided isExact _ fun e e' _ same => ?_
    show reportVersion e.bare = reportVersion e'.bare
    rw [same]
  identify reference := by
    refine asked_isDecided isExact _ fun e e' _ same => ?_
    show resolve e.bare reference = resolve e'.bare reference
    rw [same]
  inspect container := by
    refine asked_isDecided isExact _ fun e e' view same => ?_
    rw [inspect_eq, inspect_eq, view, same]
  start container configuration := by
    refine changed_isDecided isExact _ fun e e' view same => ?_
    have answer : (e.start container configuration).1 = (e'.start container configuration).1 := by
      rw [start_answer, start_answer, same]
    rw [view_start, view_start, bare_start, bare_start, answer, view, same]
    exact ⟨rfl, rfl, rfl⟩
  remove container := by
    refine changed_isDecided isExact _ fun e e' view same => ?_
    have answer : (e.remove container).1 = (e'.remove container).1 := by
      rw [remove_answer, remove_answer, view, same]
    rw [view_remove, view_remove, bare_remove, bare_remove, answer, view, same]
    exact ⟨rfl, rfl, rfl⟩
  build options context := by
    refine asked_isDecided isExact _ fun e e' _ same => ?_
    show build e.bare = build e'.bare
    rw [same]

/-- A model does not look at what it starts. -/
theorem isBlind : (engine name place).IsBlind place.containers fun w => (place.get w).bare := by
  intro text text' service v w same agree
  have same : (place.get v).bare = (place.get w).bare := same
  have answer : ((place.get v).start service.name (service.labeled text)).1 =
      ((place.get w).start service.name (service.labeled text')).1 := by
    rw [start_answer, start_answer, same]
  simp only [engine, changed_on]
  refine ⟨answer, ?_, ?_⟩
  · simp only [isExact.set, bare_start, same]
  · simp only [Place.containers, isExact.set, view_start, answer]
    exact agree.start service _

end Exact

end ModelEngine

end ComposeDeploy
