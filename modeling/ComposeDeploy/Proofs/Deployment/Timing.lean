import ComposeDeploy.Proofs.Deployment.Retry

/-!
The same action at another time.

The time at which a change is made goes into the newest entry of the history and
from there into the labels of the containers that are started, last of all. If
the engine does not mind what the history says (`Engine.IsBlind`), an action has
the same result at whatever time it is made, and leaves the same but for that
time (`Setup.perform_atTimes`).
-/

namespace ComposeDeploy

variable {W α : Type}

/-! ### Two texts -/

/-- The containers are the same, but that some service has been started with one
text here and with the other there. -/
def Containers.AgreeBut (text text' : String) (c d : Containers) : Prop :=
  ∀ name, c name = d name ∨ ∃ service : Service,
    c name = some (service.labeled text) ∧ d name = some (service.labeled text')

namespace Containers.AgreeBut

variable {text text' : String} {c d : Containers}

theorem refl (c : Containers) : AgreeBut text text' c c :=
  fun _ => .inl rfl

/-- A service that is started on both sides makes no other difference. -/
theorem start (agree : AgreeBut text text' c d) (service : Service) (result : Except Error Unit) :
    AgreeBut text text'
      ((Exchange.start service.name (service.labeled text) result).effect c)
      ((Exchange.start service.name (service.labeled text') result).effect d) := by
  cases result with
  | error e => exact agree
  | ok =>
    intro name
    by_cases same : name = service.name
    · subst same
      exact .inr ⟨service, Function.update_self .., Function.update_self ..⟩
    · simp only [Exchange.effect, Function.update_of_ne same]
      exact agree name

end Containers.AgreeBut

/-- Two runs came to the same, but for the texts that they put into the
containers. -/
structure AgreeBut {γ : Type} (containers : W → Containers) (others : W → α) (text text' : String)
    (first second : Except Error γ × W) : Prop where
  answer : first.1 = second.1
  others : others first.2 = others second.2
  containers : Containers.AgreeBut text text' (containers first.2) (containers second.2)

/-- The engine does not look at what histories say: started with either of two
texts, a service comes to the same. -/
def Engine.IsBlind (engine : Engine W) (containers : W → Containers) (others : W → α) : Prop :=
  ∀ (text text' : String) (service : Service) ⦃v w : W⦄, others v = others w →
    Containers.AgreeBut text text' (containers v) (containers w) →
      AgreeBut containers others text text'
        ((engine.start service.name (service.labeled text)).on v)
        ((engine.start service.name (service.labeled text')).on w)

/-- Two steps that agree still do if they give an answer of their own. -/
theorem AgreeBut.answered {γ δ : Type} {containers : W → Containers} {others : W → α}
    {text text' : String} {act act' : Act W γ} {v w : W}
    (agree : AgreeBut containers others text text' (act.on v) (act'.on w)) (answer : δ) :
    AgreeBut containers others text text' ((act >>= fun _ => pure answer).on v)
      ((act' >>= fun _ => pure answer).on w) := by
  rw [Act.on_bind, Act.on_bind]
  rcases run : act.on v with ⟨result, after⟩
  rcases run' : act'.on w with ⟨result', after'⟩
  rw [run, run'] at agree
  obtain ⟨same, rest, alike⟩ := agree
  cases same
  cases result <;> exact ⟨rfl, rest, alike⟩

/-- Services are started alike with either text. -/
theorem Engine.IsBlind.startAll {engine : Engine W} {containers : W → Containers}
    {others : W → α} (blind : engine.IsBlind containers others) {text text' : String}
    (services : List Service) {v w : W} (same : others v = others w)
    (agree : Containers.AgreeBut text text' (containers v) (containers w)) :
    AgreeBut containers others text text'
      ((engine.startAll text services).on v) ((engine.startAll text' services).on w) := by
  induction services generalizing v w with
  | nil => exact ⟨rfl, same, agree⟩
  | cons service rest ih =>
    have first := blind text text' service same agree
    rw [Engine.startAll, Engine.startAll, Act.on_bind, Act.on_bind]
    rcases run : (engine.start service.name (service.labeled text)).on v with ⟨result, between⟩
    rcases run' : (engine.start service.name (service.labeled text')).on w with ⟨result', between'⟩
    rw [run, run'] at first
    obtain ⟨answer, others, containers⟩ := first
    cases answer
    cases result with
    | error e => exact ⟨rfl, others, containers⟩
    | ok => exact ih others containers

/-! ### At two times -/

/-- Two runs came to the same, but for the time at which one deployment was
made. -/
def AgreeButTime {γ : Type} (containers : W → Containers) (others : W → α) (limit : Option Nat)
    (now later : String) (first second : Except Error γ × W) : Prop :=
  ∃ (history : History) (manifest : Manifest), AgreeBut containers others
    (history.push (manifest.remadeAt now) limit).labelText
    (history.push (manifest.remadeAt later) limit).labelText first second

theorem AgreeButTime.refl {γ : Type} (containers : W → Containers) (others : W → α)
    (limit : Option Nat) (now later : String) (run : Except Error γ × W) :
    AgreeButTime containers others limit now later run run :=
  ⟨.empty, ⟨[], now, ""⟩, rfl, rfl, .refl _⟩

/-- What two runs do first, before they differ, makes no difference. -/
theorem AgreeButTime.after {γ δ : Type} {containers : W → Containers} {others : W → α}
    {limit : Option Nat} {now later : String} (first : Act W γ) {next next' : γ → Act W δ}
    (agree : ∀ c w, AgreeButTime containers others limit now later ((next c).on w)
      ((next' c).on w)) (w : W) :
    AgreeButTime containers others limit now later ((first >>= next).on w)
      ((first >>= next').on w) := by
  rw [Act.on_bind, Act.on_bind]
  rcases first.on w with ⟨_ | c, between⟩
  · exact .refl ..
  · exact agree c between

section Times

variable {engine : Engine W} {containers : W → Containers} {others : W → α}
  (blind : engine.IsBlind containers others) (limit : Option Nat) (now later : String)
include blind

theorem Engine.IsBlind.bringUp (history : History) (manifest : Manifest) (w : W) :
    AgreeBut containers others
      (history.push (manifest.remadeAt now) limit).labelText
      (history.push (manifest.remadeAt later) limit).labelText
      ((engine.bringUp (history.push (manifest.remadeAt now) limit)).on w)
      ((engine.bringUp (history.push (manifest.remadeAt later) limit)).on w) := by
  unfold Engine.bringUp
  by_cases zero : limit = some 0
  · rw [zero, History.push_zero, History.push_zero]
    exact ⟨rfl, rfl, .refl _⟩
  · rw [History.active?_push zero, History.active?_push zero]
    exact blind.startAll manifest.services rfl (.refl _)

/-- Up to the starts, an intent is carried out in the same way at every time. -/
theorem Engine.IsBlind.carryOut (intent : Intent) (w : W) :
    AgreeButTime containers others limit now later
      ((engine.carryOut limit (intent.remadeAt now)).on w)
      ((engine.carryOut limit (intent.remadeAt later)).on w) := by
  unfold Engine.carryOut
  have names (time : String) : (intent.remadeAt time).names = intent.names := rfl
  have turns (history : History) (time : String) : (intent.remadeAt time).turn history =
      (intent.turn history).map (·.remadeAt time) := rfl
  simp only [names, turns]
  refine .after _ (fun history w => ?_) w
  cases intent.turn history with
  | error e => exact .refl ..
  | ok turn =>
    simp only [Except.map, Act.settle_ok_bind]
    refine .after (engine.removeAll turn.old) (fun _ w => ?_) w
    exact ⟨history, turn.manifest,
      (blind.bringUp limit now later history turn.manifest w).answered turn.answer⟩

end Times

/-! ### Actions -/

/-- The setup at another time. -/
def Setup.atTime (setup : Setup W) (now : String) : Setup W :=
  { setup with now }

/-- Whenever an action is made, it has the same result and leaves the same, but
for the time of the deployment that it makes. -/
theorem Setup.perform_atTimes {engine : Engine W} {containers : W → Containers}
    {others : W → α} (blind : engine.IsBlind containers others) (setup : Setup W)
    (now later : String) (action : Action) (w : W) :
    AgreeButTime containers others setup.historyLimit now later
      (((setup.atTime now).perform action engine).on w)
      (((setup.atTime later).perform action engine).on w) := by
  cases action with
  | verify | list | teardown => exact .refl ..
  | deploy options =>
    show AgreeButTime _ _ _ _ _ (((setup.atTime now).deploy options engine).on w)
      (((setup.atTime later).deploy options engine).on w)
    rw [deploy_eq, deploy_eq]
    refine .after ((setup.planner engine).collect options.flags options.skipBuilds)
      (fun requests w => ?_) w
    refine .after (engine.pinAll requests) (fun services w => ?_) w
    exact blind.carryOut _ now later (.toDeploy now options services) w
  | rollback options =>
    show AgreeButTime _ _ _ _ _ (((setup.atTime now).rollback options engine).on w)
      (((setup.atTime later).rollback options engine).on w)
    rw [rollback_eq, rollback_eq]
    refine .after ((setup.planner engine).collect options.flags options.skipBuilds)
      (fun requests w => ?_) w
    have agree := blind.carryOut setup.historyLimit now later (.toRestore now options requests) w
    rwa [Intent.toRestore_remadeAt, Intent.toRestore_remadeAt] at agree

end ComposeDeploy
