import ComposeDeploy.Proofs.Engine.Exchange
import Mathlib.Logic.Function.Basic

/-!
The containers of an engine as a map from names to configurations.

`Exchange.effect` says what a call makes of the map and `Exchange.IsTrueOf`
which answers fit it; an engine is a map (`Engine.IsMap`) if all its exchanges
do both. The model engine is one, whatever faults it shows. Weaker promises
are that asking changes nothing (`Engine.AskingIsHarmless`); a stronger one is
that containers are handled without faults (`Engine.IsFaultless`).
-/

namespace ComposeDeploy

/-- The containers of an engine, by name. -/
abbrev Containers := String → Option Configuration

namespace Exchange

/-- What a call makes of the containers. Only a success changes them. -/
def effect : Exchange → Containers → Containers
  | .start container configuration (.ok _), c =>
    Function.update c container (some configuration)
  | .remove container (.ok _), c => Function.update c container none
  | _, c => c

/-- Whether the answer to a call is true of the containers. -/
def IsTrueOf : Exchange → Containers → Prop
  | .inspect container (.ok found), c => found = (c container).map fun cfg => ⟨cfg.labels?⟩
  | .remove container (.ok _), c => c container ≠ none
  | .remove container (.error (.containerNotFound _)), c => c container = none
  | _, _ => True

/-- Whether the call starts or removes a container. -/
def changes : Exchange → Bool
  | .start .. | .remove .. => true
  | _ => false

/-- Whether the call is about a container. -/
def handlesContainer : Exchange → Bool
  | .inspect .. | .start .. | .remove .. => true
  | _ => false

theorem effect_of_not_changes {x : Exchange} (asks : x.changes = false) (c : Containers) :
    x.effect c = c := by
  cases x <;> first | rfl | cases asks

end Exchange

/-! ### Laws of engines -/

section Laws

variable {W : Type} {engine : Engine W}

/-- The engine is a map from names to configurations. -/
def Engine.IsMap (engine : Engine W) (containers : W → Containers) : Prop :=
  ∀ ⦃x : Exchange⦄ ⦃w after : W⦄, x.Made engine w after →
    x.IsTrueOf (containers w) ∧ containers after = x.effect (containers w)

/-- The engine always tells what a container is, and starts and removes it;
only a container that is not there is not removed. -/
def Engine.IsFaultless (engine : Engine W) : Prop :=
  ∀ ⦃x : Exchange⦄ ⦃w after : W⦄, x.Made engine w after → x.handlesContainer → x.succeeded

/-- Calls that neither start nor remove a container leave a view of the world
as it is. -/
def Engine.AskingIsHarmless {α : Type} (engine : Engine W) (view : W → α) : Prop :=
  ∀ ⦃x : Exchange⦄ ⦃w after : W⦄, x.Made engine w after → x.changes = false →
    view after = view w

theorem Engine.IsMap.askingIsHarmless {containers : W → Containers}
    (isMap : engine.IsMap containers) : engine.AskingIsHarmless containers := by
  intro x w after made asks
  rw [(isMap made).2, Exchange.effect_of_not_changes asks]

theorem Engine.IsMap.watched {containers : W → Containers} (isMap : engine.IsMap containers) :
    engine.watched.IsMap fun s => containers s.world := by
  intro x s after made
  exact isMap made.watched.1

theorem Engine.IsFaultless.watched (faultless : engine.IsFaultless) :
    engine.watched.IsFaultless := by
  intro x s after made
  exact faultless made.watched.1

theorem Engine.AskingIsHarmless.watched {α : Type} {view : W → α}
    (harmless : engine.AskingIsHarmless view) :
    engine.watched.AskingIsHarmless fun s => view s.world := by
  intro x s after made asks
  exact harmless made.watched.1 asks

/-- A conversation of questions leaves a view of the world as it is. -/
theorem Engine.AskingIsHarmless.calls {α : Type} {view : W → α}
    (harmless : engine.AskingIsHarmless view) {xs : List Exchange} {w after : W}
    (calls : engine.Calls w xs after) (asks : ∀ x ∈ xs, x.changes = false) :
    view after = view w :=
  calls.keeps fun x member _ _ made => harmless made (asks x member)

end Laws

/-! ### The model engine -/

namespace ModelEngine

variable {W : Type}

/-- The containers of a model. One of which nothing is known has no labels. -/
def view (e : ModelEngine) : Containers := fun name =>
  (e.containers.get? name).map fun configuration => configuration.getD .empty

/-- What is set at a place is found there, and noting a call changes no
container. -/
structure Place.IsLawful (place : Place W) : Prop where
  set : ∀ e w, (place.get (place.set e w)).containers = e.containers
  note : ∀ call w, (place.get (place.note call w)).containers = (place.get w).containers

/-- The containers of the model at a place. -/
def Place.containers (place : Place W) (w : W) : Containers :=
  (place.get w).view

theorem view_insert (e : ModelEngine) (name : String) (configuration : Configuration) :
    ({ e with containers := e.containers.insert name (some configuration) } : ModelEngine).view =
      Function.update e.view name (some configuration) := by
  funext other
  by_cases same : other = name
  · simp [view, Dictionary.get?_insert, same]
  · simp [view, Dictionary.get?_insert, same]

theorem view_erase (e : ModelEngine) (name : String) :
    ({ e with containers := e.containers.erase name } : ModelEngine).view =
      Function.update e.view name none := by
  funext other
  by_cases same : other = name
  · simp [view, Dictionary.get?_erase, same]
  · simp [view, Dictionary.get?_erase, same]

/-- What a model tells of a container is true. -/
theorem inspect_isTrue (e : ModelEngine) (name : String) :
    (Exchange.inspect name (e.inspect name)).IsTrueOf e.view := by
  unfold inspect
  split
  · trivial
  · show Option.map _ _ = Option.map _ (Option.map _ _)
    cases e.containers.get? name with
    | none => rfl
    | some configuration => cases configuration <;> rfl

theorem view_start (e : ModelEngine) (name : String) (configuration : Configuration) :
    (e.start name configuration).2.view =
      (Exchange.start name configuration (e.start name configuration).1).effect e.view := by
  unfold start
  split
  · rfl
  · exact e.view_insert name configuration

theorem remove_isTrue (e : ModelEngine) (name : String) :
    (Exchange.remove name (e.remove name).1).IsTrueOf e.view := by
  unfold remove
  split
  · trivial
  · split
    · next known => simp [Exchange.IsTrueOf, view, known]
    · next unknown => simp [Exchange.IsTrueOf, view, unknown]

theorem view_remove (e : ModelEngine) (name : String) :
    (e.remove name).2.view = (Exchange.remove name (e.remove name).1).effect e.view := by
  unfold remove
  split
  · rfl
  · split
    · exact e.view_erase name
    · rfl

theorem asked_on {α : Type} (place : Place W) (call : EngineCall)
    (answer : ModelEngine → Except Error α) (w : W) :
    (asked place call answer).on w = (answer (place.get w), place.note call w) := rfl

theorem changed_on {α : Type} (place : Place W) (call : EngineCall)
    (change : ModelEngine → Except Error α × ModelEngine) (w : W) :
    (changed place call change).on w =
      ((change (place.get w)).1, place.set (change (place.get w)).2 (place.note call w)) := rfl

section Place

variable {place : Place W} (lawful : place.IsLawful)
include lawful

theorem Place.IsLawful.containers_note (call : EngineCall) (w : W) :
    place.containers (place.note call w) = place.containers w := by
  funext name
  simp only [Place.containers, view, lawful.note]

theorem Place.IsLawful.containers_set (e : ModelEngine) (w : W) :
    place.containers (place.set e w) = e.view := by
  funext name
  simp only [Place.containers, view, lawful.set]

/-- The model engine is a map, whatever faults it shows. -/
theorem isMap (name : String) : (engine name place).IsMap place.containers := by
  intro x w after made
  cases x with
  | version | resolve | build =>
    simp only [Exchange.Made, engine, asked_on, Prod.mk.injEq] at made
    obtain ⟨rfl, rfl⟩ := made
    exact ⟨trivial, lawful.containers_note _ w⟩
  | inspect container result =>
    simp only [Exchange.Made, engine, asked_on, Prod.mk.injEq] at made
    obtain ⟨rfl, rfl⟩ := made
    exact ⟨inspect_isTrue _ container, lawful.containers_note _ w⟩
  | start container configuration result =>
    simp only [Exchange.Made, engine, changed_on, Prod.mk.injEq] at made
    obtain ⟨rfl, rfl⟩ := made
    rw [lawful.containers_set]
    exact ⟨trivial, view_start _ container configuration⟩
  | remove container result =>
    simp only [Exchange.Made, engine, changed_on, Prod.mk.injEq] at made
    obtain ⟨rfl, rfl⟩ := made
    rw [lawful.containers_set]
    exact ⟨remove_isTrue _ container, view_remove _ container⟩

end Place

/-- Without faults, containers are handled without faults. -/
theorem isFaultless {place : Place W} (noFaults : ∀ w, (place.get w).faults = .none)
    (name : String) : (engine name place).IsFaultless := by
  intro x w after made handles
  cases x with
  | version | resolve | build => cases handles
  | inspect container result =>
    simp only [Exchange.Made, engine, asked_on, Prod.mk.injEq] at made
    obtain ⟨rfl, rfl⟩ := made
    simp only [inspect, noFaults, Faults.none, Dictionary.get?_empty]
    rfl
  | start container configuration result =>
    simp only [Exchange.Made, engine, changed_on, Prod.mk.injEq] at made
    obtain ⟨rfl, rfl⟩ := made
    simp only [start, noFaults, Faults.none, Dictionary.get?_empty]
    rfl
  | remove container result =>
    simp only [Exchange.Made, engine, changed_on, Prod.mk.injEq] at made
    obtain ⟨rfl, rfl⟩ := made
    simp only [remove, noFaults, Faults.none, Dictionary.get?_empty]
    split <;> rfl

/-- A world that holds a model beside something else. -/
def Place.beside {V : Type} : Place (ModelEngine × V) where
  get := Prod.fst
  set e w := (e, w.2)
  note _ w := w

theorem Place.beside_isLawful {V : Type} : (Place.beside : Place (ModelEngine × V)).IsLawful where
  set _ _ := rfl
  note _ _ := rfl

/-- A world that is the containers and the images of a model without faults. -/
def Place.faultless : Place (Dictionary (Option Configuration) × Dictionary String) where
  get w :=
    { name := "", version := "", images := w.2, containers := w.1, faults := .none }
  set e w := (e.containers, w.2)
  note _ w := w

theorem Place.faultless_isLawful : Place.faultless.IsLawful where
  set _ _ := rfl
  note _ _ := rfl

end ModelEngine

end ComposeDeploy
