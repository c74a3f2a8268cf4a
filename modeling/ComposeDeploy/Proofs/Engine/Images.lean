import ComposeDeploy.Proofs.Engine.Containers

/-!
The images of an engine, and engines that lose their faults.

`Engine.FindsBy` says that an engine finds images as a view of the world tells,
and that no call changes what it tells. An engine is the repair of another one
(`Engine.Repairs`) if both are the same map from names to configurations and
find the same images, and it handles containers and finds images without
faults. A model engine without faults is the repair of the same model with any
faults (`ModelEngine.repairs`).
-/

namespace ComposeDeploy

/-! ### Laws -/

section Laws

variable {W : Type}

/-- The engine finds no other images than a view of the world tells, and no call
changes what it tells. -/
structure Engine.FindsBy (engine : Engine W) (images : W → String → Option String) : Prop where
  kept : ∀ ⦃x : Exchange⦄ ⦃w after : W⦄, x.Made engine w after → images after = images w
  found : ∀ ⦃reference id : String⦄ ⦃w after : W⦄,
    (Exchange.resolve reference (.ok id)).Made engine w after → images w reference = some id

/-- The engine finds every image that a view of the world tells. -/
def Engine.FindsAll (engine : Engine W) (images : W → String → Option String) : Prop :=
  ∀ ⦃reference : String⦄ ⦃e : Error⦄ ⦃w after : W⦄,
    (Exchange.resolve reference (.error e)).Made engine w after → images w reference = none

/-- The engine is a faulty one without its faults. -/
structure Engine.Repairs (engine faulty : Engine W) (containers : W → Containers)
    (images : W → String → Option String) : Prop where
  faultyIsMap : faulty.IsMap containers
  faultyFinds : faulty.FindsBy images
  isMap : engine.IsMap containers
  finds : engine.FindsBy images
  isFaultless : engine.IsFaultless
  findsAll : engine.FindsAll images

variable {engine faulty : Engine W} {containers : W → Containers}
  {images : W → String → Option String}

theorem Engine.FindsBy.calls (finds : engine.FindsBy images) {xs : List Exchange} {w after : W}
    (calls : engine.Calls w xs after) : images after = images w :=
  calls.keeps fun _ _ _ _ made => finds.kept made

theorem Engine.FindsBy.watched (finds : engine.FindsBy images) :
    engine.watched.FindsBy fun s => images s.world where
  kept _ _ _ made := finds.kept made.watched.1
  found _ _ _ _ made := finds.found made.watched.1

theorem Engine.FindsAll.watched (findsAll : engine.FindsAll images) :
    engine.watched.FindsAll fun s => images s.world :=
  fun _ _ _ _ made => findsAll made.watched.1

theorem Engine.Repairs.watched (repairs : engine.Repairs faulty containers images) :
    engine.watched.Repairs faulty.watched (fun s => containers s.world)
      fun s => images s.world where
  faultyIsMap := repairs.faultyIsMap.watched
  faultyFinds := repairs.faultyFinds.watched
  isMap := repairs.isMap.watched
  finds := repairs.finds.watched
  isFaultless := repairs.isFaultless.watched
  findsAll := repairs.findsAll.watched

end Laws

/-! ### The model engine -/

namespace ModelEngine

variable {W : Type}

/-- What is set at a place has the images that were there, and noting a call
changes none. -/
structure Place.KeepsImages (place : Place W) : Prop where
  set : ∀ e w, e.images = (place.get w).images →
    (place.get (place.set e w)).images = (place.get w).images
  note : ∀ call w, (place.get (place.note call w)).images = (place.get w).images

/-- The images of the model at a place. -/
def Place.images (place : Place W) (w : W) : String → Option String :=
  (place.get w).images.get?

theorem images_start (e : ModelEngine) (container : String) (configuration : Configuration) :
    (e.start container configuration).2.images = e.images := by
  unfold start
  split <;> rfl

theorem images_remove (e : ModelEngine) (container : String) :
    (e.remove container).2.images = e.images := by
  unfold remove
  split
  · rfl
  · split <;> rfl

section Place

variable {place : Place W} (keeps : place.KeepsImages)
include keeps

theorem Place.KeepsImages.images_note (call : EngineCall) (w : W) :
    place.images (place.note call w) = place.images w :=
  congrArg Dictionary.get? (keeps.note call w)

theorem Place.KeepsImages.images_set {e : ModelEngine} {call : EngineCall} {w : W}
    (same : e.images = (place.get w).images) :
    place.images (place.set e (place.note call w)) = place.images w := by
  unfold Place.images
  rw [keeps.set e _ (same.trans (keeps.note call w).symm), keeps.note]

/-- The model engine finds the images of the model, whatever faults it shows. -/
theorem findsBy (name : String) : (engine name place).FindsBy place.images where
  kept := by
    intro x w after made
    cases x with
    | version | resolve | inspect | build =>
      simp only [Exchange.Made, engine, asked_on, Prod.mk.injEq] at made
      obtain ⟨_, rfl⟩ := made
      exact keeps.images_note _ w
    | start container configuration =>
      simp only [Exchange.Made, engine, changed_on, Prod.mk.injEq] at made
      obtain ⟨_, rfl⟩ := made
      exact keeps.images_set (images_start _ container configuration)
    | remove container =>
      simp only [Exchange.Made, engine, changed_on, Prod.mk.injEq] at made
      obtain ⟨_, rfl⟩ := made
      exact keeps.images_set (images_remove _ container)
  found := by
    intro reference id w after made
    simp only [Exchange.Made, engine, asked_on, Prod.mk.injEq] at made
    obtain ⟨answer, _⟩ := made
    unfold resolve at answer
    split at answer
    · next known =>
      cases answer
      exact known
    · cases answer

end Place

theorem findsAll (name : String) (place : Place W) :
    (engine name place).FindsAll place.images := by
  intro reference e w after made
  simp only [Exchange.Made, engine, asked_on, Prod.mk.injEq] at made
  obtain ⟨answer, _⟩ := made
  unfold resolve at answer
  split at answer
  · cases answer
  · next unknown => exact unknown

/-- A world that is the containers and the images of a model with these
faults. -/
def Place.failing (faults : Faults) :
    Place (Dictionary (Option Configuration) × Dictionary String) where
  get w := { name := "", version := "", images := w.2, containers := w.1, faults }
  set e w := (e.containers, w.2)
  note _ w := w

theorem Place.failing_isLawful (faults : Faults) : (Place.failing faults).IsLawful where
  set _ _ := rfl
  note _ _ := rfl

theorem Place.failing_keepsImages (faults : Faults) : (Place.failing faults).KeepsImages where
  set _ _ _ := rfl
  note _ _ := rfl

theorem Place.faultless_keepsImages : Place.faultless.KeepsImages where
  set _ _ _ := rfl
  note _ _ := rfl

/-- A model without faults repairs the same model with any faults. -/
theorem repairs (faults : Faults) (name : String) :
    (engine name .faultless).Repairs (engine name (.failing faults)) Place.faultless.containers
      Place.faultless.images where
  faultyIsMap := isMap (Place.failing_isLawful faults) name
  faultyFinds := findsBy (Place.failing_keepsImages faults) name
  isMap := isMap Place.faultless_isLawful name
  finds := findsBy Place.faultless_keepsImages name
  isFaultless := isFaultless (fun _ => rfl) name
  findsAll := findsAll name .faultless

end ModelEngine

end ComposeDeploy
