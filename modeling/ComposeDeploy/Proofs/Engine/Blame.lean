import ComposeDeploy.Engine.Client
import ComposeDeploy.Proofs.Engine.Containers
import ComposeDeploy.Proofs.ImageName

/-!
Engines do not blame the user.

Some errors say that the user asked for something that is not there
(`Error.isUsersFault`). No failure of an engine is told as one of these
(`Engine.NeverBlamesUser`), neither by a model, whatever faults it shows, nor by a
client, whatever it is answered. So where such an error comes up, an action has
made it itself.
-/

namespace ComposeDeploy

variable {W α β : Type}

/-- The step does not fail by the user's own fault. -/
def Act.NeverBlamesUser (act : Act W α) : Prop :=
  ∀ w e, (act.on w).1 = .error e → e.isUsersFault = false

namespace Act.NeverBlamesUser

theorem pure (a : α) : (Pure.pure a : Act W α).NeverBlamesUser := nofun

theorem throw {e : Error} (spared : e.isUsersFault = false) :
    (throw e : Act W α).NeverBlamesUser := by
  rintro w _ ⟨rfl⟩
  exact spared

theorem settle {result : Except Error α}
    (spared : ∀ e, result = .error e → e.isUsersFault = false) :
    (Act.settle result : Act W α).NeverBlamesUser :=
  fun _ => spared

theorem bind {act : Act W α} {next : α → Act W β} (first : act.NeverBlamesUser)
    (second : ∀ a, (next a).NeverBlamesUser) : (act >>= next).NeverBlamesUser := by
  intro w e failed
  rcases run : (act >>= next).on w with ⟨result, after⟩
  rw [run] at failed
  cases failed
  rcases Act.bind_cases run with ⟨_, unmade, same⟩ | ⟨a, between, _, rest⟩
  · cases same
    exact first w e (congrArg Prod.fst unmade)
  · exact second a between e (congrArg Prod.fst rest)

theorem noted {note : Except Error α → Exchange} {act : Act W α} (spares : act.NeverBlamesUser) :
    (act.noted note).NeverBlamesUser :=
  fun s => spares s.world

end Act.NeverBlamesUser

/-- No failure of the engine is told as the user's own fault. -/
structure Engine.NeverBlamesUser (engine : Engine W) : Prop where
  version : engine.version.NeverBlamesUser
  identify : ∀ reference, (engine.identify reference).NeverBlamesUser
  inspect : ∀ container, (engine.inspect container).NeverBlamesUser
  start : ∀ container configuration, (engine.start container configuration).NeverBlamesUser
  remove : ∀ container, (engine.remove container).NeverBlamesUser
  build : ∀ options context, (engine.build options context).NeverBlamesUser

theorem Engine.NeverBlamesUser.watched {engine : Engine W} (spares : engine.NeverBlamesUser) :
    engine.watched.NeverBlamesUser where
  version := spares.version.noted
  identify reference := (spares.identify reference).noted
  inspect container := (spares.inspect container).noted
  start container configuration := (spares.start container configuration).noted
  remove container := (spares.remove container).noted
  build options context := (spares.build options context).noted

/-! ### Models -/

namespace ModelEngine

theorem asked_neverBlamesUser {place : Place W} {call : EngineCall}
    {answer : ModelEngine → Except Error α}
    (spared : ∀ m e, answer m = .error e → e.isUsersFault = false) :
    (asked place call answer).NeverBlamesUser :=
  fun w => spared (place.get w)

theorem changed_neverBlamesUser {place : Place W} {call : EngineCall}
    {change : ModelEngine → Except Error α × ModelEngine}
    (spared : ∀ m e, (change m).1 = .error e → e.isUsersFault = false) :
    (changed place call change).NeverBlamesUser :=
  fun w => spared (place.get w)

/-- A model tells every fault as its own. -/
theorem neverBlamesUser (name : String) (place : Place W) :
    (engine name place).NeverBlamesUser where
  version := asked_neverBlamesUser <| by
    unfold reportVersion
    grind [Error.isUsersFault]
  identify _ := asked_neverBlamesUser <| by
    unfold resolve
    grind [Error.isUsersFault]
  inspect _ := asked_neverBlamesUser <| by
    unfold inspect
    grind [Error.isUsersFault]
  start _ _ := changed_neverBlamesUser <| by
    unfold start
    grind [Error.isUsersFault]
  remove _ := changed_neverBlamesUser <| by
    unfold remove
    grind [Error.isUsersFault]
  build _ _ := asked_neverBlamesUser <| by
    unfold build
    grind [Error.isUsersFault]

end ModelEngine

/-! ### Clients -/

namespace Client

theorem step_neverBlamesUser {cause : ClientFailure → Error}
    (spared : ∀ failure, (cause failure).isUsersFault = false)
    (exchange : W → Except ClientFailure α × W) : (step cause exchange).NeverBlamesUser := by
  intro w e failed
  simp only [step, Act.on_of] at failed
  split at failed
  · cases failed
  · cases failed
    exact spared _

theorem lookUp_neverBlamesUser (client : Client W) (image : String) :
    (client.lookUp image).NeverBlamesUser :=
  step_neverBlamesUser (fun _ => rfl) _

theorem identify_neverBlamesUser (client : Client W) (reference : String) :
    (client.identify reference).NeverBlamesUser := by
  have isReference : (Act.settle (ImageName.ofText reference) : Act W ImageName).NeverBlamesUser :=
    .settle fun e refused => by
      rw [(ImageName.ofText_eq_error_iff.mp refused).1]
      rfl
  unfold identify
  refine isReference.bind fun image => (client.lookUp_neverBlamesUser _).bind ?_
  rintro (_ | _ | id)
  · -- The image is pulled and looked up once more.
    refine .bind (step_neverBlamesUser (fun _ => rfl) _) fun _ =>
      (client.lookUp_neverBlamesUser _).bind ?_
    rintro (_ | _ | id)
    · exact .throw rfl
    · exact .throw rfl
    · exact .pure id
  · exact .throw rfl
  · exact .pure id

theorem start_neverBlamesUser (client : Client W) (container : String)
    (configuration : Configuration) : (client.start container configuration).NeverBlamesUser := by
  intro w e failed
  simp only [start, Act.on_of] at failed
  split at failed
  · cases failed
    rfl
  · next between _ => exact step_neverBlamesUser (fun _ => rfl) _ between e failed

theorem isUsersFault_unremoved (container : String) (failure : ClientFailure) :
    (unremoved container failure).isUsersFault = false := by
  unfold unremoved
  split <;> rfl

/-- A client tells every failure as one of the engine. -/
theorem neverBlamesUser (client : Client W) : client.engine.NeverBlamesUser where
  version := by
    refine .bind (step_neverBlamesUser (fun _ => rfl) _) ?_
    rintro (_ | version)
    · exact .throw rfl
    · exact .pure version
  identify := client.identify_neverBlamesUser
  inspect _ := step_neverBlamesUser (fun _ => rfl) _
  start := client.start_neverBlamesUser
  remove container := step_neverBlamesUser (isUsersFault_unremoved container) _
  build options context := by
    refine .bind (step_neverBlamesUser (fun _ => rfl) _) ?_
    rintro (_ | text)
    · exact .pure ()
    · exact .throw rfl

end Client

end ComposeDeploy
