import ComposeDeploy.Engine.Model

/-!
Conversations with an engine.

An `Exchange` is one call with its answer. `Engine.Calls` says that a world
leads to another by a list of exchanges and nothing else, so what a step of an
action does is told by the exchanges that it makes. A `Watched` world keeps
such a list as its log.
-/

namespace ComposeDeploy

/-! ### Steps -/

namespace Act

variable {W α β : Type}

@[simp] theorem on_pure (a : α) (w : W) : (pure a : Act W α).on w = (.ok a, w) := rfl

@[simp] theorem on_of (f : W → Except Error α × W) (w : W) : (Act.of f).on w = f w := rfl

@[simp] theorem on_settle (result : Except Error α) (w : W) :
    (Act.settle result).on w = (result, w) := rfl

@[simp] theorem on_observe (act : Act W α) (w : W) :
    act.observe.on w = (.ok (act.on w).1, (act.on w).2) := rfl

theorem on_bind (act : Act W α) (next : α → Act W β) (w : W) :
    (act >>= next).on w = match act.on w with
      | (.ok a, after) => (next a).on after
      | (.error e, after) => (.error e, after) := by
  show (ExceptT.run (act >>= next)).run w = _
  simp only [ExceptT.run_bind, StateT.run_bind]
  unfold Act.on
  rcases StateT.run act.run w with ⟨result, after⟩
  cases result <;> rfl

@[simp] theorem settle_ok_bind (a : α) (next : α → Act W β) :
    (Act.settle (.ok a) >>= next) = next a := rfl

@[simp] theorem settle_error_bind (e : Error) (next : α → Act W β) :
    (Act.settle (.error e) >>= next) = throw e := rfl

/-- Two steps in a row: the first one fails, or the second one starts where
the first one ended. -/
theorem bind_cases {act : Act W α} {next : α → Act W β} {w after : W} {result : Except Error β}
    (run : (act >>= next).on w = (result, after)) :
    (∃ e, act.on w = (.error e, after) ∧ result = .error e) ∨
      ∃ a between, act.on w = (.ok a, between) ∧ (next a).on between = (result, after) := by
  rw [on_bind] at run
  rcases first : act.on w with ⟨answer, between⟩
  rw [first] at run
  cases answer with
  | ok a => exact .inr ⟨a, between, rfl, run⟩
  | error e =>
    cases run
    exact .inl ⟨e, rfl, rfl⟩

end Act

/-! ### Exchanges -/

/-- A call to an engine and its answer. -/
inductive Exchange where
  | version (result : Except Error String)
  | resolve (reference : String) (result : Except Error String)
  | inspect (container : String) (result : Except Error (Option Inspection))
  | start (container : String) (configuration : Configuration) (result : Except Error Unit)
  | remove (container : String) (result : Except Error Unit)
  | build (options : ImageBuild) (context : ByteArray) (result : Except Error Unit)

namespace Exchange

/-- The call alone. -/
def call : Exchange → EngineCall
  | .version _ => .version
  | .resolve reference _ => .resolve reference
  | .inspect container _ => .inspect container
  | .start container configuration _ => .start container configuration
  | .remove container _ => .remove container
  | .build options context _ => .build options context

/-- Whether the call did what it was made for. A container that is not there
need not be removed. -/
def succeeded : Exchange → Bool
  | .version result => result.isOk
  | .resolve _ result => result.isOk
  | .inspect _ result => result.isOk
  | .start _ _ result => result.isOk
  | .remove _ (.error (.containerNotFound _)) => true
  | .remove _ result => result.isOk
  | .build _ _ result => result.isOk

/-- Whether the call is a build. Builds are made for the orchestrator, all
other calls are an action's own. -/
def isBuild : Exchange → Bool
  | .build .. => true
  | _ => false

/-- The container that a call started, with its configuration. -/
def started? : Exchange → Option (String × Configuration)
  | .start container configuration (.ok _) => some (container, configuration)
  | _ => none

variable {W : Type}

/-- The engine of the world `w` answers so and leaves the world `after`. -/
def Made (engine : Engine W) (w after : W) : Exchange → Prop
  | .version result => engine.version.on w = (result, after)
  | .resolve reference result => (engine.identify reference).on w = (result, after)
  | .inspect container result => (engine.inspect container).on w = (result, after)
  | .start container configuration result =>
    (engine.start container configuration).on w = (result, after)
  | .remove container result => (engine.remove container).on w = (result, after)
  | .build options context result => (engine.build options context).on w = (result, after)

end Exchange

/-- The world `w` leads to another by these exchanges, in this order. -/
inductive Engine.Calls {W : Type} (engine : Engine W) : W → List Exchange → W → Prop where
  | nil {w : W} : Calls engine w [] w
  | cons {x : Exchange} {xs : List Exchange} {w between after : W} :
    x.Made engine w between → Calls engine between xs after → Calls engine w (x :: xs) after

namespace Engine.Calls

variable {W : Type} {engine : Engine W} {w between after : W}

theorem single {x : Exchange} (made : x.Made engine w after) : engine.Calls w [x] after :=
  .cons made .nil

theorem append {xs ys : List Exchange} (first : engine.Calls w xs between)
    (second : engine.Calls between ys after) : engine.Calls w (xs ++ ys) after := by
  induction first with
  | nil => exact second
  | cons made _ ih => exact .cons made (ih second)

/-- A conversation in two parts has a world between them. -/
theorem split {xs ys : List Exchange} (calls : engine.Calls w (xs ++ ys) after) :
    ∃ between, engine.Calls w xs between ∧ engine.Calls between ys after := by
  induction xs generalizing w with
  | nil => exact ⟨w, .nil, calls⟩
  | cons x xs ih =>
    cases calls with
    | cons made rest =>
      obtain ⟨between, first, second⟩ := ih rest
      exact ⟨between, .cons made first, second⟩

/-- What every exchange keeps, a conversation keeps. -/
theorem keeps {α : Type} {view : W → α} {xs : List Exchange} (calls : engine.Calls w xs after)
    (each : ∀ x ∈ xs, ∀ w after, x.Made engine w after → view after = view w) :
    view after = view w := by
  induction calls with
  | nil => rfl
  | cons made _ ih =>
    rw [ih fun x member => each x (List.mem_cons_of_mem _ member)]
    exact each _ List.mem_cons_self _ _ made

end Engine.Calls

/-! ### Watched worlds -/

/-- A world that remembers all calls to one engine and their answers. -/
structure Watched (W : Type) where
  world : W
  /-- The exchanges, oldest first. -/
  log : List Exchange

/-- The exchanges of the actions themselves. -/
def Watched.own {W : Type} (s : Watched W) : List Exchange :=
  s.log.filter fun x => !x.isBuild

/-- A step whose answer is noted. -/
def Act.noted {W α : Type} (note : Except Error α → Exchange) (act : Act W α) :
    Act (Watched W) α :=
  Act.of fun s =>
    let (result, world) := act.on s.world
    (result, ⟨world, s.log ++ [note result]⟩)

/-- The engine in a world that remembers the calls to it. -/
def Engine.watched {W : Type} (engine : Engine W) : Engine (Watched W) where
  name := engine.name
  version := engine.version.noted .version
  identify reference := (engine.identify reference).noted (.resolve reference)
  inspect container := (engine.inspect container).noted (.inspect container)
  start container configuration :=
    (engine.start container configuration).noted (.start container configuration)
  remove container := (engine.remove container).noted (.remove container)
  build options context := (engine.build options context).noted (.build options context)

section Watched

variable {W : Type} {engine : Engine W} {s after : Watched W}

theorem Act.noted_on {α : Type} {note : Except Error α → Exchange} {act : Act W α}
    {result : Except Error α} (run : (act.noted note).on s = (result, after)) :
    act.on s.world = (result, after.world) ∧ after.log = s.log ++ [note result] := by
  simp only [Act.noted, Act.on_of, Prod.mk.injEq] at run
  obtain ⟨rfl, rfl⟩ := run
  exact ⟨rfl, rfl⟩

theorem Exchange.Made.watched {x : Exchange} (made : x.Made engine.watched s after) :
    x.Made engine s.world after.world ∧ after.log = s.log ++ [x] := by
  cases x <;> exact Act.noted_on made

/-- The log of a watched world tells the conversation. -/
theorem Engine.Calls.watched {xs : List Exchange} (calls : engine.watched.Calls s xs after) :
    engine.Calls s.world xs after.world ∧ after.log = s.log ++ xs := by
  induction calls with
  | nil => exact ⟨.nil, by simp⟩
  | cons made _ ih =>
    obtain ⟨inner, log⟩ := made.watched
    exact ⟨.cons inner ih.1, by simp [ih.2, log]⟩

theorem Engine.Calls.own {xs : List Exchange} (calls : engine.watched.Calls s xs after)
    (noBuilds : ∀ x ∈ xs, x.isBuild = false) : after.own = s.own ++ xs := by
  have kept : xs.filter (fun x => !x.isBuild) = xs :=
    List.filter_eq_self.mpr fun x member => by simp [noBuilds x member]
  rw [Watched.own, calls.watched.2, List.filter_append, kept, Watched.own]

end Watched

end ComposeDeploy
