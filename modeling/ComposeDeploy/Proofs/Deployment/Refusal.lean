import ComposeDeploy.Proofs.Deployment.Reach
import ComposeDeploy.Proofs.Deployment.Redeploy
import ComposeDeploy.Proofs.Engine.Blame
import ComposeDeploy.Proofs.History.Selection

/-!
When a rollback is refused.

Between reading the history and removing the first container a rollback asks
nobody: the history grants what was asked for or refuses it, and what it refuses
is refused with nothing done (`Setup.rollback_refused`). What it grants can only
fail by the engine, which does not blame the user (`Setup.rollback_granted`). So
the user is to blame just for a refusal (`Setup.rollback_eq_error_iff`), and the
three errors that say so are told apart by the length of the history and the text
of the index alone (`Setup.rollback_ends`).
-/

namespace ComposeDeploy

variable {W : Type}

/-- How a rollback ends that has read a history: `read` is the world after the
reading. -/
structure Restoration.Ends (options : Restoration) (setup : Setup (Watched W)) (engine : Engine W)
    (containers : W → Containers) (history : History) (s read : Watched W)
    (result : Except Error Answer) (after : Watched W) : Prop where
  /-- A position that is chosen is one of the history. -/
  position : ∀ index, history.rollbackPosition options.index = .ok index →
    ∃ target, history.get? index = some target
  /-- There is no earlier deployment just if there are fewer than two, whatever
  index is given. -/
  noPrevious : result = .error .noPreviousDeployment ↔ history.length < 2
  /-- An index is invalid just if the text without the blanks around it denotes
  no number. The text is told whole. -/
  invalid : 2 ≤ history.length → ∀ text, options.index = some text → ∀ shown,
    (result = .error (.invalidRollbackIndex shown) ↔
      shown = text ∧ ∀ value, ¬ Text.Numeral.Denotes (Text.trim text).toList value)
  /-- An index is out of range just if it denotes a number that no deployment
  has. -/
  outOfRange : 2 ≤ history.length → ∀ text, options.index = some text → ∀ value,
    (result = .error (.rollbackIndexOutOfRange value) ↔
      Text.Numeral.Denotes (Text.trim text).toList value ∧
        (value < 1 ∨ (history.length : Int) < value))
  /-- Any other index denotes the number of a deployment, which is made again in
  the place of the active one unless the engine has a fault. -/
  restores : 2 ≤ history.length → ∀ text, options.index = some text → ∀ number : Nat,
    Text.Numeral.Denotes (Text.trim text).toList number → 1 ≤ number → number ≤ history.length →
    ∃ target, history.get? (number - 1) = some target ∧
      (engine.IsFaultless →
        result = .ok (.plain ("Successfully rolled back to deployment: " ++ toString number)) ∧
        containers after.world = ((containers s.world).without history.activeNames).broughtUp
          (history.push (target.remadeAt setup.now) setup.historyLimit))
  /-- When the user is to blame, nothing has happened since the reading, and until
  then nothing has been removed or started. -/
  harmless : ∀ e, result = .error e → e.isUsersFault = true →
    after = read ∧ containers after.world = containers s.world ∧
      ∃ xs, after.own = s.own ++ xs ∧ ∀ x ∈ xs, x.changes = false

/-! ### Steps -/

namespace Engine.NeverBlamesUser

variable {engine : Engine W} (spares : engine.NeverBlamesUser)
include spares

theorem discard (name : String) : (engine.discard name).NeverBlamesUser := by
  intro w e failed
  rcases run : (engine.discard name).on w with ⟨result, after⟩
  rw [run] at failed
  cases failed
  rcases Engine.discard_cases run with ⟨_, same⟩ | ⟨_, _, same⟩ | ⟨_, refused, _, same⟩
  · cases same
  · cases same
  · cases same
    exact spares.remove name w e (congrArg Prod.fst refused)

theorem removeAll (names : List String) : (engine.removeAll names).NeverBlamesUser := by
  induction names with
  | nil => exact .pure 0
  | cons name rest ih => exact (spares.discard name).bind fun _ => ih.bind fun _ => .pure _

theorem startAll (label : String) (services : List Service) :
    (engine.startAll label services).NeverBlamesUser := by
  induction services with
  | nil => exact .pure ()
  | cons service rest ih => exact (spares.start _ _).bind fun _ => ih

theorem bringUp (history : History) : (engine.bringUp history).NeverBlamesUser := by
  unfold Engine.bringUp
  split
  · exact .pure ()
  · exact spares.startAll _ _

end Engine.NeverBlamesUser

/-- On a map without faults the history that the containers carry is read, and
nothing is changed. -/
theorem Engine.carriedHistory_on {engine : Engine W} {containers : W → Containers}
    (isMap : engine.IsMap containers) (faultless : engine.IsFaultless) (names : List String)
    (w : W) :
    ∃ after, (engine.carriedHistory names).on w = ((containers w).carried names, after) ∧
      containers after = containers w := by
  rcases run : (engine.carriedHistory names).on w with ⟨result, after⟩
  obtain ⟨xs, calls, reads⟩ := Engine.carriedHistory_cases run
  have inspections : ∀ x ∈ xs, x.handlesContainer ∧ x.changes = false := by
    intro x member
    obtain ⟨_, _, rfl⟩ := reads.inspects x member
    exact ⟨rfl, rfl⟩
  obtain ⟨rfl, _⟩ := reads.of_map isMap calls
    (faultless.succeeded calls fun x member => (inspections x member).1)
  exact ⟨after, rfl, isMap.askingIsHarmless.calls calls fun x member => (inspections x member).2⟩

section Rollback

variable {setup : Setup W} {engine : Engine W} {options : Restoration} {w between read after : W}
  {requests : List CreateRequest} {history : History} {result : Except Error Answer}
  (planned : (setup.captures engine (.rollback options)).on w = (.ok requests, between))
  (told : (engine.carriedHistory (requests.map CreateRequest.name)).on between =
    (.ok history, read))
  (run : (setup.perform (.rollback options) engine).on w = (result, after))
include planned run

theorem Setup.rollback_carriesOut :
    (engine.carryOut setup.historyLimit (Intent.toRestore setup.now options requests)).on between =
      (result, after) := by
  have planned : ((setup.planner engine).collect options.flags options.skipBuilds).on w =
      (.ok requests, between) := planned
  have run : (setup.rollback options engine).on w = (result, after) := run
  rwa [setup.rollback_eq, Act.on_bind, planned] at run

include told

/-- What the history refuses is refused. -/
theorem Setup.rollback_refused {e : Error}
    (refused : history.restoration options.index = .error e) :
    result = .error e ∧ after = read := by
  have rest := rollback_carriesOut planned run
  have turned : (Intent.toRestore setup.now options requests).turn history = .error e := by
    simp only [Intent.toRestore, refused]
    rfl
  have names : (Intent.toRestore setup.now options requests).names =
      requests.map CreateRequest.name := rfl
  rw [Engine.carryOut, Act.on_bind, names, told] at rest
  simp only [turned, Act.settle_error_bind] at rest
  cases rest
  exact ⟨rfl, rfl⟩

/-- What the history grants fails only with failures of the engine. -/
theorem Setup.rollback_granted (spares : engine.NeverBlamesUser) {found : Nat × Manifest}
    (granted : history.restoration options.index = .ok found) {e : Error}
    (failed : result = .error e) : e.isUsersFault = false := by
  have rest := rollback_carriesOut planned run
  have names : (Intent.toRestore setup.now options requests).names =
      requests.map CreateRequest.name := rfl
  rw [Engine.carryOut, Act.on_bind, names, told] at rest
  simp only [Intent.toRestore, granted, Except.map, Act.settle_ok_bind] at rest
  have spared : (do
      let _ ← engine.removeAll history.activeNames
      engine.bringUp (history.push (found.2.remadeAt setup.now) setup.historyLimit)
      return Answer.plain ("Successfully rolled back to deployment: " ++
        toString (found.1 + 1)) : Act W Answer).NeverBlamesUser :=
    (spares.removeAll _).bind fun _ => (spares.bringUp _).bind fun _ => .pure _
  exact spared read e ((congrArg Prod.fst rest).trans failed)

/-- The user is to blame just for what the history refuses. -/
theorem Setup.rollback_eq_error_iff (spares : engine.NeverBlamesUser) {e : Error}
    (blamed : e.isUsersFault = true) :
    result = .error e ↔ history.restoration options.index = .error e := by
  cases granted : history.restoration options.index with
  | error e' =>
    rw [(rollback_refused planned told run granted).1]
    constructor
    all_goals
      rintro ⟨rfl⟩
      rfl
  | ok found =>
    refine ⟨fun failed => ?_, nofun⟩
    rw [rollback_granted planned told run spares granted failed] at blamed
    cases blamed

/-- What the history grants is done if the engine has no fault. -/
theorem Setup.rollback_remakes {containers : W → Containers} (isMap : engine.IsMap containers)
    (faultless : engine.IsFaultless) {index : Nat} {target : Manifest}
    (granted : history.restoration options.index = .ok (index, target)) :
    result = .ok (.plain ("Successfully rolled back to deployment: " ++ toString (index + 1))) ∧
      containers after = ((containers between).without history.activeNames).broughtUp
        (history.push (target.remadeAt setup.now) setup.historyLimit) := by
  obtain ⟨inspections, removals, starts, calls, carries⟩ :=
    Engine.carryOut_cases (rollback_carriesOut planned run)
  obtain ⟨_, asked, reads⟩ := Engine.carriedHistory_cases told
  have carried := (reads.of_map isMap asked (reads.orderly.all rfl)).1
  have chosen : (Intent.toRestore setup.now options requests).turn history = .ok {
      old := history.activeNames
      manifest := target.remadeAt setup.now
      answer := .plain
        ("Successfully rolled back to deployment: " ++ toString (index + 1)) } := by
    simp only [Intent.toRestore, granted]
    rfl
  exact carries.isDone isMap faultless calls carried.symm chosen

end Rollback

/-! ### Main result -/

/-- A rollback that has read a history is refused for one of three reasons, each
with its own error and before anything is changed. Otherwise it restores the
deployment that was asked for, as far as the engine lets it. -/
theorem Setup.rollback_ends (setup : Setup (Watched W)) {engine : Engine W}
    {containers : W → Containers} (isMap : engine.IsMap containers)
    (spares : engine.NeverBlamesUser)
    (aside : (setup.planner engine.watched).Keeps fun s => (containers s.world, s.own))
    {options : Restoration} {s between read after : Watched W} {requests : List CreateRequest}
    {history : History} {result : Except Error Answer}
    (planned : (setup.captures engine.watched (.rollback options)).on s = (.ok requests, between))
    (told : (engine.watched.carriedHistory (requests.map CreateRequest.name)).on between =
      (.ok history, read))
    (run : (setup.perform (.rollback options) engine.watched).on s = (result, after)) :
    options.Ends setup engine containers history s read result after := by
  obtain ⟨sameContainers, sameOwn⟩ :=
    Prod.mk.inj ((setup.captures_keeps aside _).of_on planned)
  have refused : ∀ e, e.isUsersFault = true →
      (result = .error e ↔ history.restoration options.index = .error e) :=
    fun _ => rollback_eq_error_iff planned told run spares.watched
  constructor
  case position =>
    intro index chosen
    exact History.exists_get?_of_rollbackPosition chosen
  case noPrevious =>
    rw [refused _ rfl]
    exact History.restoration_eq_noPrevious_iff
  case invalid =>
    intro enough text given shown
    rw [refused _ rfl, given]
    exact (History.restoration_selects enough text).invalid_iff shown
  case outOfRange =>
    intro enough text given value
    rw [refused _ rfl, given]
    exact (History.restoration_selects enough text).outOfRange_iff value
  case restores =>
    intro enough text given number denotes positive small
    obtain ⟨target, found, granted⟩ :=
      (History.restoration_selects enough text).of_denotes denotes positive small
    rw [← given] at granted
    refine ⟨target, found, fun faultless => ?_⟩
    have restored :=
      rollback_remakes planned told run isMap.watched faultless.watched granted
    rwa [Nat.sub_add_cancel positive, sameContainers] at restored
  case harmless =>
    intro e failed blamed
    obtain ⟨xs, calls, reads⟩ := Engine.carriedHistory_cases told
    have asks : ∀ x ∈ xs, x.changes = false ∧ x.isBuild = false := by
      intro x member
      obtain ⟨_, _, rfl⟩ := reads.inspects x member
      exact ⟨rfl, rfl⟩
    obtain rfl : after = read :=
      (rollback_refused planned told run ((refused e blamed).mp failed)).2
    refine ⟨rfl, ?_, xs, ?_, fun x member => (asks x member).1⟩
    · rw [← sameContainers]
      exact isMap.watched.askingIsHarmless.calls calls fun x member => (asks x member).1
    · rw [calls.own fun x member => (asks x member).2, sameOwn]

namespace Shop

/-- Rolls the shop back to its first deployment, whose number is given with
blanks, a sign and a zero in front. -/
def spelledOut : Restoration :=
  ⟨⟨none, none⟩, some " +01\t", false⟩

/-- The shop that has given up one of its two services, before any call. -/
def quiet : Watched World :=
  ⟨beside shrunk, []⟩

theorem denotes_one : Text.Numeral.Denotes (Text.trim " +01\t").toList (1 : Nat) :=
  Text.Numeral.signed_eq_ok_iff.mp (by decide +kernel)

end Shop

theorem Setup.rollback_ends_shop :
    ∃ between read result after,
      (((Shop.deployOf ["shop_web_1"]).setup (some 2)).captures Shop.engine.watched
          (.rollback Shop.spelledOut)).on Shop.quiet =
            (.ok (["shop_web_1"].map Shop.request), between) ∧
        (Shop.engine.watched.carriedHistory ((["shop_web_1"].map Shop.request).map
          CreateRequest.name)).on between = (.ok Shop.shrunk, read) ∧
        (((Shop.deployOf ["shop_web_1"]).setup (some 2)).perform (.rollback Shop.spelledOut)
          Shop.engine.watched).on Shop.quiet = (result, after) ∧
        Shop.spelledOut.Ends ((Shop.deployOf ["shop_web_1"]).setup (some 2)) Shop.engine
          Shop.containers Shop.shrunk Shop.quiet read result after ∧
        result = .ok (.plain "Successfully rolled back to deployment: 1") := by
  obtain ⟨read, told, _⟩ := Engine.carriedHistory_on Shop.isMap.watched
    Shop.isFaultless.watched ((["shop_web_1"].map Shop.request).map CreateRequest.name) Shop.quiet
  have remembered : (Shop.containers Shop.quiet.world).carried
      ((["shop_web_1"].map Shop.request).map CreateRequest.name) = .ok Shop.shrunk :=
    Shop.back_finds.read (Shop.containers_beside Shop.shrunk)
  rw [remembered] at told
  rcases run : (((Shop.deployOf ["shop_web_1"]).setup (some 2)).perform
    (.rollback Shop.spelledOut) Shop.engine.watched).on Shop.quiet with ⟨result, after⟩
  have planned : (((Shop.deployOf ["shop_web_1"]).setup (some 2)).captures Shop.engine.watched
      (.rollback Shop.spelledOut)).on Shop.quiet =
        (.ok (["shop_web_1"].map Shop.request), Shop.quiet) := rfl
  have ends := Setup.rollback_ends ((Shop.deployOf ["shop_web_1"]).setup (some 2)) Shop.isMap
    (ModelEngine.neverBlamesUser _ _) (Shop.deployOf_staysAside _) planned told run
  obtain ⟨_, _, restored⟩ := ends.restores (by decide) _ rfl 1 Shop.denotes_one (by decide)
    (by decide)
  exact ⟨Shop.quiet, read, result, after, planned, told, rfl, ends, (restored Shop.isFaultless).1⟩

end ComposeDeploy
