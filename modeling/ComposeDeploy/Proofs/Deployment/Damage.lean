import ComposeDeploy.Proofs.Deployment.Aftermath
import ComposeDeploy.Proofs.Deployment.Reach
import ComposeDeploy.Proofs.Json.Endings

/-!
A damaged label stops an action.

Only a blank label and an empty array are read as the empty history, so nothing
else can restart it (`History.ofLabelText_eq_empty_iff`). A label that has been
cut off is refused wherever the cut falls, since the bracket that ends it closes
nothing that a shorter text has opened (`History.ofLabelText_cut`). An action
that meets a refused label fails and changes no container
(`Setup.stopped`).
-/

namespace ComposeDeploy

/-! ### Labels of the empty history -/

theorem Text.isBlank_of_isSpace {c : Char} (space : Json.isSpace c = true) :
    isBlank c = true := by
  simp only [Json.isSpace, Bool.or_eq_true, beq_iff_eq] at space
  rcases space with ((rfl | rfl) | rfl) | rfl <;> rfl

/-- Of the texts that write the empty array only the array itself neither begins
nor ends with a blank. -/
theorem Json.scan?_trim_eq_empty_iff {s : String} :
    scan? (Text.trim s).toList = some (.arr []) ↔ IsEmptyArray (Text.trim s).toList := by
  rw [scan?_eq_empty_iff]
  constructor
  · rintro ⟨before, array, behind, outside, isEmpty, after, whole⟩
    obtain rfl : before = [] := by
      cases before with
      | nil => rfl
      | cons c _ =>
        have visible := Text.not_isBlank_head_trim (congrArg List.head? whole)
        rw [Text.isBlank_of_isSpace (outside c List.mem_cons_self)] at visible
        cases visible
    obtain rfl | ⟨rest, c, rfl⟩ := List.eq_nil_or_concat' behind
    · rwa [whole, List.nil_append, List.append_nil]
    · have visible := Text.not_isBlank_last_trim (c := c) (by rw [whole]; simp)
      rw [Text.isBlank_of_isSpace (after c (by simp))] at visible
      cases visible
  · intro isEmpty
    exact ⟨[], _, [], List.forall_mem_nil _, isEmpty, List.forall_mem_nil _, by simp⟩

namespace History

theorem ofJson?_eq_empty_iff {j : Json} : ofJson? j = some .empty ↔ j = .arr [] := by
  constructor
  · intro read
    cases j with
    | arr items =>
      cases items with
      | nil => rfl
      | cons item rest =>
        obtain ⟨entries, decoded, same⟩ := Option.bind_eq_some_iff.mp read
        rw [List.mapM_cons] at decoded
        obtain ⟨entry, _, decoded⟩ := Option.bind_eq_some_iff.mp decoded
        obtain ⟨others, _, both⟩ := Option.bind_eq_some_iff.mp decoded
        cases both
        cases same
    | _ => cases read
  · rintro rfl
    rfl

/-- A label is read as the empty history if it is blank or an empty array, and
only then. -/
theorem ofLabelText_eq_empty_iff {s : String} :
    ofLabelText (some s) = .ok .empty ↔
      (∀ c ∈ s.toList, Text.isBlank c = true) ∨ Json.IsEmptyArray (Text.trim s).toList := by
  rw [← Text.trim_eq_empty_iff, ← Json.scan?_trim_eq_empty_iff]
  simp only [ofLabelText, Option.map_some]
  by_cases blank : Text.trim s = ""
  · simp [blank]
  · rw [if_neg blank]
    cases scanned : Json.scan? (Text.trim s).toList with
    | none => simp [blank]
    | some j =>
      rw [Option.bind_some, Option.some_inj, ← ofJson?_eq_empty_iff]
      cases ofJson? j <;> simp [blank]

/-! ### Labels that are cut off -/

/-- What is left of a label that is cut off: something, but not all. -/
structure IsCut (history : History) (label : String) : Prop where
  left : label ≠ ""
  cut : label ≠ history.labelText
  beginning : label.toList <+: history.labelText.toList

theorem labelText_ends (history : History) :
    ∃ cs, history.labelText.toList = '[' :: (cs ++ [']']) := by
  rw [labelText, Json.render, String.toList_ofList]
  exact Json.write_arr_ends _

/-- Blanks are trimmed from the end of a cut label, and the rest is cut, too. -/
theorem IsCut.trimmed {history : History} {label : String} (isCut : history.IsCut label) :
    ∃ more, Text.trim label ≠ "" ∧
      history.labelText.toList = (Text.trim label).toList ++ (more ++ [']']) := by
  obtain ⟨cs, ends⟩ := history.labelText_ends
  obtain ⟨rest, whole⟩ := isCut.beginning
  obtain ⟨others, opened⟩ : ∃ others, label.toList = '[' :: others := by
    cases cut : label.toList with
    | nil => exact absurd (String.toList_eq_nil_iff.mp cut) isCut.left
    | cons c others =>
      rw [cut, ends] at whole
      exact ⟨others, by rw [(List.cons.inj whole).1]⟩
  obtain ⟨blanks, kept, _⟩ := Text.exists_trimEnd label.toList
  have trimmed : (Text.trim label).toList = Text.trimEnd label.toList := by
    rw [Text.toList_trim, opened, Text.trimStart_of_head (by decide)]
  obtain rfl | ⟨more, last, rfl⟩ := List.eq_nil_or_concat' rest
  · rw [List.append_nil] at whole
    exact absurd (String.toList_inj.mp whole) isCut.cut
  · have sameEnd : (label.toList ++ more) ++ [last] = ('[' :: cs) ++ [']'] := by
      rw [List.append_assoc, whole, ends, List.cons_append]
    cases (List.append_inj' sameEnd rfl).2
    refine ⟨blanks ++ more, ?_, ?_⟩
    · intro blank
      have bracket := Text.trim_eq_empty_iff.mp blank '[' (by rw [opened]; exact List.mem_cons_self)
      cases bracket
    · rw [← whole, trimmed, List.append_assoc, ← List.append_assoc _ blanks, ← kept]

/-- A label that is cut off is refused. -/
theorem ofLabelText_cut {history : History} {label : String} (isCut : history.IsCut label) :
    ofLabelText (some label) = .error unreadable := by
  obtain ⟨more, visible, whole⟩ := isCut.trimmed
  have accepted : Json.scan? ((Text.trim label).toList ++ (more ++ [']'])) ≠ none := by
    rw [← whole, history.scan?_labelText]
    exact Option.some_ne_none _
  have refused := Json.scan?_eq_none_of_closed (by decide) accepted
  simp only [ofLabelText, Option.map_some, if_neg visible, refused, Option.bind_none]

end History

/-! ### Actions that meet a refused label -/

/-- Whether an action reads the history. -/
def Action.readsHistory : Action → Bool
  | .deploy _ | .rollback _ | .list _ => true
  | .verify | .teardown _ => false

section Actions

variable {W : Type} {engine : Engine W} {containers : W → Containers}
  (isMap : engine.IsMap containers) {setup : Setup W}
  (aside : (setup.planner engine).Keeps containers) {w after between : W}
  {result : Except Error Answer} {requests : List CreateRequest} {e : Error}
include isMap aside

theorem Setup.change_stopped (change : Change)
    (planned : (setup.captures engine change.action).on w = (.ok requests, between))
    (refused : (containers w).carried (requests.map CreateRequest.name) = .error e)
    (run : (setup.perform change.action engine).on w = (result, after)) :
    (∃ e, result = .error e) ∧ containers after = containers w := by
  let call : Call W := ⟨setup.planner, setup.now, change⟩
  have run : (call.perform setup.historyLimit engine).on w = (result, after) := run
  have planned : (call.plan engine).on w = (.ok requests, between) := by
    cases change <;> exact planned
  obtain ⟨captured, _, _, planned', _, _, left⟩ := Call.leaves isMap aside run
  rcases left with ⟨e, failed, _, _, unchanged⟩ | ⟨_, _, _, _, rfl, resolves, read, _⟩
  · exact ⟨⟨e, failed⟩, unchanged⟩
  · rw [planned] at planned'
    cases planned'
    rw [resolves.complete.2, refused] at read
    cases read

theorem Setup.list_stopped {flags : UpFlags}
    (planned : (setup.captures engine (.list flags)).on w = (.ok requests, between))
    (refused : (containers w).carried (requests.map CreateRequest.name) = .error e)
    (run : (setup.perform (.list flags) engine).on w = (result, after)) :
    (∃ e, result = .error e) ∧ containers after = containers w := by
  have planned : ((setup.planner engine).collect flags true).on w = (.ok requests, between) :=
    planned
  have kept : containers between = containers w := by
    have same := aside.collect flags true w
    rwa [planned] at same
  have unread : ∀ {read : Except Error History},
      (engine.carriedHistory (requests.map CreateRequest.name)).on between = (read, after) →
      (∃ e, read = .error e) ∧ containers after = containers w := by
    intro read asked
    obtain ⟨xs, calls, reads⟩ := Engine.carriedHistory_cases asked
    have harmless : ∀ x ∈ xs, x.changes = false := by
      intro x member
      obtain ⟨_, _, rfl⟩ := reads.inspects x member
      rfl
    refine ⟨?_, (isMap.askingIsHarmless.calls calls harmless).trans kept⟩
    cases read with
    | error e => exact ⟨e, rfl⟩
    | ok history =>
      have told := (reads.of_map isMap calls (reads.orderly.all rfl)).1
      rw [kept, refused] at told
      cases told
  rcases Act.bind_cases run with ⟨e, failed, _⟩ | ⟨_, _, captured, rest⟩
  · rw [planned] at failed
    cases failed
  · rw [planned] at captured
    cases captured
    rcases Act.bind_cases rest with ⟨e, asked, rfl⟩ | ⟨history, _, asked, answered⟩
    · exact ⟨⟨e, rfl⟩, (unread asked).2⟩
    · cases answered
      obtain ⟨⟨_, failed⟩, _⟩ := unread asked
      cases failed

/-- An action that reads a refused label fails and changes no container. -/
theorem Setup.stopped {action : Action} (reads : action.readsHistory = true)
    (planned : (setup.captures engine action).on w = (.ok requests, between))
    (refused : (containers w).carried (requests.map CreateRequest.name) = .error e) :
    ∃ e, ((setup.perform action engine).on w).1 = .error e ∧
      containers ((setup.perform action engine).on w).2 = containers w := by
  rcases run : (setup.perform action engine).on w with ⟨result, after⟩
  have stopped : (∃ e, result = .error e) ∧ containers after = containers w := by
    cases action with
    | verify => cases reads
    | teardown flags => cases reads
    | deploy options =>
      exact Setup.change_stopped isMap aside (.deploy options) planned refused run
    | rollback options =>
      exact Setup.change_stopped isMap aside (.rollback options) planned refused run
    | list flags => exact Setup.list_stopped isMap aside planned refused run
  obtain ⟨⟨e, failed⟩, unchanged⟩ := stopped
  exact ⟨e, failed, unchanged⟩

end Actions

/-- Of all labels only a blank one and an empty array are read as the empty
history. A label that has been cut off is refused, and an action whose first
existing container carries it fails and changes no container. -/
theorem History.damage_is_noticed :
    (∀ label : String, ofLabelText (some label) = .ok .empty ↔
      (∀ c ∈ label.toList, Text.isBlank c = true) ∨
        Json.IsEmptyArray (Text.trim label).toList) ∧
    (∀ (history : History) (label : String), history.IsCut label →
      ofLabelText (some label) = .error unreadable) ∧
    ∀ (W : Type) (engine : Engine W) (containers : W → Containers), engine.IsMap containers →
      ∀ (setup : Setup W) (action : Action), action.readsHistory = true →
      (setup.planner engine).Keeps containers →
      ∀ (w between : W) (requests : List CreateRequest),
      (setup.captures engine action).on w = (.ok requests, between) →
      ∀ (name : String) (configuration : Configuration),
      (containers w).first? (requests.map CreateRequest.name) = some (name, configuration) →
      ∀ (history : History) (label : String),
      configuration.label? historyLabel = some label → history.IsCut label →
      ∃ e, ((setup.perform action engine).on w).1 = .error e ∧
        containers ((setup.perform action engine).on w).2 = containers w := by
  refine ⟨fun _ => ofLabelText_eq_empty_iff, fun _ _ isCut => ofLabelText_cut isCut, ?_⟩
  intro W engine containers isMap setup action reads aside w between requests planned name
    configuration first history label carried isCut
  have refused : (containers w).carried (requests.map CreateRequest.name) = .error unreadable := by
    simp only [Containers.carried, first, Configuration.history, carried, ofLabelText_cut isCut]
  exact Setup.stopped isMap aside reads planned refused

/-- A label of one deployment that is cut off within the name of a field, on the
container of a small shop. -/
theorem History.damage_is_noticed_in_shop :
    let history : History := ⟨[⟨[], "2015-05-01T10:00:00Z", "first"⟩]⟩
    let label := "[\x7b\"Services\":[],\"Depl"
    let w : Shop.World :=
      (.ofList [("shop_web_1", some (Configuration.empty.withLabel historyLabel label))], .empty)
    let deploy := (Shop.call (Shop.deploy "second")).perform none Shop.engine
    history.IsCut label ∧
      ∃ e, (deploy.on w).1 = .error e ∧ Shop.containers (deploy.on w).2 = Shop.containers w := by
  intro history label w deploy
  have isCut : history.IsCut label :=
    ⟨by decide, by decide +kernel, by decide +kernel⟩
  exact ⟨isCut, History.damage_is_noticed.2.2 _ Shop.engine Shop.containers Shop.isMap
    ((Shop.call (Shop.deploy "second")).setup none) (Shop.deploy "second").action rfl
    (Planner.reporting_keeps _) w w _ rfl "shop_web_1" _ rfl history label (by decide +kernel)
    isCut⟩

end ComposeDeploy
