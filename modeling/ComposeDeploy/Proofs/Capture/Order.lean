import ComposeDeploy.Proofs.Capture.Forwarding

/-!
Requests that come in another order.

A record that has got some marks says three things, each of them a count or a
list cut from the marks (`requests_markedAll`, `errors_markedAll`,
`inspections_markedAll`). When no build ends otherwise for the builds before it,
the marks are those of the requests one by one (`handleAll_record`), so that
another order of the requests leads to the same record but for its order
(`handleAll_anyOrder`).
-/

namespace ComposeDeploy.Capture

/-! ### Marks in another order -/

/-- Each mark that looks at an image counts once. -/
theorem Record.inspections_markedAll (record : Record) (marks : List Mark) (image : String) :
    (record.markedAll marks).inspections.get? image =
      if marks.count (.inspection image) = 0 then record.inspections.get? image
      else some ((record.inspections.get? image).getD 0 + marks.count (.inspection image)) := by
  unfold markedAll
  induction marks generalizing record with
  | nil => simp
  | cons mark rest ih =>
    rw [List.foldl_cons, ih]
    cases mark with
    | inspection other =>
      by_cases same : image = other
      · subst same
        simp only [marked, Dictionary.get?_insert, if_true, List.count_cons_self,
          Option.getD_some, Nat.succ_ne_zero, if_false]
        split
        · next none => rw [none]
        · rw [Nat.add_assoc, Nat.add_comm 1]
      · have apart : Mark.inspection other ≠ .inspection image :=
          fun equal => same (Mark.inspection.inj equal).symm
        simp only [marked, Dictionary.get?_insert, if_neg same, List.count_cons_of_ne apart]
    | nothing | creation | refusal =>
      rw [List.count_cons_of_ne Mark.noConfusion]
      rfl

/-- Two records tell the same, but for the order in which it came. -/
structure Record.IsShuffled (first second : Record) : Prop where
  requests : first.requests.Perm second.requests
  errors : first.errors.Perm second.errors
  inspections : ∀ image, first.inspections.get? image = second.inspections.get? image

theorem Record.isShuffled_markedAll (record : Record) {marks others : List Mark}
    (reordered : marks.Perm others) :
    (record.markedAll marks).IsShuffled (record.markedAll others) where
  requests := by
    rw [requests_markedAll, requests_markedAll]
    exact (reordered.filterMap _).append_left _
  errors := by
    rw [errors_markedAll, errors_markedAll]
    exact (reordered.filterMap _).append_left _
  inspections image := by
    rw [inspections_markedAll, inspections_markedAll, reordered.count_eq]

/-- Shuffled records are reported alike: as calls or as an error. -/
theorem Record.IsShuffled.captured {first second : Record} (shuffled : first.IsShuffled second) :
    first.captured.isOk = second.captured.isOk := by
  have none : first.errors.isEmpty = second.errors.isEmpty := by
    rw [Bool.eq_iff_iff, List.isEmpty_iff, List.isEmpty_iff]
    exact ⟨fun empty => (empty ▸ shuffled.errors).nil_eq.symm,
      fun empty => (empty ▸ shuffled.errors).eq_nil⟩
  unfold Record.captured
  rw [none]
  split <;> rfl

/-! ### Builds in another order -/

section Steady

variable {W : Type} (builder : Builder W)

/-- The worlds to which builds lead. -/
inductive Builder.Reaches (w : W) : W → Prop where
  | start : Reaches w w
  | step {v : W} (options : ImageBuild) (context : ByteArray) :
    Reaches w v → Reaches w ((builder options context).on v).2

/-- No build ends otherwise for the builds before it. -/
def Builder.IsSteady (w : W) : Prop :=
  ∀ v, builder.Reaches w v → ∀ options context,
    ((builder options context).on v).1 = ((builder options context).on w).1

variable {builder} {w v : W}

theorem Builder.Reaches.forward (reached : builder.Reaches w v) (skipBuilds : Bool)
    (request : Http.Request) :
    builder.Reaches w (Capture.forward builder skipBuilds request v).2 := by
  unfold Capture.forward
  split
  · exact reached
  · exact reached.step _ _

theorem Builder.IsSteady.forward (steady : builder.IsSteady w)
    (reached : builder.Reaches w v) (skipBuilds : Bool) (request : Http.Request) :
    (Capture.forward builder skipBuilds request v).1 =
      (Capture.forward builder skipBuilds request w).1 := by
  unfold Capture.forward
  split
  · rfl
  · exact steady v reached _ _

/-- When builds are steady, each request leaves a mark of its own. -/
theorem handleAll_record (steady : builder.IsSteady w) (skipBuilds : Bool) :
    ∃ mark : Http.Request → Mark, ∀ requests record v, builder.Reaches w v →
      (handleAll builder skipBuilds requests record v).record =
        record.markedAll (requests.map mark) := by
  choose mark left using fun request =>
    reaction_leavesMark skipBuilds request (forward builder skipBuilds request w).1
  refine ⟨mark, ?_⟩
  intro requests
  induction requests with
  | nil => exact fun _ _ _ => rfl
  | cons request rest ih =>
    intro record v reached
    have handled : (handle builder skipBuilds request record v).1.2 =
        record.marked (mark request) := by
      rw [handle_eq, steady.forward reached]
      exact left request record
    have onward : builder.Reaches w (handle builder skipBuilds request record v).2 := by
      rw [handle_eq]
      exact reached.forward skipBuilds request
    have others := ih (handle builder skipBuilds request record v).1.2 _ onward
    exact others.trans (congrArg (Record.markedAll · (rest.map mark)) handled)

end Steady

/-- In whatever order requests come in, the session captures the same calls,
remembers the same refusals and counts the same looks at images, and it reports
calls in one order exactly if it does in the other. -/
theorem handleAll_anyOrder {W : Type} {builder : Builder W} {w : W}
    (steady : builder.IsSteady w) (skipBuilds : Bool) (record : Record)
    {requests others : List Http.Request} (reordered : requests.Perm others) :
    (handleAll builder skipBuilds requests record w).record.IsShuffled
        (handleAll builder skipBuilds others record w).record ∧
      ∀ address running,
        (Server.mk address running (some ⟨skipBuilds,
          (handleAll builder skipBuilds requests record w).record⟩)).requests.isOk =
        (Server.mk address running (some ⟨skipBuilds,
          (handleAll builder skipBuilds others record w).record⟩)).requests.isOk := by
  obtain ⟨mark, marks⟩ := handleAll_record steady skipBuilds
  rw [marks requests record w .start, marks others record w .start]
  have shuffled := record.isShuffled_markedAll (reordered.map mark)
  exact ⟨shuffled, fun _ _ => shuffled.captured⟩

/-- An endpoint that counts its builds and refuses an empty context. -/
def countedBuilds : Builder Nat :=
  fun _ context => Act.of fun builds =>
    (if context.size = 0 then .error (.build "empty context") else .ok (), builds + 1)

theorem countedBuilds_isSteady (builds : Nat) : countedBuilds.IsSteady builds := by
  intro _ _ options context
  rfl

/-- The calls of an orchestrator that asks for an image, builds it from nothing
and creates two containers. -/
def parallelCalls : List Http.Request :=
  [.of "GET" "/v1.18/images/web/json" (.bytes .empty),
    .of "POST" "/v1.18/build?t=web" (.bytes .empty),
    .of "POST" "/v1.18/containers/create?name=web" (.bytes "\x7b\x7d".toUTF8),
    .of "POST" "/v1.18/containers/create?name=db" (.bytes "\x7b\x7d".toUTF8)]

/-- The last call comes first. -/
theorem handleAll_anyOrder_reversed :
    countedBuilds.IsSteady 0 ∧ parallelCalls.Perm parallelCalls.reverse ∧
      (handleAll countedBuilds false parallelCalls .empty 0).record.IsShuffled
        (handleAll countedBuilds false parallelCalls.reverse .empty 0).record ∧
      ∀ address running,
        (Server.mk address running (some ⟨false, (handleAll countedBuilds false
          parallelCalls .empty 0).record⟩)).requests.isOk =
        (Server.mk address running (some ⟨false, (handleAll countedBuilds false
          parallelCalls.reverse .empty 0).record⟩)).requests.isOk := by
  have steady := countedBuilds_isSteady 0
  have reordered := (List.reverse_perm parallelCalls).symm
  exact ⟨steady, reordered, handleAll_anyOrder steady false .empty reordered⟩

end ComposeDeploy.Capture
