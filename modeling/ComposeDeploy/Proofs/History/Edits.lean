import ComposeDeploy.Proofs.History.Retention
import Mathlib.Data.List.Induction

/-!
What a sequence of edits leaves of a history.

An edit pushes a deployment, with a limit of its own or without one, or keeps only
the newest deployments. Each edit first appends what it pushes and then drops the
oldest entries alone (`History.entries_edited`), so whatever the edits and their
limits are, the end of the whole record is left, and how much of it follows from the
lengths alone (`History.edits_keepNewest`).
-/

namespace ComposeDeploy.History

/-- One edit of a history. -/
inductive Edit where
  /-- A new active deployment, and the history cut to the limit if there is one. -/
  | push (manifest : Manifest) (limit : Option Nat)
  /-- Only the newest deployments stay. -/
  | keepNewest (limit : Nat)
  deriving DecidableEq

namespace Edit

/-- The deployment that an edit pushes. -/
def pushed? : Edit → Option Manifest
  | .push manifest _ => some manifest
  | .keepNewest _ => none

/-- The number of entries that an edit leaves at most. -/
def limit? : Edit → Option Nat
  | .push _ limit => limit
  | .keepNewest limit => some limit

/-- The number of entries after an edit, from the number before it. -/
def lengthAfter (length : Nat) : Edit → Nat
  | .push _ none => length + 1
  | .push _ (some limit) => min (length + 1) limit
  | .keepNewest limit => min length limit

end Edit

/-- The history after one edit. -/
def edited (history : History) : Edit → History
  | .push manifest limit => history.push manifest limit
  | .keepNewest limit => history.keepNewest limit

/-- The history after a sequence of edits. -/
def editedBy (history : History) (edits : List Edit) : History :=
  edits.foldl edited history

/-! ### One edit -/

/-- An edit appends what it pushes and then drops the oldest entries. -/
theorem entries_edited (history : History) (edit : Edit) :
    (history.edited edit).entries =
      newestOf edit.limit? (history.entries ++ edit.pushed?.toList) := by
  cases edit with
  | push manifest limit => exact entries_push history manifest limit
  | keepNewest limit =>
    rw [Edit.pushed?, Option.toList_none, List.append_nil]
    exact entries_keepNewest history limit

theorem length_edited (history : History) (edit : Edit) :
    (history.edited edit).length = edit.lengthAfter history.length := by
  cases edit with
  | push manifest limit =>
    cases limit with
    | none => exact length_push_none history manifest
    | some limit => exact length_push_some history manifest limit
  | keepNewest limit => exact length_keepNewest history limit

/-! ### Sequences of edits -/

/-- What a sequence of edits leaves of a history. -/
structure KeepsNewest (history : History) (edits : List Edit) : Prop where
  /-- The entries are the end of those that were there and those that were pushed. -/
  suffix : (history.editedBy edits).entries <:+
    history.entries ++ edits.filterMap Edit.pushed?
  /-- Each edit changes their number by its own rule. -/
  length : (history.editedBy edits).length = edits.foldl Edit.lengthAfter history.length

theorem keepsNewest (history : History) (edits : List Edit) : history.KeepsNewest edits := by
  induction edits generalizing history with
  | nil =>
    refine ⟨?_, rfl⟩
    rw [List.filterMap_nil, List.append_nil]
    exact List.suffix_rfl
  | cons edit edits ih =>
    have rest := ih (history.edited edit)
    constructor
    · -- What the first edit drops is dropped from the front of the whole record.
      have first : (history.edited edit).entries <:+
          history.entries ++ edit.pushed?.toList := by
        rw [entries_edited]
        exact newestOf_suffix _ _
      have whole : history.entries ++ (edit :: edits).filterMap Edit.pushed? =
          history.entries ++ edit.pushed?.toList ++ edits.filterMap Edit.pushed? := by
        cases edit with
        | push manifest limit => simp [Edit.pushed?]
        | keepNewest limit => simp [List.filterMap_cons, Edit.pushed?]
      rw [whole]
      exact rest.suffix.trans (List.suffix_append_self_iff.mpr first)
    · show ((history.edited edit).editedBy edits).length = _
      rw [rest.length, length_edited]
      rfl

/-- Under one limit, a history that starts empty grows up to the limit. -/
theorem length_pushes (manifests : List Manifest) (limit : Nat) :
    (manifests.map (Edit.push · (some limit))).foldl Edit.lengthAfter empty.length =
      min manifests.length limit := by
  induction manifests using List.reverseRecOn with
  | nil => exact (Nat.zero_min limit).symm
  | append_singleton manifests manifest ih =>
    rw [List.map_append, List.foldl_append, ih, List.length_append]
    have next : min (min manifests.length limit + 1) limit = min (manifests.length + 1) limit := by
      omega
    exact next

/-- Whatever a history is pushed and cut, it stays the end of its whole record: an edit
changes the length by its own rule alone, and under one limit just the newest
deployments are remembered. -/
theorem edits_keepNewest :
    (∀ (history : History) (edits : List Edit), history.KeepsNewest edits) ∧
    (∀ (history : History) (manifest : Manifest),
      (history.push manifest none).length = history.length + 1) ∧
    (∀ (history : History) (manifest : Manifest) (limit : Nat),
      (history.push manifest (some limit)).length = min (history.length + 1) limit) ∧
    (∀ (history : History) (limit : Nat),
      (history.keepNewest limit).length = min history.length limit) ∧
    ∀ (manifests : List Manifest) (limit : Nat),
      (empty.editedBy (manifests.map (Edit.push · (some limit)))).entries =
        newestOf (some (min manifests.length limit)) manifests := by
  refine ⟨keepsNewest, length_push_none, length_push_some, length_keepNewest, ?_⟩
  intro manifests limit
  have kept := empty.keepsNewest (manifests.map (Edit.push · (some limit)))
  have pushed : (manifests.map (Edit.push · (some limit))).filterMap Edit.pushed? = manifests := by
    rw [List.filterMap_map]
    exact List.filterMap_some
  have suffix := kept.suffix
  rw [pushed] at suffix
  rw [← length_pushes, ← kept.length]
  exact eq_newestOf_of_suffix suffix

/-- A limit that is raised brings back nothing that a lower one has dropped. -/
example :
    let made (time : String) : Manifest := ⟨[], time, ""⟩
    (empty.editedBy [.push (made "1") none, .push (made "2") (some 1),
      .push (made "3") (some 5), .push (made "4") (some 2)]).entries =
        [made "3", made "4"] := by
  decide

end ComposeDeploy.History
