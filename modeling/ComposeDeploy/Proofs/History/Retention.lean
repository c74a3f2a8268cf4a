import ComposeDeploy.History.Target
import Mathlib.Data.List.Forall2

/-!
What a history remembers.

`newestOf` keeps the newest entries of a list up to a limit; keeping the newest
of what was kept before forgets nothing that keeping them once would not
(`newestOf_append`). A history with a limit is the newest part of the history
without one.
-/

namespace ComposeDeploy

/-- The newest entries of a list, up to a limit if there is one. -/
def newestOf {α : Type} (limit : Option Nat) (entries : List α) : List α :=
  match limit with
  | none => entries
  | some limit => entries.drop (entries.length - limit)

section Newest

variable {α β : Type} {limit : Option Nat}

theorem newestOf_nil (limit : Option Nat) : newestOf limit ([] : List α) = [] := by
  cases limit with
  | none => rfl
  | some limit => exact List.drop_nil

theorem newestOf_suffix (limit : Option Nat) (entries : List α) :
    newestOf limit entries <:+ entries := by
  cases limit with
  | none => exact List.suffix_rfl
  | some limit => exact List.drop_suffix _ entries

/-- The end of a list is made of its newest entries. -/
theorem eq_newestOf_of_suffix {kept entries : List α} (suffix : kept <:+ entries) :
    kept = newestOf (some kept.length) entries :=
  List.suffix_iff_eq_drop.mp suffix

theorem mem_newestOf {entries : List α} {a : α} (member : a ∈ newestOf limit entries) :
    a ∈ entries :=
  (newestOf_suffix limit entries).mem member

theorem newestOf_append (limit : Option Nat) (entries : List α) (a : α) :
    newestOf limit (newestOf limit entries ++ [a]) = newestOf limit (entries ++ [a]) := by
  cases limit with
  | none => rfl
  | some limit =>
    have bound : entries.length - limit ≤ entries.length := Nat.sub_le ..
    simp only [newestOf]
    rw [← List.drop_append_of_le_length bound, List.drop_drop]
    simp only [List.length_drop, List.length_append, List.length_singleton]
    congr 1
    omega

/-- The newest entry is kept, and which others are does not depend on it. -/
theorem newestOf_concat (positive : limit ≠ some 0) (entries : List α) :
    ∃ earlier, ∀ a, newestOf limit (entries ++ [a]) = earlier ++ [a] := by
  cases limit with
  | none => exact ⟨entries, fun _ => rfl⟩
  | some limit =>
    have bound : entries.length + 1 - limit ≤ entries.length := by
      have : limit ≠ 0 := fun zero => positive (congrArg some zero)
      omega
    refine ⟨entries.drop (entries.length + 1 - limit), fun a => ?_⟩
    rw [newestOf, List.length_append, List.length_singleton,
      List.drop_append_of_le_length bound]

theorem getLast?_newestOf (positive : limit ≠ some 0) (entries : List α) (a : α) :
    (newestOf limit (entries ++ [a])).getLast? = some a := by
  obtain ⟨earlier, kept⟩ := newestOf_concat positive entries
  rw [kept]
  exact List.getLast?_concat

/-- Lists that agree entry by entry keep agreeing. -/
theorem forall₂_newestOf {R : α → β → Prop} {as : List α} {bs : List β}
    (agree : List.Forall₂ R as bs) : List.Forall₂ R (newestOf limit as) (newestOf limit bs) := by
  cases limit with
  | none => exact agree
  | some limit =>
    simp only [newestOf, agree.length_eq]
    exact List.forall₂_drop _ agree

end Newest

namespace History

variable {limit : Option Nat}

/-- The newest deployments of a history. -/
def newest (history : History) (limit : Option Nat) : History :=
  ⟨newestOf limit history.entries⟩

/-- The containers of the active deployment. -/
def activeNames (history : History) : List String :=
  (history.active?.map Manifest.containerNames).getD []

/-- The deployment to restore, with its position. -/
def restoration (history : History) (requested : Option String) : Except Error (Nat × Manifest) :=
  if history.length < 2 then .error .noPreviousDeployment
  else match history.rollbackPosition requested with
    | .error e => .error e
    | .ok index =>
      match history.get? index with
      | none => .error (.rollbackIndexOutOfRange (index + 1))
      | some target => .ok (index, target)

theorem entries_push (history : History) (manifest : Manifest) (limit : Option Nat) :
    (history.push manifest limit).entries = newestOf limit (history.entries ++ [manifest]) := by
  cases limit <;> rfl

theorem length_push_none (history : History) (manifest : Manifest) :
    (history.push manifest none).length = history.length + 1 :=
  List.length_append

theorem length_push_some (history : History) (manifest : Manifest) (limit : Nat) :
    (history.push manifest (some limit)).length = min (history.length + 1) limit := by
  show ((history.push manifest none).keepNewest limit).length = _
  rw [length_keepNewest, length_push_none]

theorem push_newest (history : History) (manifest : Manifest) (limit : Option Nat) :
    (history.newest limit).push manifest limit = (history.push manifest none).newest limit := by
  have entries : ((history.newest limit).push manifest limit).entries =
      ((history.push manifest none).newest limit).entries := by
    rw [entries_push]
    exact newestOf_append limit history.entries manifest
  exact congrArg mk entries

theorem active?_push (positive : limit ≠ some 0) (history : History) (manifest : Manifest) :
    (history.push manifest limit).active? = some manifest := by
  rw [active?, entries_push]
  exact getLast?_newestOf positive history.entries manifest

theorem active?_append (history : History) (manifest : Manifest) :
    (history.push manifest none).active? = some manifest :=
  List.getLast?_concat

theorem eq_empty_or_push (history : History) :
    history = .empty ∨ ∃ others manifest, history = push others manifest none := by
  obtain ⟨entries⟩ := history
  rcases List.eq_nil_or_concat' entries with rfl | ⟨others, last, rfl⟩
  · exact .inl rfl
  · exact .inr ⟨⟨others⟩, last, rfl⟩

theorem active?_eq_none {history : History} : history.active? = none ↔ history = .empty := by
  obtain ⟨entries⟩ := history
  constructor
  · intro inactive
    exact congrArg mk (List.getLast?_eq_none_iff.mp inactive)
  · rintro ⟨rfl⟩
    rfl

theorem newest_empty (limit : Option Nat) : empty.newest limit = empty :=
  congrArg mk (newestOf_nil limit)

theorem active?_newest (positive : limit ≠ some 0) (history : History) :
    (history.newest limit).active? = history.active? := by
  rcases history.eq_empty_or_push with rfl | ⟨others, manifest, rfl⟩
  · rw [newest_empty]
  · rw [← push_newest, active?_push positive, active?_append]

theorem activeNames_newest (positive : limit ≠ some 0) (history : History) :
    (history.newest limit).activeNames = history.activeNames := by
  rw [activeNames, active?_newest positive, activeNames]

theorem mem_activeNames {history : History} {name : String} :
    name ∈ history.activeNames ↔
      ∃ active, history.active? = some active ∧ name ∈ active.containerNames := by
  unfold activeNames
  cases history.active? with
  | none => simp
  | some active => simp

theorem activeNames_push (positive : limit ≠ some 0) (history : History) (manifest : Manifest) :
    (history.push manifest limit).activeNames = manifest.containerNames := by
  rw [activeNames, active?_push positive]
  rfl

/-- If nothing may be remembered, nothing is. -/
theorem push_zero (history : History) (manifest : Manifest) :
    history.push manifest (some 0) = .empty := by
  have entries : (history.push manifest (some 0)).entries = [] := by
    rw [entries_push]
    exact List.drop_length
  exact congrArg mk entries

/-- Only the pushed deployment can be active, whatever the limit is. -/
theorem mem_of_mem_activeNames_push {history : History} {manifest : Manifest} {name : String}
    (member : name ∈ (history.push manifest limit).activeNames) :
    name ∈ manifest.containerNames := by
  by_cases zero : limit = some 0
  · rw [zero, push_zero] at member
    cases member
  · rwa [activeNames_push zero] at member

theorem mem_of_active? {history : History} {active : Manifest}
    (isActive : history.active? = some active) : active ∈ history.entries :=
  List.mem_of_getLast? isActive

theorem mem_of_get? {history : History} {index : Nat} {manifest : Manifest}
    (found : history.get? index = some manifest) : manifest ∈ history.entries :=
  List.mem_of_getElem? found

/-- What is restored is the entry at the requested position. -/
theorem restoration_cases {history : History} {requested : Option String} {index : Nat}
    {target : Manifest} (restored : history.restoration requested = .ok (index, target)) :
    history.rollbackPosition requested = .ok index ∧ history.get? index = some target := by
  unfold restoration at restored
  split at restored
  · cases restored
  · split at restored
    · cases restored
    · next index chosen =>
      split at restored
      · cases restored
      · next found =>
        cases restored
        exact ⟨chosen, found⟩

end History

end ComposeDeploy
