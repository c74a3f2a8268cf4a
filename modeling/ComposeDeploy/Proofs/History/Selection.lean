import ComposeDeploy.Proofs.History.Retention
import ComposeDeploy.Proofs.Text.Numerals

/-!
Which deployment a rollback selects.

A history of fewer than two deployments has none to go back to, whatever is asked
for. In a longer one the text that is asked for denotes no number, or one that no
deployment has, or the number of a deployment, which is then found
(`History.Selects`, `History.restoration_selects`). Each of the three refusals
comes up for one reason alone.
-/

namespace ComposeDeploy.History

open Text.Numeral (Denotes)

variable {history : History}

/-- What a history of at least two deployments says to a text that asks for one
of them. -/
inductive Selects (history : History) (text : String) : Except Error (Nat × Manifest) → Prop where
  | unreadable : (∀ value, ¬ Denotes (Text.trim text).toList value) →
      Selects history text (.error (.invalidRollbackIndex text))
  | outOfRange {value : Int} : Denotes (Text.trim text).toList value →
      (value < 1 ∨ (history.length : Int) < value) →
      Selects history text (.error (.rollbackIndexOutOfRange value))
  | found {number : Nat} {target : Manifest} : Denotes (Text.trim text).toList number →
      1 ≤ number → number ≤ history.length → history.get? (number - 1) = some target →
      Selects history text (.ok (number - 1, target))

theorem exists_get? {index : Nat} (small : index < history.length) :
    ∃ target, history.get? index = some target :=
  ⟨_, List.getElem?_eq_getElem small⟩

/-- A position that is chosen is one of the history, so what stands there is
found. -/
theorem exists_get?_of_rollbackPosition {requested : Option String} {index : Nat}
    (chosen : history.rollbackPosition requested = .ok index) :
    ∃ target, history.get? index = some target := by
  apply exists_get?
  unfold rollbackPosition at chosen
  cases requested with
  | none =>
    by_cases enough : 2 ≤ history.length
    · rw [if_pos enough] at chosen
      cases chosen
      omega
    · rw [if_neg enough] at chosen
      cases chosen
  | some text =>
    cases read : Text.Numeral.signed (Text.trim text).toList with
    | error problem =>
      simp only [read] at chosen
      cases chosen
    | ok position =>
      simp only [read] at chosen
      split at chosen
      · cases chosen
      · cases chosen
        omega

theorem restoration_selects (enough : 2 ≤ history.length) (text : String) :
    history.Selects text (history.restoration (some text)) := by
  have long : ¬ history.length < 2 := by omega
  simp only [restoration, if_neg long, rollbackPosition]
  cases read : Text.Numeral.signed (Text.trim text).toList with
  | error problem =>
    refine .unreadable fun value denotes => ?_
    rw [Text.Numeral.signed_eq_ok_iff.mpr denotes] at read
    cases read
  | ok value =>
    have denotes := Text.Numeral.signed_eq_ok_iff.mp read
    by_cases outside : value < 1 ∨ (history.length : Int) < value
    · simp only [if_pos outside]
      exact .outOfRange denotes outside
    · obtain ⟨number, rfl⟩ := Int.eq_ofNat_of_zero_le (a := value) (by omega)
      obtain ⟨target, found⟩ := exists_get? (show number - 1 < history.length by omega)
      simp only [if_neg outside, Int.toNat_natCast, found]
      exact .found denotes (by omega) (by omega) found

namespace Selects

variable {text : String} {result : Except Error (Nat × Manifest)}

/-- A text is called no number just if it denotes none, and it is told as it
was given. -/
theorem invalid_iff (selects : history.Selects text result) (told : String) :
    result = .error (.invalidRollbackIndex told) ↔
      told = text ∧ ∀ value, ¬ Denotes (Text.trim text).toList value := by
  cases selects with
  | unreadable nothing =>
    constructor
    · rintro ⟨rfl⟩
      exact ⟨rfl, nothing⟩
    · rintro ⟨rfl, _⟩
      rfl
  | outOfRange denotes => exact ⟨nofun, fun ⟨_, nothing⟩ => absurd denotes (nothing _)⟩
  | found denotes => exact ⟨nofun, fun ⟨_, nothing⟩ => absurd denotes (nothing _)⟩

/-- A number is called out of range just if it is the one that was asked for and
no deployment has it. -/
theorem outOfRange_iff (selects : history.Selects text result) (value : Int) :
    result = .error (.rollbackIndexOutOfRange value) ↔
      Denotes (Text.trim text).toList value ∧ (value < 1 ∨ (history.length : Int) < value) := by
  cases selects with
  | unreadable nothing => exact ⟨nofun, fun ⟨denotes, _⟩ => absurd denotes (nothing _)⟩
  | outOfRange denotes outside =>
    constructor
    · rintro ⟨rfl⟩
      exact ⟨denotes, outside⟩
    · rintro ⟨denotes', _⟩
      rw [denotes.unique denotes']
  | found denotes positive small =>
    refine ⟨nofun, ?_⟩
    rintro ⟨denotes', outside⟩
    cases denotes.unique denotes'
    omega

/-- The deployment of a number is found under that number. -/
theorem of_denotes (selects : history.Selects text result) {number : Nat}
    (denotes : Denotes (Text.trim text).toList number) (positive : 1 ≤ number)
    (small : number ≤ history.length) :
    ∃ target, history.get? (number - 1) = some target ∧ result = .ok (number - 1, target) := by
  cases selects with
  | unreadable nothing => exact absurd denotes (nothing _)
  | outOfRange denotes' outside =>
    cases denotes.unique denotes'
    omega
  | found denotes' _ _ found =>
    have same := denotes.unique denotes'
    obtain rfl : number = _ := Int.ofNat_inj.mp same
    exact ⟨_, found, rfl⟩

end Selects

/-- Without a request the deployment before the active one is found. -/
theorem restoration_none_eq_ok (enough : 2 ≤ history.length) :
    ∃ target, history.restoration none = .ok (history.length - 2, target) := by
  have long : ¬ history.length < 2 := by omega
  have chosen : history.rollbackPosition none = .ok (history.length - 2) := if_pos enough
  obtain ⟨target, found⟩ := exists_get?_of_rollbackPosition chosen
  exact ⟨target, by simp only [restoration, if_neg long, chosen, found]⟩

/-- There is said to be no earlier deployment just if there are fewer than two,
whatever is asked for. -/
theorem restoration_eq_noPrevious_iff {requested : Option String} :
    history.restoration requested = .error .noPreviousDeployment ↔ history.length < 2 := by
  constructor
  · intro refused
    by_contra long
    have enough : 2 ≤ history.length := Nat.le_of_not_lt long
    cases requested with
    | none =>
      obtain ⟨target, restored⟩ := restoration_none_eq_ok enough
      rw [restored] at refused
      cases refused
    | some text =>
      have selects := restoration_selects enough text
      rw [refused] at selects
      cases selects
  · exact fun short => if_pos short

end ComposeDeploy.History
