import ComposeDeploy.History.Listing
import ComposeDeploy.History.Target
import ComposeDeploy.Proofs.Text.Numerals

/-!
The listing and the rollback agree on the numbers of the deployments.

The listing counts the entries from 1, turns them round and writes each number
down; a rollback trims what it is given, reads it as a numeral and counts from
0. `rollbackPosition_number` is the round trip of one number, `rows_getElem?` the
place at which an entry is shown, and `listing_names_entries` puts the two
together: the ID of a row restores the entry that the row shows.
-/

namespace ComposeDeploy

/-! ### What a row shows -/

/-- A message of at most 72 characters is shown whole. Of a longer one the first
72 are, without the blanks at their end, and three dots for the rest. -/
inductive ShownMessage (message : String) : String → Prop where
  | whole (short : message.length ≤ 72) : ShownMessage message message
  | cut (long : 72 < message.length) (kept blanks : List Char)
      (first : message.toList.take 72 = kept ++ blanks)
      (blank : ∀ c ∈ blanks, Text.isBlank c = true)
      (visible : ∀ c, kept.getLast? = some c → Text.isBlank c = false) :
      ShownMessage message (String.ofList kept ++ "...")

/-- The row is the one of this deployment, whatever its number. -/
structure ListingRow.Shows (row : ListingRow) (manifest : Manifest) : Prop where
  date : row.date = Timestamp.display manifest.madeAt
  services : row.services = ", ".intercalate (manifest.services.map Service.name)
  message : ShownMessage manifest.message row.message

theorem shownMessage_clipped (message : String) :
    ShownMessage message (clipped message longestMessage) := by
  unfold clipped
  simp only [String.length_toList]
  split
  · rename_i short
    exact .whole short
  · rename_i long
    obtain ⟨blanks, first, blank, visible⟩ :=
      Text.exists_trimEnd (message.toList.take longestMessage)
    rw [String.ofList_append]
    exact .cut (Nat.lt_of_not_le long) _ blanks first blank visible

namespace History

variable {history : History}

theorem shows_row (length index : Nat) (manifest : Manifest) :
    (row length index manifest).Shows manifest :=
  ⟨rfl, rfl, shownMessage_clipped manifest.message⟩

theorem showsActive_row {length index : Nat} {manifest : Manifest} :
    (row length index manifest).showsActive = true ↔ index + 1 = length := by
  unfold row ListingRow.showsActive
  split
  · rename_i newest
    simp [newest]
  · rename_i older
    simp [older, activeMark]

/-! ### The place of a row -/

theorem length_rows (history : History) : history.listing.rows.length = history.length := by
  simp [listing, length]

/-- Row `i` is the row of the entry that is `i` places before the newest. -/
theorem rows_getElem? {i : Nat} {shown : ListingRow}
    (found : history.listing.rows[i]? = some shown) :
    ∃ index manifest, index + i + 1 = history.length ∧ history.get? index = some manifest ∧
      shown = row history.length index manifest := by
  have inside : i < history.length := by
    rw [← length_rows history]
    exact (List.getElem?_eq_some_iff.mp found).1
  refine ⟨history.length - 1 - i, ?_⟩
  rw [listing, List.getElem?_reverse (by rwa [List.length_mapIdx]), List.getElem?_mapIdx,
    List.length_mapIdx, Option.map_eq_some_iff] at found
  obtain ⟨manifest, entry, shown⟩ := found
  exact ⟨manifest, by omega, entry, shown.symm⟩

/-! ### The number of a row -/

open Text.Numeral in
theorem toList_toString (n : Nat) : (toString n).toList = decimal n := by
  rw [Nat.toString_eq_repr, Nat.toList_repr, decimal]

/-- The number by which an entry is listed is read as the place of that entry. -/
theorem rollbackPosition_number {index : Nat} (inside : index < history.length)
    (short : history.length < Nat.pow 2 63) :
    history.rollbackPosition (some (toString (index + 1))) = .ok index := by
  have numeral := toList_toString (index + 1)
  have whole : Text.trim (toString (index + 1)) = toString (index + 1) := by
    apply Text.trim_of_visible
    intro c member
    rw [numeral] at member
    exact Text.Numeral.not_isBlank_of_isDigit (Text.Numeral.isDigit_of_mem_decimal member)
  have small : index + 1 < Text.Numeral.signedBound := Nat.lt_of_le_of_lt inside short
  have inRange : ¬ (((index + 1 : Nat) : Int) < 1 ∨
      (history.length : Int) < ((index + 1 : Nat) : Int)) := by omega
  simp only [rollbackPosition, whole, numeral, Text.Numeral.signed_decimal small, if_neg inRange,
    Int.toNat_natCast, Nat.add_sub_cancel]

/-- Naming no number restores the entry of the second row. -/
theorem rollbackPosition_none {index : Nat} (place : index + 1 + 1 = history.length) :
    history.rollbackPosition none = .ok index := by
  have several : 2 ≤ history.length := by omega
  have second : history.length - 2 = index := by omega
  rw [rollbackPosition, if_pos several, second]

/-! ### Listing and rollback -/

/-- A listing has one row for each entry, newest first, and marks the first row
alone. The ID of a row restores the entry that the row shows; without an ID the
entry of the second row is restored, if there is one. -/
theorem listing_names_entries (history : History) (short : history.length < Nat.pow 2 63) :
    history.listing.rows.length = history.length ∧
    (∀ i shown, history.listing.rows[i]? = some shown →
      (shown.showsActive = true ↔ i = 0) ∧
      ∃ index manifest, index + i + 1 = history.length ∧
        history.get? index = some manifest ∧ shown.Shows manifest ∧
        history.rollbackPosition (some shown.id) = .ok index ∧
        (i = 1 → history.rollbackPosition none = .ok index)) ∧
    (history.listing.rows[1]? = none →
      history.rollbackPosition none = .error .noPreviousDeployment) := by
  refine ⟨length_rows history, ?_, ?_⟩
  · intro i shown found
    obtain ⟨index, manifest, place, entry, rfl⟩ := rows_getElem? found
    refine ⟨?_, index, manifest, place, entry, shows_row _ _ _, ?_, ?_⟩
    · rw [showsActive_row]
      omega
    · exact rollbackPosition_number (by omega) short
    · rintro rfl
      exact rollbackPosition_none place
  · intro noSecond
    rw [List.getElem?_eq_none_iff, length_rows] at noSecond
    have single : ¬ 2 ≤ history.length := by omega
    rw [rollbackPosition, if_neg single]

/-- Of two deployments the older one has the number 1. -/
theorem listing_names_older_of_two :
    (⟨[⟨[], "2015-05-01T10:00:00Z", "older"⟩, ⟨[], "2015-05-02T10:00:00Z", "newer"⟩]⟩ :
      History).rollbackPosition (some "1") = .ok 0 := by
  obtain ⟨index, _, place, _, _, named, _⟩ :=
    ((listing_names_entries ⟨[⟨[], "2015-05-01T10:00:00Z", "older"⟩,
      ⟨[], "2015-05-02T10:00:00Z", "newer"⟩]⟩ (by decide)).2.1 1 _ rfl).2
  have first : index = 0 := Nat.add_right_cancel (m := 2) place
  exact first ▸ named

end History

end ComposeDeploy
