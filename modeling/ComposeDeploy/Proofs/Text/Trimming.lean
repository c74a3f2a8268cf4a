import ComposeDeploy.Text.Blank
import Mathlib.Data.List.TakeWhile

/-!
What trimming leaves of a text.

A text is cut into the blanks at its ends and what stands between them, which
neither begins nor ends with a blank (`exists_trimEnd`, `not_isBlank_head_trim`,
`not_isBlank_last_trim`), and this alone says what trimming leaves (`trim_eq_iff`). So
nothing is left of a blank text alone (`trim_eq_empty_iff`), and a text without blanks
at its ends is left whole (`trim_of_unblank`).
-/

namespace ComposeDeploy.Text

/-! ### Lists of characters -/

theorem not_isBlank_head_trimStart {cs : List Char} {c : Char}
    (first : (trimStart cs).head? = some c) : isBlank c = false := by
  have stopped := List.head?_dropWhile_not isBlank cs
  unfold trimStart at first
  rw [first] at stopped
  exact stopped

/-- Blanks are cut off the end, and no blank is left there. -/
theorem exists_trimEnd (cs : List Char) :
    ∃ blanks, cs = trimEnd cs ++ blanks ∧ (∀ c ∈ blanks, isBlank c = true) ∧
      ∀ c, (trimEnd cs).getLast? = some c → isBlank c = false := by
  refine ⟨(cs.reverse.takeWhile isBlank).reverse, ?_, ?_, ?_⟩
  · rw [trimEnd, ← List.reverse_append, List.takeWhile_append_dropWhile, List.reverse_reverse]
  · intro c member
    exact List.mem_takeWhile_imp (List.mem_reverse.mp member)
  · intro c last
    rw [trimEnd, List.getLast?_reverse] at last
    exact not_isBlank_head_trimStart last

theorem trimStart_eq_nil_iff {cs : List Char} :
    trimStart cs = [] ↔ ∀ c ∈ cs, isBlank c = true :=
  List.dropWhile_eq_nil_iff

theorem trimEnd_eq_nil_iff {cs : List Char} : trimEnd cs = [] ↔ ∀ c ∈ cs, isBlank c = true := by
  rw [trimEnd, List.reverse_eq_nil_iff, List.dropWhile_eq_nil_iff]
  simp only [List.mem_reverse]

theorem trimEnd_append (cs : List Char) {blanks : List Char}
    (blank : ∀ c ∈ blanks, isBlank c = true) : trimEnd (cs ++ blanks) = trimEnd cs := by
  rw [trimEnd, List.reverse_append, List.dropWhile_append_of_pos, trimEnd]
  exact fun c member => blank c (List.mem_reverse.mp member)

theorem trimStart_of_head {c : Char} (visible : isBlank c = false) (cs : List Char) :
    trimStart (c :: cs) = c :: cs :=
  List.dropWhile_cons_of_neg (by simp [visible])

/-! ### Texts -/

@[simp] theorem toList_trim (s : String) : (trim s).toList = trimEnd (trimStart s.toList) :=
  String.toList_ofList

/-- Only of a blank text nothing is left. -/
theorem trim_eq_empty_iff {s : String} : trim s = "" ↔ ∀ c ∈ s.toList, isBlank c = true := by
  rw [← String.toList_eq_nil_iff, toList_trim, trimEnd_eq_nil_iff]
  constructor
  · intro blank
    -- What is left in front begins with no blank, so it must be nothing.
    cases left : trimStart s.toList with
    | nil => exact trimStart_eq_nil_iff.mp left
    | cons c cs =>
      have visible := not_isBlank_head_trimStart (congrArg List.head? left)
      rw [blank c (left ▸ List.mem_cons_self)] at visible
      cases visible
  · intro blank
    rw [trimStart_eq_nil_iff.mpr blank]
    exact List.forall_mem_nil _

theorem not_isBlank_head_trim {s : String} {c : Char} (first : (trim s).toList.head? = some c) :
    isBlank c = false := by
  rw [toList_trim] at first
  obtain ⟨blanks, whole, _⟩ := exists_trimEnd (trimStart s.toList)
  have start : (trimStart s.toList).head? = some c := by
    rw [whole, List.head?_append, first, Option.some_or]
  exact not_isBlank_head_trimStart start

theorem not_isBlank_last_trim {s : String} {c : Char} (last : (trim s).toList.getLast? = some c) :
    isBlank c = false := by
  rw [toList_trim] at last
  obtain ⟨_, _, _, visible⟩ := exists_trimEnd (trimStart s.toList)
  exact visible c last

/-- Nothing is cut off a text that neither begins nor ends with a blank. -/
theorem trim_of_unblank {s : String} (start : ∀ c, s.toList.head? = some c → isBlank c = false)
    (stop : ∀ c, s.toList.getLast? = some c → isBlank c = false) : trim s = s := by
  apply String.toList_inj.mp
  have whole : trimStart s.toList = s.toList := by
    cases cs : s.toList with
    | nil => rfl
    | cons c rest => exact trimStart_of_head (start c (by rw [cs]; rfl)) rest
  obtain ⟨blanks, cut, blank, _⟩ := exists_trimEnd s.toList
  rw [toList_trim, whole]
  cases last : blanks.getLast? with
  | none =>
    rw [List.getLast?_eq_none_iff.mp last, List.append_nil] at cut
    exact cut.symm
  | some c =>
    have hidden := blank c (List.mem_of_getLast? last)
    rw [stop c (by rw [cut, List.getLast?_append, last, Option.some_or])] at hidden
    cases hidden

/-- What is left of a text stands in it with blanks around, and has none at its own
ends. -/
structure IsTrimmed (s t : String) : Prop where
  within : ∃ before after, s.toList = before ++ t.toList ++ after ∧
    ∀ c ∈ before ++ after, isBlank c = true
  start : ∀ c, t.toList.head? = some c → isBlank c = false
  stop : ∀ c, t.toList.getLast? = some c → isBlank c = false

/-- Of blanks around a text nothing is left. -/
theorem trim_eq_of_within {s t : String} {before after : List Char}
    (within : s.toList = before ++ t.toList ++ after)
    (blank : ∀ c ∈ before ++ after, isBlank c = true) : trim s = trim t := by
  obtain ⟨blankBefore, blankAfter⟩ := List.forall_mem_append.mp blank
  apply String.toList_inj.mp
  rw [toList_trim, toList_trim, within, List.append_assoc, trimStart,
    List.dropWhile_append_of_pos blankBefore, List.dropWhile_append]
  split
  · next nothing =>
    -- The text is blank itself, so trimming runs on through what follows it.
    rw [trimStart_eq_nil_iff.mpr (List.dropWhile_eq_nil_iff.mp (List.isEmpty_iff.mp nothing)),
      List.dropWhile_eq_nil_iff.mpr blankAfter]
  · exact trimEnd_append _ blankAfter

theorem trim_eq_iff {s t : String} : trim s = t ↔ IsTrimmed s t := by
  constructor
  · rintro rfl
    refine ⟨?_, fun c => not_isBlank_head_trim, fun c => not_isBlank_last_trim⟩
    obtain ⟨after, cut, blank, _⟩ := exists_trimEnd (trimStart s.toList)
    refine ⟨s.toList.takeWhile isBlank, after, ?_, ?_⟩
    · rw [toList_trim, List.append_assoc, ← cut, trimStart, List.takeWhile_append_dropWhile]
    · intro c member
      rcases List.mem_append.mp member with member | member
      · exact List.mem_takeWhile_imp member
      · exact blank c member
  · rintro ⟨⟨before, after, within, blank⟩, start, stop⟩
    rw [trim_eq_of_within within blank, trim_of_unblank start stop]

/-- So it is with a text whose first and last characters are given. -/
theorem trim_of_ends {first last : Char} (start : isBlank first = false)
    (stop : isBlank last = false) (cs : List Char) :
    trim (String.ofList (first :: (cs ++ [last]))) = String.ofList (first :: (cs ++ [last])) := by
  apply trim_of_unblank
  · intro c isFirst
    simp only [String.toList_ofList, List.head?_cons, Option.some.injEq] at isFirst
    rwa [← isFirst]
  · intro c isLast
    rw [String.toList_ofList, ← List.cons_append, List.getLast?_concat, Option.some.injEq] at isLast
    rwa [← isLast]

/-- So it is with a text without blanks. -/
theorem trim_of_visible {s : String} (visible : ∀ c ∈ s.toList, isBlank c = false) :
    trim s = s :=
  trim_of_unblank (fun c first => visible c (List.mem_of_mem_head? first))
    fun c last => visible c (List.mem_of_getLast? last)

end ComposeDeploy.Text
