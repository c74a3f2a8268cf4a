import ComposeDeploy.Text.Blank
import Mathlib.Data.List.Basic
import Mathlib.Data.List.TakeWhile

/-!
The parts into which a text is cut.

Cutting at one character loses nothing: joining the parts with that character
gives the text back (`Text.join_split`), so a text is known by its parts
(`Text.split_injective`), and they are those that it was joined from
(`Text.split_eq_iff`). A cut at the first or the last separator is known by
the part that holds none (`Text.splitFirst_eq_some_iff`,
`Text.splitLast_eq_some_iff`).
Cutting at blanks undoes joining: words written one after another, with any
blanks between them, are found again (`Text.words_of_spaced`).
-/

namespace ComposeDeploy.Text

theorem pieces_eq_splitOnP (p : Char → Bool) (cs : List Char) : pieces p cs = cs.splitOnP p := by
  induction cs with
  | nil => simp [pieces, List.splitOnP_nil]
  | cons c rest ih =>
    unfold pieces at ih ⊢
    rw [List.foldr_cons, ih, List.splitOnP_cons_eq_if_modifyHead]
    split
    · rfl
    · obtain ⟨part, parts, cut⟩ := List.exists_cons_of_ne_nil (List.splitOnP_ne_nil p rest)
      rw [cut]
      rfl

theorem intercalate_pieces (separator : Char) (cs : List Char) :
    [separator].intercalate (pieces (· == separator) cs) = cs := by
  rw [pieces_eq_splitOnP]
  exact List.intercalate_splitOn separator

theorem split_injective {separator : Char} {s t : String}
    (same : split s separator = split t separator) : s = t := by
  have parts : pieces (· == separator) s.toList = pieces (· == separator) t.toList :=
    List.map_injective_iff.mpr (fun _ _ => String.ofList_injective) same
  have joined := congrArg [separator].intercalate parts
  rw [intercalate_pieces, intercalate_pieces] at joined
  exact String.toList_inj.mp joined

/-- The parts of a text, joined, are the text. -/
theorem join_split (separator : Char) (s : String) :
    (String.singleton separator).intercalate (split s separator) = s := by
  apply String.toList_inj.mp
  rw [String.toList_intercalate, String.toList_singleton, split, List.map_map]
  have parts : (pieces (· == separator) s.toList).map (String.toList ∘ String.ofList) =
      pieces (· == separator) s.toList := by
    simp
  rw [parts, intercalate_pieces]

theorem not_of_mem_pieces {p : Char → Bool} {cs part : List Char} (member : part ∈ pieces p cs) :
    ∀ c ∈ part, p c = false := by
  unfold pieces at member
  induction cs generalizing part with
  | nil =>
    rw [List.foldr_nil, List.mem_singleton] at member
    rw [member]
    exact List.forall_mem_nil _
  | cons c rest ih =>
    rw [List.foldr_cons] at member
    split at member
    · rcases List.mem_cons.mp member with rfl | member
      · exact List.forall_mem_nil _
      · exact ih member
    · next visible =>
      have apart : p c = false := Bool.eq_false_iff.mpr visible
      split at member
      · next first others cut =>
        rw [cut] at ih
        rcases List.mem_cons.mp member with rfl | member
        · exact List.forall_mem_cons.mpr ⟨apart, ih List.mem_cons_self⟩
        · exact ih (List.mem_cons_of_mem first member)
      · rw [List.mem_singleton.mp member]
        exact List.forall_mem_singleton.mpr apart

/-- The text is these parts with a separator between any two of them. -/
structure IsJoined (separator : Char) (parts : List String) (s : String) : Prop where
  nonempty : parts ≠ []
  unbroken : ∀ part ∈ parts, separator ∉ part.toList
  joined : (String.singleton separator).intercalate parts = s

/-- A text is cut into the parts that it was joined from. -/
theorem split_eq_iff {separator : Char} {s : String} {parts : List String} :
    split s separator = parts ↔ IsJoined separator parts s := by
  constructor
  · rintro rfl
    refine ⟨?_, ?_, join_split separator s⟩
    · rw [split, pieces_eq_splitOnP, Ne, List.map_eq_nil_iff]
      exact List.splitOnP_ne_nil _ _
    · intro part member found
      obtain ⟨cs, cut, rfl⟩ := List.mem_map.mp member
      rw [String.toList_ofList] at found
      simpa using not_of_mem_pieces cut separator found
  · rintro ⟨nonempty, unbroken, rfl⟩
    have lists : pieces (· == separator) ((String.singleton separator).intercalate parts).toList =
        parts.map String.toList := by
      rw [pieces_eq_splitOnP, String.toList_intercalate, String.toList_singleton]
      exact List.splitOn_intercalate separator (List.forall_mem_map.mpr unbroken)
        (mt List.map_eq_nil_iff.mp nonempty)
    rw [split, lists, List.map_map]
    simp

/-- What stands before the first separator is the first part. -/
theorem split_append {separator : Char} {first : String} (unbroken : separator ∉ first.toList)
    (rest : String) :
    split (first ++ String.singleton separator ++ rest) separator =
      first :: split rest separator := by
  have cut : IsJoined separator (split rest separator) rest := split_eq_iff.mp rfl
  refine split_eq_iff.mpr ⟨List.cons_ne_nil _ _,
    List.forall_mem_cons.mpr ⟨unbroken, cut.unbroken⟩, ?_⟩
  rw [String.intercalate_cons_of_ne_nil cut.nonempty, cut.joined]

theorem stripStart_eq_some_iff {start cs rest : List Char} :
    stripStart start cs = some rest ↔ cs = start ++ rest := by
  induction start generalizing cs with
  | nil => simp [stripStart]
  | cons a start ih =>
    cases cs with
    | nil => simp [stripStart]
    | cons c cs =>
      by_cases same : a = c
      · simp [stripStart, same, ih]
      · simp [stripStart, same, Ne.symm same]

theorem stripStart_eq_none_iff {start cs : List Char} :
    stripStart start cs = none ↔ ∀ rest, cs ≠ start ++ rest := by
  rw [Option.eq_none_iff_forall_ne_some]
  exact forall_congr' fun _ => not_congr stripStart_eq_some_iff

theorem afterStart_eq_some_iff {start s rest : String} :
    afterStart start s = some rest ↔ s = start ++ rest := by
  rw [afterStart, Option.map_eq_some_iff]
  constructor
  · rintro ⟨cs, stripped, rfl⟩
    apply String.toList_inj.mp
    rw [stripStart_eq_some_iff.mp stripped, String.toList_append, String.toList_ofList]
  · rintro rfl
    exact ⟨rest.toList, stripStart_eq_some_iff.mpr String.toList_append, String.ofList_toList⟩

theorem afterStart_eq_none_iff {start s : String} :
    afterStart start s = none ↔ ∀ rest, s ≠ start ++ rest := by
  rw [Option.eq_none_iff_forall_ne_some]
  exact forall_congr' fun _ => not_congr afterStart_eq_some_iff

/-! ### The first and the last separator -/

/-- A text is cut at its first separator: there is none in front of it. -/
theorem splitFirst_eq_some_iff {separator : Char} {cs first rest : List Char} :
    splitFirst separator cs = some (first, rest) ↔
      cs = first ++ separator :: rest ∧ separator ∉ first := by
  unfold splitFirst
  constructor
  · intro cut
    split at cut
    · cases cut
    · next c others found =>
      cases cut
      have stopped := List.head?_dropWhile_not (· ≠ separator) cs
      rw [found] at stopped
      have same : c = separator := by simpa using stopped
      refine ⟨?_, fun member => by simpa using List.mem_takeWhile_imp member⟩
      rw [← same, ← found, same, List.takeWhile_append_dropWhile]
  · rintro ⟨rfl, unbroken⟩
    have apart : ∀ c ∈ first, decide (c ≠ separator) = true := by
      intro c member
      exact decide_eq_true fun same => unbroken (same ▸ member)
    rw [List.dropWhile_append_of_pos apart, List.takeWhile_append_of_pos apart]
    simp

theorem splitFirst_append {separator : Char} {first : List Char} (unbroken : separator ∉ first)
    (rest : List Char) : splitFirst separator (first ++ separator :: rest) = some (first, rest) :=
  splitFirst_eq_some_iff.mpr ⟨rfl, unbroken⟩

theorem splitFirst_eq_none_iff {separator : Char} {cs : List Char} :
    splitFirst separator cs = none ↔ separator ∉ cs := by
  constructor
  · intro uncut member
    obtain ⟨first, rest, rfl, unbroken⟩ := List.eq_append_cons_of_mem member
    rw [splitFirst_append unbroken] at uncut
    cases uncut
  · intro unbroken
    cases cut : splitFirst separator cs with
    | none => rfl
    | some parts =>
      obtain ⟨rfl, _⟩ := splitFirst_eq_some_iff.mp cut
      exact absurd (List.mem_append_right _ List.mem_cons_self) unbroken

/-- A text is cut at its last separator: there is none behind it. -/
theorem splitLast_eq_some_iff {separator : Char} {cs first last : List Char} :
    splitLast separator cs = some (first, last) ↔
      cs = first ++ separator :: last ∧ separator ∉ last := by
  have reversed : cs.reverse = last.reverse ++ separator :: first.reverse ↔
      cs = first ++ separator :: last := by
    rw [← List.reverse_inj]
    simp
  unfold splitLast
  rw [Option.map_eq_some_iff]
  constructor
  · rintro ⟨⟨after, before⟩, cut, same⟩
    cases same
    obtain ⟨joined, unbroken⟩ := splitFirst_eq_some_iff.mp cut
    exact ⟨reversed.mp (by simpa using joined), by simpa using unbroken⟩
  · rintro ⟨joined, unbroken⟩
    exact ⟨(last.reverse, first.reverse),
      splitFirst_eq_some_iff.mpr ⟨reversed.mpr joined, by simpa using unbroken⟩, by simp⟩

theorem splitLast_eq_none_iff {separator : Char} {cs : List Char} :
    splitLast separator cs = none ↔ separator ∉ cs := by
  rw [splitLast, Option.map_eq_none_iff, splitFirst_eq_none_iff, List.mem_reverse]

/-! ### Words -/

/-- A word has at least one character, and none of them is blank. -/
structure IsWord (word : String) : Prop where
  nonempty : word.toList ≠ []
  unbroken : ∀ c ∈ word.toList, isBlank c = false

theorem IsWord.of_all {word : String} (nonempty : word.toList ≠ [])
    (unbroken : (word.toList.all fun c => !isBlank c) = true) : IsWord word where
  nonempty := nonempty
  unbroken c member := by simpa using List.all_eq_true.mp unbroken c member

/-- The words one after another, with at least one blank between two of
them. -/
inductive Spaced : List String → List Char → Prop where
  | none : Spaced [] []
  | last (word : String) : Spaced [word] word.toList
  | more {word next : String} {others : List String} {gap rest : List Char}
      (apart : gap ≠ []) (blank : ∀ c ∈ gap, isBlank c = true)
      (follows : Spaced (next :: others) rest) :
      Spaced (word :: next :: others) (word.toList ++ gap ++ rest)

/-- Blanks at the start of a text are part of no word. -/
theorem filter_pieces_append {gap : List Char} (blank : ∀ c ∈ gap, isBlank c = true)
    (rest : List Char) :
    (pieces isBlank (gap ++ rest)).filter (· ≠ []) = (pieces isBlank rest).filter (· ≠ []) := by
  induction gap with
  | nil => rfl
  | cons c gap ih =>
    have first := blank c List.mem_cons_self
    simp only [pieces_eq_splitOnP] at ih ⊢
    rw [List.cons_append, List.splitOnP_cons_eq_if_modifyHead, if_pos first]
    simpa using ih fun other member => blank other (List.mem_cons_of_mem c member)

theorem filter_pieces_of_spaced {written : List String} {cs : List Char}
    (spaced : Spaced written cs) (areWords : ∀ word ∈ written, IsWord word) :
    (pieces isBlank cs).filter (· ≠ []) = written.map String.toList := by
  induction spaced with
  | none => rfl
  | last word =>
    have isWord := areWords word List.mem_cons_self
    rw [pieces_eq_splitOnP, List.splitOnP_eq_singleton isWord.unbroken]
    simp [isWord.nonempty]
  | @more word next others gap rest apart blank follows ih =>
    have isWord := areWords word List.mem_cons_self
    have found := ih fun other member => areWords other (List.mem_cons_of_mem word member)
    obtain ⟨c, gap, rfl⟩ := List.exists_cons_of_ne_nil apart
    have cut : pieces isBlank (word.toList ++ c :: gap ++ rest) =
        word.toList :: pieces isBlank (gap ++ rest) := by
      simp only [pieces_eq_splitOnP, List.append_assoc, List.cons_append]
      exact List.splitOnP_append_cons_of_forall_mem isWord.unbroken c
        (blank c List.mem_cons_self) _
    have skipped := filter_pieces_append
      (fun other member => blank other (List.mem_cons_of_mem c member)) rest
    rw [cut, List.filter_cons_of_pos (by simpa using isWord.nonempty), skipped, found]
    rfl

/-- The words of a text are those that it was written from. -/
theorem words_of_spaced {written : List String} {s : String} (spaced : Spaced written s.toList)
    (areWords : ∀ word ∈ written, IsWord word) : words s = written := by
  unfold words
  rw [filter_pieces_of_spaced spaced areWords, List.map_map]
  simp

end ComposeDeploy.Text
