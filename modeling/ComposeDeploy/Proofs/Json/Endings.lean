import ComposeDeploy.Proofs.Json.Scan
import Mathlib.Tactic.SplitIfs

/-!
Where a text may end, and with which value.

Outside all brackets nothing but a blank or a digit can follow, so a text that
goes on to a closing bracket cannot have ended before it: no text is a part of
a longer one that ends so (`scan?_eq_none_of_closed`). The empty array comes
out of a text only by one way through the reader, which `State.MayBeEmpty` lists
backwards from the end (`scan?_eq_empty_iff`).
-/

namespace ComposeDeploy.Json

/-! ### Outside all brackets -/

/-- A whole value has been read, or a number that may be whole, and nothing is
open. -/
inductive State.IsOutermost : State → Prop where
  | after (v : Json) : IsOutermost ⟨.after v, []⟩
  | number (n : NumberState) : IsOutermost ⟨.number n, []⟩

/-- Only here a text may end. -/
theorem State.isOutermost_of_finish {s : State} {v : Json} (ended : s.finish = some v) :
    s.IsOutermost := by
  obtain ⟨mode, stack⟩ := s
  simp only [finish] at ended
  split at ended
  · exact .after _
  · exact .number _
  · cases ended

theorem State.step_after (v : Json) (stack : List Frame) (c : Char) :
    State.step ⟨.after v, stack⟩ c = afterValue v stack c := rfl

theorem afterValue_outermost (v : Json) (c : Char) :
    afterValue v [] c = if isSpace c then some ⟨.after v, []⟩ else none := by
  unfold afterValue
  split <;> rfl

theorem State.IsOutermost.of_afterValue {v : Json} {c : Char} {t : State}
    (taken : afterValue v [] c = some t) : t.IsOutermost := by
  rw [afterValue_outermost, Option.ite_none_right_eq_some] at taken
  cases taken.2
  exact .after v

theorem State.IsOutermost.step {s t : State} {c : Char} (outer : s.IsOutermost)
    (taken : s.step c = some t) : t.IsOutermost := by
  cases outer with
  | after v => exact .of_afterValue taken
  | number n =>
    simp only [State.step] at taken
    split at taken
    · cases taken
      exact .number _
    · obtain ⟨v, _, taken⟩ := Option.bind_eq_some_iff.mp taken
      exact .of_afterValue taken

theorem State.IsOutermost.run {cs : List Char} {s t : State} (outer : s.IsOutermost)
    (taken : s.run cs = some t) : t.IsOutermost := by
  induction cs generalizing s with
  | nil =>
    cases taken
    exact outer
  | cons c cs ih =>
    obtain ⟨next, first, rest⟩ := Option.bind_eq_some_iff.mp taken
    exact ih (outer.step first) rest

/-- Nothing is open that a bracket could close. -/
theorem State.IsOutermost.step_delimiter {s : State} {c : Char} (outer : s.IsOutermost)
    (closing : c ∈ delimiters) : s.step c = none := by
  have notSpace : isSpace c = false := by
    simp only [delimiters, List.mem_cons, List.not_mem_nil, or_false] at closing
    rcases closing with rfl | rfl | rfl <;> rfl
  cases outer with
  | after v => simp [State.step_after, afterValue_outermost, notSpace]
  | number n =>
    simp [State.step, NumberState.next_delimiter n closing, afterValue_outermost, notSpace]

/-- A text that ends with a bracket has no shorter text at its beginning. -/
theorem scan?_eq_none_of_closed {cs rest : List Char} {last : Char} (closing : last ∈ delimiters)
    (accepted : scan? (cs ++ (rest ++ [last])) ≠ none) : scan? cs = none := by
  cases shorter : scan? cs with
  | none => rfl
  | some v =>
    rw [scan?_eq] at shorter
    obtain ⟨s, read, ended⟩ := Option.bind_eq_some_iff.mp shorter
    have outer := State.isOutermost_of_finish ended
    rw [scan?_eq, State.run_append, read, Option.bind_some, State.run_append] at accepted
    cases between : s.run rest with
    | none => exact absurd (by rw [between]; rfl) accepted
    | some t =>
      have refused := (outer.run between).step_delimiter closing
      exact absurd (by rw [between]; simp [refused]) accepted

/-! ### The empty array -/

theorem NumberState.value?_ne_empty (n : NumberState) : n.value? ≠ some (.arr []) := by
  intro value
  unfold value? at value
  repeat' split at value
  all_goals grind [decimal]

/-- The states from which the empty array can still come out. -/
inductive State.MayBeEmpty : State → Prop where
  | value : MayBeEmpty ⟨.value, []⟩
  | outerItem : MayBeEmpty ⟨.item, []⟩
  | item (done : List Json) : MayBeEmpty ⟨.item, [.arr done]⟩
  | firstName (done : List Json) : MayBeEmpty ⟨.firstName, [.arr done]⟩
  | word (rest : List Char) : MayBeEmpty ⟨.word rest (.arr []), []⟩
  | after : MayBeEmpty ⟨.after (.arr []), []⟩

theorem State.MayBeEmpty.of_finish {s : State} (ended : s.finish = some (.arr [])) :
    s.MayBeEmpty := by
  cases State.isOutermost_of_finish ended with
  | after v =>
    cases ended
    exact .after
  | number n => exact absurd ended n.value?_ne_empty

theorem State.MayBeEmpty.after_iff {v : Json} {stack : List Frame} :
    State.MayBeEmpty ⟨.after v, stack⟩ ↔ v = .arr [] ∧ stack = [] := by
  constructor
  · intro may
    cases may
    exact ⟨rfl, rfl⟩
  · rintro ⟨rfl, rfl⟩
    exact .after

theorem State.MayBeEmpty.length_stack {s : State} (may : s.MayBeEmpty) : s.stack.length ≤ 1 := by
  cases may <;> simp

/-- Of the first characters of a value only a bracket may begin the empty array,
and that with nothing open around it. -/
theorem State.MayBeEmpty.of_beginValue {stack : List Frame} {c : Char} {t : State}
    (may : t.MayBeEmpty) (taken : beginValue stack c = some t) : stack = [] ∧ c = '[' := by
  unfold beginValue at taken
  split_ifs at taken with quote bracket brace
  · cases taken
    cases may
  · cases taken
    have depth := may.length_stack
    simp only [openArray, List.length_cons] at depth
    exact ⟨List.length_eq_zero_iff.mp (by omega), bracket⟩
  · cases taken
    unfold openObject at may
    split at may <;> cases may
  · cases taken
    cases may
  · cases taken
    cases may
  · cases taken
    cases may
  · obtain ⟨n, _, rfl⟩ := Option.map_eq_some_iff.mp taken
    cases may

/-- After a value the empty array comes out only if it is that value: an array
that the value stands in is not empty. -/
theorem State.MayBeEmpty.of_afterValue {v : Json} {stack : List Frame} {c : Char} {t : State}
    (may : t.MayBeEmpty) (taken : afterValue v stack c = some t) :
    v = .arr [] ∧ stack = [] ∧ isSpace c = true := by
  unfold afterValue at taken
  split at taken
  · rename_i space
    cases taken
    obtain ⟨empty, outer⟩ := State.MayBeEmpty.after_iff.mp may
    exact ⟨empty, outer, space⟩
  · exfalso
    split at taken
    case h_5 => cases taken
    all_goals
      split_ifs at taken
      all_goals
        cases taken
        first
        | cases may
        | simp [State.MayBeEmpty.after_iff] at may

theorem emptyValue_eq_empty {stack : List Frame} (empty : emptyValue stack = .arr [])
    (outer : stack.tail = []) : ∃ done, stack = [.arr done] := by
  cases stack with
  | nil => cases empty
  | cons frame rest =>
    obtain rfl : rest = [] := outer
    cases frame with
    | arr done => exact ⟨done, rfl⟩
    | obj _ => cases empty
    | member _ _ => cases empty
    | lostArr => cases empty
    | lostObj => cases empty
    | lostMember => cases empty

theorem State.MayBeEmpty.of_closed {stack : List Frame}
    (may : State.MayBeEmpty ⟨.after (emptyValue stack), stack.tail⟩) :
    ∃ done, stack = [.arr done] := by
  obtain ⟨empty, outer⟩ := State.MayBeEmpty.after_iff.mp may
  exact emptyValue_eq_empty empty outer

theorem State.MayBeEmpty.not_endText {isName : Bool} {state : TextState} {done : List Char}
    {mode : Mode} {stack : List Frame} (may : State.MayBeEmpty ⟨mode, stack⟩) :
    endText isName state done ≠ some mode := by
  intro ended
  unfold endText at ended
  split at ended
  · cases ended
    split at may <;> cases may
  · cases ended
    split at may <;> cases may
  · cases ended

theorem State.MayBeEmpty.not_textStep {isName : Bool} {state : TextState} {done : List Char}
    {stack : List Frame} {c : Char} {t : State} (may : t.MayBeEmpty) :
    textStep isName state done stack c ≠ some t := by
  intro taken
  simp only [textStep] at taken
  split at taken
  · rename_i mode ended
    cases taken
    split_ifs at ended
    exact may.not_endText ended
  · obtain ⟨_, _, rfl⟩ := Option.map_eq_some_iff.mp taken
    cases may

theorem State.MayBeEmpty.not_afterName {name : Option String} {stack : List Frame} {t : State}
    (may : t.MayBeEmpty) : afterName name stack ≠ some t := by
  intro taken
  unfold afterName at taken
  split at taken
  · split at taken <;> (cases taken; cases may)
  · cases taken
    cases may
  · cases taken

/-- The way to the empty array is followed backwards one character. -/
theorem State.MayBeEmpty.of_step {s t : State} {c : Char} (may : t.MayBeEmpty)
    (taken : s.step c = some t) : s.MayBeEmpty := by
  obtain ⟨mode, stack⟩ := s
  cases mode with
  | value =>
    simp only [State.step] at taken
    split_ifs at taken
    · cases taken
      exact may
    · obtain ⟨rfl, _⟩ := may.of_beginValue taken
      exact .value
  | item =>
    simp only [State.step] at taken
    split_ifs at taken
    · cases taken
      exact may
    · cases taken
      obtain ⟨done, rfl⟩ := may.of_closed
      exact .item done
    · obtain ⟨rfl, _⟩ := may.of_beginValue taken
      exact .outerItem
  | firstName =>
    simp only [State.step] at taken
    split_ifs at taken
    · cases taken
      exact may
    · cases taken
      obtain ⟨done, rfl⟩ := may.of_closed
      exact .firstName done
    · cases taken
      cases may
  | name =>
    simp only [State.step] at taken
    split_ifs at taken
    · cases taken
      exact may
    · cases taken
      cases may
  | colon name =>
    simp only [State.step] at taken
    split_ifs at taken
    · cases taken
      exact may
    · exact absurd taken may.not_afterName
  | after v =>
    obtain ⟨rfl, rfl, _⟩ := may.of_afterValue taken
    exact .after
  | text isName state done => exact absurd taken may.not_textStep
  | number n =>
    simp only [State.step] at taken
    split at taken
    · cases taken
      cases may
    · obtain ⟨v, value, taken⟩ := Option.bind_eq_some_iff.mp taken
      obtain ⟨rfl, _⟩ := may.of_afterValue taken
      exact absurd value n.value?_ne_empty
  | word rest v =>
    simp only [State.step] at taken
    split at taken
    · cases taken
    · split_ifs at taken
      cases taken
      obtain ⟨rfl, rfl⟩ := State.MayBeEmpty.after_iff.mp may
      exact .word _
    · split_ifs at taken
      cases taken
      cases may
      exact .word _

theorem State.MayBeEmpty.of_run {cs : List Char} {s t : State} (may : t.MayBeEmpty)
    (taken : s.run cs = some t) : s.MayBeEmpty := by
  induction cs generalizing s with
  | nil =>
    cases taken
    exact may
  | cons c cs ih =>
    obtain ⟨next, first, rest⟩ := Option.bind_eq_some_iff.mp taken
    exact (ih rest).of_step first

/-- The spaces that may stand between tokens. -/
def AreSpaces (cs : List Char) : Prop :=
  ∀ c ∈ cs, isSpace c = true

/-- An empty array, with any spaces in it. -/
def IsEmptyArray (cs : List Char) : Prop :=
  ∃ inner, AreSpaces inner ∧ cs = '[' :: (inner ++ [']'])

/-- A state in which spaces change nothing. -/
def State.Skips (s : State) : Prop :=
  ∀ c, isSpace c = true → s.step c = some s

theorem State.skips_start : State.start.Skips := by
  intro c space
  simp [start, step, space]

theorem State.skips_item (stack : List Frame) : State.Skips ⟨.item, stack⟩ := by
  intro c space
  simp [step, space]

theorem State.skips_after (v : Json) (stack : List Frame) : State.Skips ⟨.after v, stack⟩ := by
  intro c space
  simp [step, afterValue, space]

theorem State.Skips.run {s : State} (skips : s.Skips) {cs : List Char} (spaces : AreSpaces cs) :
    s.run cs = some s := by
  induction cs with
  | nil => rfl
  | cons c cs ih =>
    obtain ⟨space, rest⟩ := List.forall_mem_cons.mp spaces
    rw [State.run_cons, skips c space, Option.bind_some, ih rest]

/-- What is read after spaces: nothing, or a character that is no space. -/
theorem State.Skips.of_run {s t : State} (skips : s.Skips) {cs : List Char}
    (taken : s.run cs = some t) :
    (AreSpaces cs ∧ s = t) ∨
      ∃ spaces c rest next, cs = spaces ++ c :: rest ∧ AreSpaces spaces ∧ isSpace c = false ∧
        s.step c = some next ∧ next.run rest = some t := by
  induction cs with
  | nil =>
    cases taken
    exact .inl ⟨List.forall_mem_nil _, rfl⟩
  | cons c cs ih =>
    obtain ⟨next, first, later⟩ := Option.bind_eq_some_iff.mp taken
    cases space : isSpace c with
    | true =>
      obtain rfl := Option.some.inj ((skips c space).symm.trans first)
      obtain ⟨spaces, same⟩ | ⟨spaces, d, rest, next, whole, blank, rest_taken⟩ := ih later
      · exact .inl ⟨List.forall_mem_cons.mpr ⟨space, spaces⟩, same⟩
      · exact .inr ⟨c :: spaces, d, rest, next, by rw [whole, List.cons_append],
          List.forall_mem_cons.mpr ⟨space, blank⟩, rest_taken⟩
    | false =>
      exact .inr ⟨[], c, cs, next, rfl, List.forall_mem_nil _, space, first, later⟩

theorem run_after_outermost {v : Json} {cs : List Char} {t : State}
    (taken : State.run ⟨.after v, []⟩ cs = some t) : AreSpaces cs := by
  obtain ⟨spaces, _⟩ | ⟨_, c, _, next, _, _, visible, refused, _⟩ :=
    (State.skips_after v []).of_run taken
  · exact spaces
  · rw [State.step_after, afterValue_outermost, visible] at refused
    cases refused

/-- Behind the bracket that opens the empty array stands the one that closes it. -/
theorem State.MayBeEmpty.of_run_item {cs : List Char} {t : State} (may : t.MayBeEmpty)
    (taken : State.run ⟨.item, [.arr []]⟩ cs = some t) (moved : t ≠ ⟨.item, [.arr []]⟩) :
    ∃ inner behind, cs = inner ++ ']' :: behind ∧ AreSpaces inner ∧ AreSpaces behind := by
  obtain ⟨_, same⟩ | ⟨inner, c, behind, next, whole, spaces, visible, closed, later⟩ :=
    (State.skips_item _).of_run taken
  · exact absurd same.symm moved
  · simp only [State.step, visible, Bool.false_eq_true, if_false] at closed
    split_ifs at closed with bracket
    · cases closed
      exact ⟨inner, behind, bracket ▸ whole, spaces, run_after_outermost later⟩
    · cases ((may.of_run later).of_beginValue closed).1

theorem State.MayBeEmpty.of_run_start {cs : List Char} {t : State} (may : t.MayBeEmpty)
    (taken : State.start.run cs = some t) (moved : t ≠ State.start) :
    ∃ before rest, cs = before ++ '[' :: rest ∧ AreSpaces before ∧
      State.run ⟨.item, [.arr []]⟩ rest = some t := by
  obtain ⟨_, same⟩ | ⟨before, c, rest, next, whole, spaces, visible, opened, later⟩ :=
    State.skips_start.of_run taken
  · exact absurd same.symm moved
  · simp only [State.start, State.step, visible, Bool.false_eq_true, if_false] at opened
    obtain ⟨_, rfl⟩ := (may.of_run later).of_beginValue opened
    cases opened
    exact ⟨before, rest, whole, spaces, later⟩

/-- The empty array comes out of no other text than a pair of brackets, with any
spaces around and between them. -/
theorem scan?_eq_empty_iff {cs : List Char} :
    scan? cs = some (.arr []) ↔
      ∃ before array behind, AreSpaces before ∧ IsEmptyArray array ∧ AreSpaces behind ∧
        cs = before ++ (array ++ behind) := by
  rw [scan?_eq]
  constructor
  · intro scanned
    obtain ⟨t, taken, ended⟩ := Option.bind_eq_some_iff.mp scanned
    have may := State.MayBeEmpty.of_finish ended
    obtain ⟨before, rest, rfl, outside, opened⟩ :=
      may.of_run_start taken (by rintro rfl; cases ended)
    obtain ⟨inner, behind, rfl, within, after⟩ :=
      may.of_run_item opened (by rintro rfl; cases ended)
    exact ⟨before, _, behind, outside, ⟨inner, within, rfl⟩, after, by simp⟩
  · rintro ⟨before, _, behind, outside, ⟨inner, within, rfl⟩, after, rfl⟩
    have opened : State.start.step '[' = some ⟨.item, [.arr []]⟩ := rfl
    have closed : State.step ⟨.item, [.arr []]⟩ ']' = some ⟨.after (.arr []), []⟩ := rfl
    simp only [State.run_append, List.cons_append, State.run_cons, State.run_nil,
      State.skips_start.run outside, opened, (State.skips_item _).run within, closed,
      (State.skips_after _ _).run after, Option.bind_some, State.finish]

end ComposeDeploy.Json
