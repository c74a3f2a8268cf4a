import ComposeDeploy.Json.Reader
import ComposeDeploy.Json.Writer
import ComposeDeploy.Proofs.Text.Numerals

/-!
The reader takes back what the writer writes.

`Fits` names the values for which that holds: integers of 64 bits, no other
numbers, and a nesting within the room that the open arrays and objects leave.
`run_write` follows the reader over the text of such a value, whatever is open
around it; `scan?_write` and `read?_write` are the case of a
whole text.
-/

namespace ComposeDeploy.Json

open Text.Numeral (integer digit? digit?_digitChar isDigit_of_mem_decimal signedBound wordBound)

/-! ### Running the reader -/

/-- The state after some characters, if none is refused. -/
def State.run (s : State) (cs : List Char) : Option State :=
  cs.foldlM State.step s

@[simp] theorem State.run_nil (s : State) : s.run [] = some s := rfl

@[simp] theorem State.run_cons (s : State) (c : Char) (cs : List Char) :
    s.run (c :: cs) = (s.step c).bind fun next => next.run cs := rfl

theorem State.run_append (s : State) (first second : List Char) :
    s.run (first ++ second) = (s.run first).bind fun next => next.run second := by
  simp [State.run]

theorem scan?_eq (cs : List Char) : scan? cs = (State.start.run cs).bind State.finish := rfl

/-- The reader has just read the value `v`. Only the character after a number
shows that the number is complete. -/
inductive State.Holds (v : Json) (stack : List Frame) : State → Prop where
  | complete : Holds v stack ⟨.after v, stack⟩
  | number {n : NumberState} : n.value? = some v → Holds v stack ⟨.number n, stack⟩

/-- The characters that end a value inside an array or object. -/
def delimiters : List Char :=
  [',', ']', '\x7d']

theorem NumberState.next_delimiter (n : NumberState) {c : Char} (member : c ∈ delimiters) :
    n.next c = none := by
  simp only [delimiters, List.mem_cons, List.not_mem_nil, or_false] at member
  rcases member with rfl | rfl | rfl <;> cases n <;> rfl

theorem State.Holds.step {v : Json} {stack : List Frame} {s : State} (holds : s.Holds v stack)
    {c : Char} (member : c ∈ delimiters) : s.step c = afterValue v stack c := by
  cases holds with
  | complete => rfl
  | number value => simp [State.step, NumberState.next_delimiter _ member, value]

theorem State.Holds.finish {v : Json} {s : State} (holds : s.Holds v []) : s.finish = some v := by
  cases holds with
  | complete => rfl
  | number value => exact value

/-! ### Numbers -/

theorem NumberState.start?_digitChar {d : Nat} (pos : 0 < d) (small : d < 10) :
    NumberState.start? (Nat.digitChar d) = some (.whole false (Significand.none.takeWhole d)) := by
  have notMinus : Nat.digitChar d ≠ '-' := by
    intro same
    have digit := digit?_digitChar d small
    rw [same] at digit
    cases digit
  cases d with
  | zero => cases pos
  | succ d => simp [NumberState.start?, notMinus, digit?_digitChar _ small]

theorem NumberState.next_minus_digitChar {d : Nat} (pos : 0 < d) (small : d < 10) :
    NumberState.minus.next (Nat.digitChar d) =
      some (.whole true (Significand.none.takeWhole d)) := by
  cases d with
  | zero => cases pos
  | succ d => simp [NumberState.next, digit?_digitChar _ small]

theorem NumberState.next_whole_digitChar (negative : Bool) (s : Significand) {d : Nat}
    (small : d < 10) :
    (NumberState.whole negative s).next (Nat.digitChar d) =
      some (.whole negative (s.takeWhole d)) := by
  simp [NumberState.next, digit?_digitChar d small]

theorem Significand.takeWhole_word (word d : Nat) (small : word * 10 + d < wordBound) :
    Significand.takeWhole ⟨word, 0, false⟩ d = ⟨word * 10 + d, 0, false⟩ := by
  simp [Significand.takeWhole, small]

/-- From a state in which a first digit begins a literal, the digits of a
positive number are read to their end. -/
theorem run_decimal {s : State} {negative : Bool} {stack : List Frame}
    (begins : ∀ d, 0 < d → d < 10 → s.step (Nat.digitChar d) =
      some ⟨.number (.whole negative (Significand.none.takeWhole d)), stack⟩)
    (n : Nat) (pos : 0 < n) (small : n < wordBound) :
    s.run (Text.Numeral.decimal n) = some ⟨.number (.whole negative ⟨n, 0, false⟩), stack⟩ := by
  induction n using Nat.strongRecOn with
  | _ n ih =>
    unfold Text.Numeral.decimal at ih ⊢
    by_cases single : n < 10
    · have word := Significand.takeWhole_word 0 n (by omega)
      simp only [Nat.zero_mul, Nat.zero_add] at word
      simp [Nat.toDigits_of_lt_base single, begins n pos single, Significand.none, word]
    · have shorter := ih (n / 10) (by omega) (by omega) (by omega)
      have last : n % 10 < 10 := Nat.mod_lt n (by omega)
      have whole : n / 10 * 10 + n % 10 = n := by omega
      have word := Significand.takeWhole_word (n / 10) (n % 10) (by omega)
      rw [Nat.toDigits_of_base_le (by omega) (by omega), State.run_append, shorter]
      simp [State.step, NumberState.next_whole_digitChar _ _ last, word, whole]

theorem isSpace_digitChar : ∀ d, d < 10 → isSpace (Nat.digitChar d) = false := by
  decide

theorem beginValue_digitChar (stack : List Frame) {d : Nat} (small : d < 10) :
    beginValue stack (Nat.digitChar d) =
      (NumberState.start? (Nat.digitChar d)).map fun n => ⟨.number n, stack⟩ := by
  have other : ∀ d, d < 10 → Nat.digitChar d ≠ '"' ∧ Nat.digitChar d ≠ '[' ∧
      Nat.digitChar d ≠ '\x7b' ∧ Nat.digitChar d ≠ 't' ∧ Nat.digitChar d ≠ 'f' ∧
      Nat.digitChar d ≠ 'n' := by decide
  simp [beginValue, other d small]

/-- The literal of an integer of 64 bits is read as that integer. -/
theorem run_integer (stack : List Frame) (n : Int) (low : -(signedBound : Int) ≤ n)
    (high : n < wordBound) :
    ∃ s, State.run ⟨.value, stack⟩ (integer n) = some s ∧ s.Holds (.int n) stack := by
  have begins : ∀ d, 0 < d → d < 10 → State.step ⟨.value, stack⟩ (Nat.digitChar d) =
      some ⟨.number (.whole false (Significand.none.takeWhole d)), stack⟩ := by
    intro d pos small
    simp [State.step, isSpace_digitChar d small, beginValue_digitChar stack small,
      NumberState.start?_digitChar pos small]
  cases n with
  | ofNat n =>
    by_cases zero : n = 0
    · subst zero
      exact ⟨⟨.number (.zero false), stack⟩, rfl, .number rfl⟩
    · refine ⟨_, run_decimal begins n (by omega) (by simp at high; omega), .number ?_⟩
      simp [NumberState.value?]
  | negSucc n =>
    have minus : State.step ⟨.value, stack⟩ '-' = some ⟨.number .minus, stack⟩ := rfl
    have size : n + 1 ≤ signedBound := by omega
    have digits : State.run ⟨.number .minus, stack⟩ (Text.Numeral.decimal (n + 1)) =
        some ⟨.number (.whole true ⟨n + 1, 0, false⟩), stack⟩ := by
      refine run_decimal (fun d pos small => ?_) (n + 1) (by omega) ?_
      · simp [State.step, NumberState.next_minus_digitChar pos small]
      · simp only [signedBound, wordBound] at size ⊢
        omega
    refine ⟨⟨.number (.whole true ⟨n + 1, 0, false⟩), stack⟩, ?_, .number ?_⟩
    · simpa [integer, minus] using digits
    · simp [NumberState.value?, size]
      omega

/-! ### Strings -/

theorem hexDigit?_hexDigit : ∀ n, n < 16 → Text.Percent.hexDigit? (hexDigit n) = some n := by
  decide

theorem hexDigit_ne_quote : ∀ n, n < 16 → hexDigit n ≠ '"' := by
  decide

/-- Inside a string the closing quote of which is still to come. -/
def inText (isName : Bool) (done : List Char) (stack : List Frame) : State :=
  ⟨.text isName .plain done, stack⟩

/-- A character in its written form adds that character to the string. -/
theorem run_escapeChar (isName : Bool) (done : List Char) (stack : List Frame) (c : Char) :
    (inText isName done stack).run (escapeChar c) = some (inText isName (c :: done) stack) := by
  unfold escapeChar
  split
  · next same => subst same; rfl
  split
  · next same => subst same; rfl
  split
  · next code => rw [← Char.ofNat_toNat c, code]; rfl
  split
  · next code => rw [← Char.ofNat_toNat c, code]; rfl
  split
  · next same => subst same; rfl
  split
  · next same => subst same; rfl
  split
  · next same => subst same; rfl
  split
  · next control =>
    have high := hexDigit?_hexDigit (c.toNat / 16) (by omega)
    have low := hexDigit?_hexDigit (c.toNat % 16) (by omega)
    have highQuote := hexDigit_ne_quote (c.toNat / 16) (by omega)
    have lowQuote := hexDigit_ne_quote (c.toNat % 16) (by omega)
    have whole : c.toNat / 16 * 16 + c.toNat % 16 = c.toNat := by omega
    -- The first four characters are the same for every control character.
    have opened : (inText isName done stack).run ['\\', 'u', '0', '0'] =
        some ⟨.text isName (.code none 2 0) done, stack⟩ := rfl
    have ended : endCode none c.toNat done = (.plain, c :: done) := by
      have below : ¬ 0xD800 ≤ c.toNat ∧ ¬ 0xDC00 ≤ c.toNat := by omega
      simp [endCode, below]
    rw [show ['\\', 'u', '0', '0', hexDigit (c.toNat / 16), hexDigit (c.toNat % 16)] =
      ['\\', 'u', '0', '0'] ++ [hexDigit (c.toNat / 16), hexDigit (c.toNat % 16)] from rfl,
      State.run_append, opened]
    simp [State.step, textStep, TextState.step, high, low, highQuote, lowQuote, whole, ended,
      inText]
  · next quote backslash _ _ _ _ _ control =>
    have plain : isPlain c = true := by simp [isPlain]; omega
    simp [inText, State.step, textStep, TextState.step, quote, backslash, plain]

theorem run_flatMap_escapeChar (isName : Bool) (stack : List Frame) (cs done : List Char) :
    (inText isName done stack).run (cs.flatMap escapeChar) =
      some (inText isName (cs.reverse ++ done) stack) := by
  induction cs generalizing done with
  | nil => rfl
  | cons c rest ih =>
    rw [List.flatMap_cons, State.run_append, run_escapeChar]
    simp [ih]

/-- From a state in which a quote opens a string, a literal is read to its
closing quote. -/
theorem run_writeText {s : State} {isName : Bool} {stack : List Frame}
    (opens : s.step '"' = some (inText isName [] stack)) (text : String) :
    s.run (writeText text) =
      some ⟨if isName then .colon (some text) else .after (.str text), stack⟩ := by
  have closes : (inText isName text.toList.reverse stack).step '"' =
      some ⟨if isName then .colon (some text) else .after (.str text), stack⟩ := by
    simp [inText, State.step, textStep, endText, TextState.close]
  unfold writeText
  rw [State.run_cons, opens, Option.bind_some, State.run_append, run_flatMap_escapeChar]
  simp [closes]

/-! ### Values -/

mutual

/-- A value that is written and read back unchanged: its numbers are integers
of 64 bits, and it nests no deeper than `room`. -/
def Fits : Json → Nat → Prop
  | .null, _ => True
  | .bool _, _ => True
  | .int n, _ => -(signedBound : Int) ≤ n ∧ n < wordBound
  | .real _, _ => False
  | .str _, _ => True
  | .arr items, room => 0 < room ∧ AllFit items (room - 1)
  | .obj members, room => 0 < room ∧ AllMembersFit members (room - 1)
  | .unusable, _ => False

/-- All items fit. -/
def AllFit : List Json → Nat → Prop
  | [], _ => True
  | item :: rest, room => Fits item room ∧ AllFit rest room

/-- The values of all members fit. -/
def AllMembersFit : List (String × Json) → Nat → Prop
  | [], _ => True
  | (_, value) :: rest, room => Fits value room ∧ AllMembersFit rest room

end

theorem allFit_iff {items : List Json} {room : Nat} :
    AllFit items room ↔ ∀ item ∈ items, item.Fits room := by
  induction items with
  | nil => simp [AllFit]
  | cons item rest ih => simp [AllFit, ih]

theorem allMembersFit_iff {members : List (String × Json)} {room : Nat} :
    AllMembersFit members room ↔ ∀ member ∈ members, member.2.Fits room := by
  induction members with
  | nil => simp [AllMembersFit]
  | cons member rest ih => simp [AllMembersFit, ih]

mutual

/-- A value fits wherever there is more room. -/
theorem Fits.mono : ∀ {j : Json} {room wider : Nat}, room ≤ wider → j.Fits room → j.Fits wider
  | .null, _, _, _, _ => trivial
  | .bool _, _, _, _, _ => trivial
  | .int _, _, _, _, fits => fits
  | .real _, _, _, _, fits => fits
  | .str _, _, _, _, _ => trivial
  | .arr _, _, _, le, fits => ⟨by have := fits.1; omega, AllFit.mono (by omega) fits.2⟩
  | .obj _, _, _, le, fits => ⟨by have := fits.1; omega, AllMembersFit.mono (by omega) fits.2⟩
  | .unusable, _, _, _, fits => fits

theorem AllFit.mono : ∀ {items : List Json} {room wider : Nat}, room ≤ wider →
    AllFit items room → AllFit items wider
  | [], _, _, _, _ => trivial
  | _ :: _, _, _, le, fits => ⟨Fits.mono le fits.1, AllFit.mono le fits.2⟩

theorem AllMembersFit.mono : ∀ {members : List (String × Json)} {room wider : Nat}, room ≤ wider →
    AllMembersFit members room → AllMembersFit members wider
  | [], _, _, _, _ => trivial
  | (_, _) :: _, _, _, le, fits => ⟨Fits.mono le fits.1, AllMembersFit.mono le fits.2⟩

end

/-- Whether a value that nests no deeper than `room` is usable over `stack`. -/
def Spacious (room : Nat) (stack : List Frame) : Prop :=
  0 < room → hasRoom stack = true ∧ stack.length + room ≤ maxDepth

theorem Spacious.arr {room : Nat} {stack : List Frame} (pos : 0 < room)
    (space : Spacious room stack) (done : List Json) :
    Spacious (room - 1) (.arr done :: stack) := by
  intro inner
  obtain ⟨_, bound⟩ := space pos
  simp only [hasRoom, List.length_cons, decide_eq_true_eq]
  omega

theorem Spacious.member {room : Nat} {stack : List Frame} (pos : 0 < room)
    (space : Spacious room stack) (done : List (String × Json)) (name : String) :
    Spacious (room - 1) (.member done name :: stack) := by
  intro inner
  obtain ⟨_, bound⟩ := space pos
  simp only [hasRoom, List.length_cons, decide_eq_true_eq]
  omega

/-- A character with which a value may begin, unlike a blank or a closing
bracket. -/
def Begins (c : Char) : Prop :=
  isSpace c = false ∧ c ≠ ']'

instance (c : Char) : Decidable (Begins c) :=
  inferInstanceAs (Decidable (isSpace c = false ∧ c ≠ ']'))

theorem begins_of_isDigit {c : Char} (digit : c.isDigit = true) : Begins c := by
  refine ⟨?_, ?_⟩
  · simp only [isSpace, Bool.or_eq_false_iff, beq_eq_false_iff_ne]
    refine ⟨⟨⟨?_, ?_⟩, ?_⟩, ?_⟩ <;> (rintro rfl; cases digit)
  · rintro rfl
    cases digit

theorem decimal_begins (n : Nat) :
    ∃ c cs, Text.Numeral.decimal n = c :: cs ∧ Begins c := by
  cases digits : Text.Numeral.decimal n with
  | nil => exact absurd digits Nat.toDigits_ne_nil
  | cons c cs =>
    refine ⟨c, cs, rfl, begins_of_isDigit ?_⟩
    exact isDigit_of_mem_decimal (digits ▸ List.mem_cons_self)

theorem write_begins (j : Json) : ∃ c cs, write j = c :: cs ∧ Begins c := by
  cases j with
  | null => exact ⟨_, _, rfl, by decide⟩
  | bool b => cases b <;> exact ⟨_, _, rfl, by decide⟩
  | int n =>
    cases n with
    | ofNat n => exact decimal_begins n
    | negSucc n => exact ⟨_, _, rfl, by decide⟩
  | real d =>
    obtain ⟨c, cs, digits, begins⟩ := decimal_begins d.significand
    simp only [write, writeDecimal, digits]
    split
    · exact ⟨_, _, rfl, by decide⟩
    · exact ⟨_, _, rfl, begins⟩
  | str text => exact ⟨_, _, rfl, by decide⟩
  | arr items => cases items <;> exact ⟨_, _, rfl, by decide⟩
  | obj members => cases members <;> exact ⟨_, _, rfl, by decide⟩
  | unusable => exact ⟨_, _, rfl, by decide⟩

/-- The first item of an array is read like any other value. -/
theorem run_item_write (j : Json) (stack : List Frame) :
    State.run ⟨.item, stack⟩ (write j) = State.run ⟨.value, stack⟩ (write j) := by
  obtain ⟨c, cs, text, space, bracket⟩ := write_begins j
  simp [text, State.step, space, bracket]

/-- A name, the colon after it and the value of the member. -/
theorem run_member {s : State} {done : List (String × Json)} {stack : List Frame}
    (opens : s.step '"' = some (inText true [] (.obj done :: stack))) (name : String)
    (cs : List Char) :
    s.run (writeText name ++ ':' :: cs) = State.run ⟨.value, .member done name :: stack⟩ cs := by
  rw [State.run_append, run_writeText opens]
  rfl

mutual

/-- A value that fits is read from its text, whatever is open around it. -/
theorem run_write : ∀ (j : Json) {room : Nat} {stack : List Frame},
    j.Fits room → Spacious room stack →
      ∃ s, State.run ⟨.value, stack⟩ (write j) = some s ∧ s.Holds j stack
  | .null, _, _, _, _ => ⟨_, rfl, .complete⟩
  | .bool true, _, _, _, _ => ⟨_, rfl, .complete⟩
  | .bool false, _, _, _, _ => ⟨_, rfl, .complete⟩
  | .int n, _, stack, fits, _ => by
    simp only [Fits] at fits
    exact run_integer stack n fits.1 fits.2
  | .real _, _, _, fits, _ => by simp [Fits] at fits
  | .unusable, _, _, fits, _ => by simp [Fits] at fits
  | .str text, _, _, _, _ => ⟨_, run_writeText rfl text, .complete⟩
  | .arr [], _, stack, fits, space => by
    simp only [Fits] at fits
    have opens := (space fits.1).1
    refine ⟨⟨.after (.arr []), stack⟩, ?_, .complete⟩
    simp [write, State.step, isSpace, beginValue, openArray, opens, emptyValue]
  | .arr (item :: rest), _, stack, fits, space => by
    simp only [Fits, AllFit] at fits
    obtain ⟨pos, itemFits, restFit⟩ := fits
    have opens : State.step ⟨.value, stack⟩ '[' = some ⟨.item, .arr [] :: stack⟩ := by
      simp [State.step, isSpace, beginValue, openArray, (space pos).1]
    obtain ⟨s, run, holds⟩ := run_write item itemFits (space.arr pos [])
    refine ⟨⟨.after (.arr (item :: rest)), stack⟩, ?_, .complete⟩
    simp only [write, State.run_cons, opens, Option.bind_some, State.run_append]
    rw [run_item_write, run, Option.bind_some]
    exact run_writeItems rest pos restFit space holds
  | .obj [], _, stack, fits, space => by
    simp only [Fits] at fits
    have opens := (space fits.1).1
    refine ⟨⟨.after (.obj []), stack⟩, ?_, .complete⟩
    simp [write, State.step, isSpace, beginValue, openObject, opens, emptyValue]
  | .obj ((name, value) :: rest), _, stack, fits, space => by
    simp only [Fits, AllMembersFit] at fits
    obtain ⟨pos, valueFits, restFit⟩ := fits
    have opens : State.step ⟨.value, stack⟩ '\x7b' = some ⟨.firstName, .obj [] :: stack⟩ := by
      simp [State.step, isSpace, beginValue, openObject, (space pos).1]
    obtain ⟨s, run, holds⟩ := run_write value valueFits (space.member pos [] name)
    refine ⟨⟨.after (.obj ((name, value) :: rest)), stack⟩, ?_, .complete⟩
    rw [write, State.run_cons, opens, Option.bind_some, run_member rfl, State.run_append, run,
      Option.bind_some]
    exact run_writeMembers rest pos restFit space holds

/-- After an item, the other items of an array and its closing bracket. -/
theorem run_writeItems : ∀ (rest : List Json) {room : Nat} {stack : List Frame} {item : Json}
    {done : List Json} {s : State}, 0 < room → AllFit rest (room - 1) → Spacious room stack →
      s.Holds item (.arr done :: stack) →
        s.run (writeItems rest) =
          some ⟨.after (.arr (done.reverse ++ item :: rest)), stack⟩
  | [], _, stack, item, done, s, _, _, _, holds => by
    have closes := holds.step (c := ']') (by decide)
    simp [writeItems, closes, afterValue, isSpace]
  | next :: rest, _, stack, item, done, s, pos, fits, space, holds => by
    simp only [AllFit] at fits
    have comma : s.step ',' = some ⟨.value, .arr (item :: done) :: stack⟩ := by
      simp [holds.step (c := ',') (by decide), afterValue, isSpace]
    obtain ⟨after, run, nextHolds⟩ := run_write next fits.1 (space.arr pos (item :: done))
    have others := run_writeItems rest pos fits.2 space nextHolds
    rw [writeItems, State.run_cons, comma, Option.bind_some, State.run_append, run,
      Option.bind_some, others]
    simp

/-- After a member, the other members of an object and its closing brace. -/
theorem run_writeMembers : ∀ (rest : List (String × Json)) {room : Nat} {stack : List Frame}
    {name : String} {value : Json} {done : List (String × Json)} {s : State}, 0 < room →
      AllMembersFit rest (room - 1) → Spacious room stack →
        s.Holds value (.member done name :: stack) →
          s.run (writeMembers rest) =
            some ⟨.after (.obj (done.reverse ++ (name, value) :: rest)), stack⟩
  | [], _, stack, name, value, done, s, _, _, _, holds => by
    have closes := holds.step (c := '\x7d') (by decide)
    simp [writeMembers, closes, afterValue, isSpace]
  | (nextName, next) :: rest, _, stack, name, value, done, s, pos, fits, space, holds => by
    simp only [AllMembersFit] at fits
    have comma : s.step ',' = some ⟨.name, .obj ((name, value) :: done) :: stack⟩ := by
      simp [holds.step (c := ',') (by decide), afterValue, isSpace]
    obtain ⟨after, run, nextHolds⟩ :=
      run_write next fits.1 (space.member pos ((name, value) :: done) nextName)
    have others := run_writeMembers rest pos fits.2 space nextHolds
    rw [writeMembers, State.run_cons, comma, Option.bind_some, run_member rfl, State.run_append,
      run, Option.bind_some, others]
    simp

end

/-! ### Whole texts -/

/-- The text of a value that fits is read as that value. -/
theorem scan?_write {j : Json} (fits : j.Fits maxDepth) : scan? (write j) = some j := by
  have space : Spacious maxDepth [] := fun _ => ⟨rfl, by simp⟩
  obtain ⟨s, run, holds⟩ := run_write j fits space
  rw [scan?_eq, State.start, run, Option.bind_some, holds.finish]

mutual

/-- Every part of a value that fits is usable. -/
theorem isUsable_of_fits : ∀ {j : Json} {room : Nat}, j.Fits room → j.isUsable = true
  | .null, _, _ => rfl
  | .bool _, _, _ => rfl
  | .int _, _, _ => rfl
  | .real _, _, _ => rfl
  | .str _, _, _ => rfl
  | .arr _, _, fits => areUsable_of_allFit fits.2
  | .obj _, _, fits => areUsableMembers_of_allMembersFit fits.2
  | .unusable, _, fits => fits.elim

theorem areUsable_of_allFit : ∀ {items : List Json} {room : Nat},
    AllFit items room → areUsable items = true
  | [], _, _ => rfl
  | _ :: _, _, fits => by
    simp [areUsable, isUsable_of_fits fits.1, areUsable_of_allFit fits.2]

theorem areUsableMembers_of_allMembersFit : ∀ {members : List (String × Json)} {room : Nat},
    AllMembersFit members room → areUsableMembers members = true
  | [], _, _ => rfl
  | (_, _) :: _, _, fits => by
    simp [areUsableMembers, isUsable_of_fits fits.1, areUsableMembers_of_allMembersFit fits.2]

end

/-- The text of a value that fits has no unusable part. -/
theorem read?_write {j : Json} (fits : j.Fits maxDepth) : read? (write j) = some j := by
  simp [read?, scan?_write fits, isUsable_of_fits fits]

theorem read?_render {j : Json} (fits : j.Fits maxDepth) : read? j.render.toList = some j := by
  rw [render, String.toList_ofList]
  exact read?_write fits

end ComposeDeploy.Json
