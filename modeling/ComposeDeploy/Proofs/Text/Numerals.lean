import ComposeDeploy.Text.Numeral
import ComposeDeploy.Proofs.Text.Trimming

/-!
Which texts are numerals, and of which numbers.

The numeral of a natural number is read back as that number. Reading goes from
the left and keeps what the digits so far are worth, writing adds the last digit
at the right: `readDigits_append` lets the two meet. The numeral begins with a
digit, so neither sign is looked for in it (`signed_decimal`), and holds no blank,
so trimming leaves it whole. The texts that are read as a signed number are those
that denote one (`Denotes`, `signed_eq_ok_iff`): leading zeros do no harm, since
what the digits so far are worth is never more than what all are worth. A number
above zero is read by its spelling also where no minus sign is taken
(`unsigned_eq_ok_iff`).
-/

namespace ComposeDeploy.Text.Numeral

/-! ### Reading what was written -/

theorem digit?_digitChar : ∀ d, d < 10 → digit? (Nat.digitChar d) = some d := by
  decide

/-- Reading goes on after the first digits with what those are worth. -/
theorem readDigits_append {bound : Nat} {first : List Char} {n worth : Nat}
    (read : readDigits bound n first = .ok worth) (second : List Char) :
    readDigits bound n (first ++ second) = readDigits bound worth second := by
  induction first generalizing n with
  | nil =>
    cases read
    rfl
  | cons c cs ih =>
    rw [List.cons_append]
    simp only [readDigits] at read ⊢
    split at read
    · cases read
    · split at read
      · rename_i small
        rw [if_pos small]
        exact ih read
      · cases read

theorem readDigits_digitChar {bound n d : Nat} (digit : d < 10) (small : n * 10 + d < bound) :
    readDigits bound n [Nat.digitChar d] = .ok (n * 10 + d) := by
  simp only [readDigits, digit?_digitChar d digit, small, if_true]

/-- The digits of a number below the bound are worth that number. -/
theorem readDigits_decimal {bound : Nat} (n : Nat) (small : n < bound) :
    readDigits bound 0 (decimal n) = .ok n := by
  induction n using Nat.strongRecOn with
  | _ n ih =>
    unfold decimal at ih ⊢
    by_cases single : n < 10
    · have read : readDigits bound 0 [Nat.digitChar n] = .ok (0 * 10 + n) :=
        readDigits_digitChar single (by omega)
      rwa [Nat.zero_mul, Nat.zero_add, ← Nat.toDigits_of_lt_base single] at read
    · have shorter := ih (n / 10) (by omega) (by omega)
      have whole : n / 10 * 10 + n % 10 = n := by omega
      rw [Nat.toDigits_of_base_le (by omega) (by omega), readDigits_append shorter,
        readDigits_digitChar (Nat.mod_lt n (by omega)) (by omega), whole]

theorem isDigit_of_mem_decimal {n : Nat} {c : Char} (member : c ∈ decimal n) :
    c.isDigit = true :=
  Nat.isDigit_of_mem_toDigits (by omega) (by omega) member

theorem not_isBlank_of_isDigit {c : Char} (digit : c.isDigit = true) : isBlank c = false := by
  simp only [Char.isDigit, Bool.and_eq_true, decide_eq_true_eq, ge_iff_le,
    UInt32.le_iff_toNat_le] at digit
  obtain ⟨low, high⟩ := digit
  change 48 ≤ c.toNat at low
  change c.toNat ≤ 57 at high
  unfold isBlank
  simp
  omega

/-- A positive or zero number that a signed word holds is read without a sign. -/
theorem signed_decimal {n : Nat} (small : n < signedBound) : signed (decimal n) = .ok n := by
  have read := readDigits_decimal n small
  have digits := @isDigit_of_mem_decimal n
  cases numeral : decimal n with
  | nil => exact absurd numeral Nat.toDigits_ne_nil
  | cons c cs =>
    rw [numeral] at read digits
    have digit := digits List.mem_cons_self
    have notPlus : c ≠ '+' := by
      rintro rfl
      cases digit
    have notMinus : c ≠ '-' := by
      rintro rfl
      cases digit
    simp [signed, notPlus, notMinus, read]
    rfl

/-! ### What numerals denote -/

/-- One or more decimal digits, worth `n` together. -/
structure IsDigits (cs : List Char) (n : Nat) : Prop where
  nonempty : cs ≠ []
  digits : ∀ c ∈ cs, c.isDigit = true
  worth : n = Nat.ofDigitChars 10 cs 0

/-- A text that spells an integer: digits, before which a sign may stand. -/
inductive Spells : List Char → Int → Prop where
  | plain {cs : List Char} {n : Nat} : IsDigits cs n → Spells cs n
  | plus {cs : List Char} {n : Nat} : IsDigits cs n → Spells ('+' :: cs) n
  | minus {cs : List Char} {n : Nat} : IsDigits cs n → Spells ('-' :: cs) (-n)

/-- A text that denotes a number that fits into a signed 64-bit word. -/
structure Denotes (cs : List Char) (value : Int) : Prop where
  spells : Spells cs value
  low : -0x8000000000000000 ≤ value
  high : value < 0x8000000000000000

theorem digit?_eq_some_iff {c : Char} {d : Nat} :
    digit? c = some d ↔ c.isDigit = true ∧ c.toNat - '0'.toNat = d := by
  unfold digit?
  split <;> simp_all

theorem le_ofDigitChars (cs : List Char) : ∀ n, n ≤ Nat.ofDigitChars 10 cs n := by
  induction cs with
  | nil => exact fun n => Nat.le_of_eq Nat.ofDigitChars_nil.symm
  | cons c cs ih =>
    intro n
    rw [Nat.ofDigitChars_cons]
    have := ih (10 * n + (c.toNat - '0'.toNat))
    omega

/-- Digits are read if what they are worth stays below the bound. -/
theorem readDigits_eq_ok_iff {bound : Nat} {cs : List Char} {value : Nat} :
    ∀ {n}, n < bound → (readDigits bound n cs = .ok value ↔
      (∀ c ∈ cs, c.isDigit = true) ∧ value = Nat.ofDigitChars 10 cs n ∧ value < bound) := by
  induction cs with
  | nil =>
    intro n small
    simp only [readDigits, Except.ok.injEq, Nat.ofDigitChars_nil]
    constructor
    · rintro rfl
      exact ⟨List.forall_mem_nil _, rfl, small⟩
    · rintro ⟨_, rfl, _⟩
      rfl
  | cons c cs ih =>
    intro n small
    rw [List.forall_mem_cons, Nat.ofDigitChars_cons, readDigits]
    cases digit : digit? c with
    | none =>
      have noDigit : c.isDigit = false := by
        simpa [digit?] using digit
      simp [noDigit]
    | some d =>
      obtain ⟨isDigit, rfl⟩ := digit?_eq_some_iff.mp digit
      rw [Nat.mul_comm 10 n]
      by_cases fits : n * 10 + (c.toNat - '0'.toNat) < bound
      · simp only [if_pos fits, ih fits, isDigit, true_and]
      · have grows := le_ofDigitChars cs (n * 10 + (c.toNat - '0'.toNat))
        simp only [if_neg fits]
        constructor
        · nofun
        · rintro ⟨_, rfl, small⟩
          omega

/-- Digits are read from the start if there are any. -/
theorem readDigits_zero_eq_ok_iff {bound : Nat} {cs : List Char} {n : Nat} (positive : 0 < bound)
    (nonempty : cs ≠ []) : readDigits bound 0 cs = .ok n ↔ IsDigits cs n ∧ n < bound := by
  rw [readDigits_eq_ok_iff positive]
  constructor
  · rintro ⟨digits, worth, small⟩
    exact ⟨⟨nonempty, digits, worth⟩, small⟩
  · rintro ⟨isDigits, small⟩
    exact ⟨isDigits.digits, isDigits.worth, small⟩

/-- Digits that are read are worth what is made of them. -/
theorem map_readDigits_eq_ok_iff {α : Type} {bound : Nat} {cs : List Char} {f : Nat → α} {a : α}
    (positive : 0 < bound) (nonempty : cs ≠ []) :
    (readDigits bound 0 cs).map f = .ok a ↔ ∃ n, IsDigits cs n ∧ n < bound ∧ f n = a := by
  constructor
  · intro mapped
    cases read : readDigits bound 0 cs with
    | error problem =>
      rw [read] at mapped
      cases mapped
    | ok n =>
      rw [read] at mapped
      cases mapped
      obtain ⟨isDigits, small⟩ := (readDigits_zero_eq_ok_iff positive nonempty).mp read
      exact ⟨n, isDigits, small, rfl⟩
  · rintro ⟨n, isDigits, small, rfl⟩
    rw [(readDigits_zero_eq_ok_iff positive nonempty).mpr ⟨isDigits, small⟩]
    rfl

/-- No sign is looked for before digits. -/
theorem signed_of_isDigits {cs : List Char} {n : Nat} (isDigits : IsDigits cs n) :
    signed cs = (readDigits signedBound 0 cs).map Int.ofNat := by
  unfold signed
  split
  · exact absurd rfl isDigits.nonempty
  · cases isDigits.digits '+' List.mem_cons_self
  · cases isDigits.digits '-' List.mem_cons_self
  · cases isDigits.digits '+' List.mem_cons_self
  · cases isDigits.digits '-' List.mem_cons_self
  · rfl

theorem signed_plus {cs : List Char} (nonempty : cs ≠ []) :
    signed ('+' :: cs) = (readDigits signedBound 0 cs).map Int.ofNat := by
  cases cs with
  | nil => exact absurd rfl nonempty
  | cons => rfl

theorem signed_minus {cs : List Char} (nonempty : cs ≠ []) :
    signed ('-' :: cs) = (readDigits (signedBound + 1) 0 cs).map fun n => -Int.ofNat n := by
  cases cs with
  | nil => exact absurd rfl nonempty
  | cons => rfl

theorem signedBound_eq : signedBound = 0x8000000000000000 := rfl

theorem Spells.denotes {cs : List Char} {n : Nat} (spells : Spells cs n)
    (small : n < signedBound) : Denotes cs n where
  spells := spells
  low := by omega
  high := by
    rw [signedBound_eq] at small
    omega

/-- Below zero there is one number more. -/
theorem Spells.denotes_neg {cs : List Char} {n : Nat} (spells : Spells cs (-n))
    (small : n < signedBound + 1) : Denotes cs (-n) where
  spells := spells
  low := by
    rw [signedBound_eq] at small
    omega
  high := by omega

/-- A signed number is read from the texts that denote it, and from no others. -/
theorem signed_eq_ok_iff {cs : List Char} {value : Int} :
    signed cs = .ok value ↔ Denotes cs value := by
  have positive : 0 < signedBound := by decide
  constructor
  · intro read
    unfold signed at read
    split at read
    · cases read
    · cases read
    · cases read
    · next nonempty =>
      obtain ⟨n, isDigits, small, rfl⟩ := (map_readDigits_eq_ok_iff positive nonempty).mp read
      exact (Spells.plus isDigits).denotes small
    · next nonempty =>
      obtain ⟨n, isDigits, small, rfl⟩ :=
        (map_readDigits_eq_ok_iff (Nat.succ_pos _) nonempty).mp read
      exact (Spells.minus isDigits).denotes_neg small
    · next nonempty _ _ _ _ =>
      obtain ⟨n, isDigits, small, rfl⟩ := (map_readDigits_eq_ok_iff positive nonempty).mp read
      exact (Spells.plain isDigits).denotes small
  · rintro ⟨spells, low, high⟩
    cases spells with
    | plain isDigits =>
      rw [signed_of_isDigits isDigits, map_readDigits_eq_ok_iff positive isDigits.nonempty]
      exact ⟨_, isDigits, by rw [signedBound_eq]; omega, rfl⟩
    | plus isDigits =>
      rw [signed_plus isDigits.nonempty, map_readDigits_eq_ok_iff positive isDigits.nonempty]
      exact ⟨_, isDigits, by rw [signedBound_eq]; omega, rfl⟩
    | minus isDigits =>
      rw [signed_minus isDigits.nonempty,
        map_readDigits_eq_ok_iff (Nat.succ_pos _) isDigits.nonempty]
      exact ⟨_, isDigits, by rw [signedBound_eq]; omega, rfl⟩

theorem Denotes.unique {cs : List Char} {value other : Int} (denotes : Denotes cs value)
    (denotes' : Denotes cs other) : value = other :=
  Except.ok.inj ((signed_eq_ok_iff.mpr denotes).symm.trans (signed_eq_ok_iff.mpr denotes'))

/-! ### Numbers without a sign -/

/-- No sign is looked for before digits. -/
theorem unsigned_of_isDigits {bound : Nat} {cs : List Char} {n : Nat} (isDigits : IsDigits cs n) :
    unsigned bound cs = readDigits bound 0 cs := by
  unfold unsigned
  split
  · exact absurd rfl isDigits.nonempty
  · cases isDigits.digits '+' List.mem_cons_self
  · cases isDigits.digits '+' List.mem_cons_self
  · rfl

theorem unsigned_plus {bound : Nat} {cs : List Char} (nonempty : cs ≠ []) :
    unsigned bound ('+' :: cs) = readDigits bound 0 cs := by
  cases cs with
  | nil => exact absurd rfl nonempty
  | cons => rfl

/-- A number above zero is read from the texts that spell it, and from no others.
A zero may also be spelled with a minus sign, with which it is not read. -/
theorem unsigned_eq_ok_iff {bound : Nat} {cs : List Char} {n : Nat} (positive : 0 < bound)
    (aboveZero : 0 < n) : unsigned bound cs = .ok n ↔ Spells cs n ∧ n < bound := by
  constructor
  · intro read
    unfold unsigned at read
    split at read
    · cases read
    · cases read
    · next nonempty =>
      obtain ⟨isDigits, small⟩ := (readDigits_zero_eq_ok_iff positive nonempty).mp read
      exact ⟨.plus isDigits, small⟩
    · next nonempty _ _ =>
      obtain ⟨isDigits, small⟩ := (readDigits_zero_eq_ok_iff positive nonempty).mp read
      exact ⟨.plain isDigits, small⟩
  · rintro ⟨spells, small⟩
    generalize value : (n : Int) = i at spells
    cases spells with
    | plain isDigits =>
      cases Int.ofNat.inj value
      rw [unsigned_of_isDigits isDigits]
      exact (readDigits_zero_eq_ok_iff positive isDigits.nonempty).mpr ⟨isDigits, small⟩
    | plus isDigits =>
      cases Int.ofNat.inj value
      rw [unsigned_plus isDigits.nonempty]
      exact (readDigits_zero_eq_ok_iff positive isDigits.nonempty).mpr ⟨isDigits, small⟩
    | minus => omega

end ComposeDeploy.Text.Numeral
