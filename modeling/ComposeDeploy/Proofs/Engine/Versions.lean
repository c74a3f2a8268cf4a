import ComposeDeploy.Engine.Version
import ComposeDeploy.Proofs.Text.Numerals
import ComposeDeploy.Proofs.Text.Pieces
import Mathlib.Data.Prod.Lex

/-!
Which reported versions are supported.

A text tells a version by numbers with dots between them and perhaps a suffix
(`Version.Writes`, `Version.parse?_eq_some_iff`), and a swarm manager tells that it is
one (`Version.Reports`). Versions are ordered by their `rank`, in which the first
different number decides, so what is accepted depends on the numbers alone and not
on how many digits they have (`Version.check_comparesNumbers`).
-/

namespace ComposeDeploy.Version

/-! ### The order of versions -/

/-- The numbers of a version; the first in which two versions differ decides. -/
def rank (v : Version) : ℕ ×ₗ ℕ ×ₗ ℕ :=
  toLex (v.major, toLex (v.minor, v.patch))

theorem older_iff (a b : Version) : a.older b = true ↔ a.rank < b.rank := by
  simp [older, rank, Prod.Lex.toLex_lt_toLex]

/-! ### What texts write -/

/-- A decimal number that an unsigned 64-bit word holds. -/
structure IsNumber (cs : List Char) (n : Nat) : Prop where
  digits : Text.Numeral.IsDigits cs n
  small : n < 0x10000000000000000

/-- The version that the parts of a text give. Without a third part the patch level
is 0, and parts after the third may be anything. -/
inductive Gives : List (List Char) → Version → Prop where
  | two {major minor : List Char} {m n : Nat} : IsNumber major m → IsNumber minor n →
      Gives [major, minor] ⟨m, n, 0⟩
  | more {major minor patch : List Char} {others : List (List Char)} {m n p : Nat} :
      IsNumber major m → IsNumber minor n → IsNumber patch p →
      Gives (major :: minor :: patch :: others) ⟨m, n, p⟩

/-- The text writes this version: numbers, cut at dots, and perhaps a suffix, which
begins with a hyphen or a plus sign. -/
inductive Writes : List Char → Version → Prop where
  | mk {numbers suffix : List Char} {v : Version} : (∀ c ∈ numbers, c ≠ '-' ∧ c ≠ '+') →
      Gives (numbers.splitOn '.') v → (∀ c, suffix.head? = some c → c = '-' ∨ c = '+') →
      Writes (numbers ++ suffix) v

theorem component?_eq_some_iff {cs : List Char} {n : Nat} :
    component? cs = some n ↔ IsNumber cs n := by
  have positive : 0 < Text.Numeral.wordBound := by decide
  have read : component? cs = some n ↔
      Text.Numeral.natural Text.Numeral.wordBound cs = .ok n := by
    unfold component?
    cases Text.Numeral.natural Text.Numeral.wordBound cs <;> simp [Except.toOption]
  rw [read]
  cases cs with
  | nil =>
    constructor
    · nofun
    · rintro ⟨digits, _⟩
      exact absurd rfl digits.nonempty
  | cons c cs =>
    have digits := @Text.Numeral.readDigits_zero_eq_ok_iff _ _ n positive (List.cons_ne_nil c cs)
    constructor
    · intro natural
      obtain ⟨isDigits, small⟩ := digits.mp natural
      exact ⟨isDigits, small⟩
    · rintro ⟨isDigits, small⟩
      exact digits.mpr ⟨isDigits, small⟩

/-- The version that the parts of a text give, if they give one. -/
def ofParts? : List (List Char) → Option Version
  | [major, minor] => do return ⟨← component? major, ← component? minor, 0⟩
  | major :: minor :: patch :: _ => do
    return ⟨← component? major, ← component? minor, ← component? patch⟩
  | _ => none

theorem ofParts?_eq_some_iff {parts : List (List Char)} {v : Version} :
    ofParts? parts = some v ↔ Gives parts v := by
  constructor
  · intro read
    unfold ofParts? at read
    split at read
    · simp only [Option.bind_eq_bind, Option.bind_eq_some_iff, Option.pure_def, Option.some.injEq,
        component?_eq_some_iff] at read
      obtain ⟨m, isMajor, n, isMinor, rfl⟩ := read
      exact .two isMajor isMinor
    · simp only [Option.bind_eq_bind, Option.bind_eq_some_iff, Option.pure_def, Option.some.injEq,
        component?_eq_some_iff] at read
      obtain ⟨m, isMajor, n, isMinor, p, isPatch, rfl⟩ := read
      exact .more isMajor isMinor isPatch
    · cases read
  · intro gives
    cases gives with
    | two isMajor isMinor =>
      simp [ofParts?, component?_eq_some_iff.mpr isMajor, component?_eq_some_iff.mpr isMinor]
    | more isMajor isMinor isPatch =>
      simp [ofParts?, component?_eq_some_iff.mpr isMajor, component?_eq_some_iff.mpr isMinor,
        component?_eq_some_iff.mpr isPatch]

/-- Whether a character stands before the suffix. -/
def isBeforeSuffix (c : Char) : Bool :=
  c ≠ '-' && c ≠ '+'

theorem isBeforeSuffix_iff {c : Char} : isBeforeSuffix c = true ↔ c ≠ '-' ∧ c ≠ '+' := by
  simp [isBeforeSuffix]

theorem parse?_eq (cs : List Char) :
    parse? cs = ofParts? ((cs.takeWhile isBeforeSuffix).splitOn '.') := by
  rw [List.splitOn_eq_splitOnP, ← Text.pieces_eq_splitOnP]
  rfl

theorem parse?_eq_some_iff {cs : List Char} {v : Version} :
    parse? cs = some v ↔ Writes cs v := by
  rw [parse?_eq, ofParts?_eq_some_iff]
  constructor
  · intro gives
    rw [← List.takeWhile_append_dropWhile (p := isBeforeSuffix) (l := cs)]
    refine .mk (fun c member => isBeforeSuffix_iff.mp (List.mem_takeWhile_imp member)) gives ?_
    -- The numbers end where the first character of a suffix stands.
    intro c first
    have stopped : isBeforeSuffix c = false := by
      have stops := List.head?_dropWhile_not isBeforeSuffix cs
      rwa [first] at stops
    by_contra neither
    rw [not_or] at neither
    rw [isBeforeSuffix_iff.mpr neither] at stopped
    cases stopped
  · rintro ⟨plain, gives, ended⟩
    rename_i numbers suffix
    -- No other cut is possible, since no such character stands among the numbers.
    have cut : (numbers ++ suffix).takeWhile isBeforeSuffix = numbers := by
      rw [List.takeWhile_append_of_pos fun c member => isBeforeSuffix_iff.mpr (plain c member)]
      cases suffix with
      | nil => simp
      | cons c rest =>
        rcases ended c rfl with rfl | rfl
        · simp [isBeforeSuffix]
        · simp [isBeforeSuffix]
    rwa [cut]

theorem Writes.unique {cs : List Char} {v w : Version} (writes : Writes cs v)
    (writes' : Writes cs w) : v = w :=
  Option.some.inj ((parse?_eq_some_iff.mpr writes).symm.trans (parse?_eq_some_iff.mpr writes'))

/-! ### Reports -/

/-- What reports a version. -/
inductive Reporter where
  | engine
  | swarm

namespace Reporter

/-- How a reporter is called in a refusal. -/
def name : Reporter → String
  | engine => "Docker"
  | swarm => "Swarm"

/-- The oldest version that is supported. -/
def oldest : Reporter → Version
  | engine => ⟨1, 6, 0⟩
  | swarm => ⟨0, 3, 0⟩

/-- Refuses the version of a reporter if it is not understood or too old. -/
def judge (reporter : Reporter) (numbers : String) : Except Error Unit :=
  match parse? numbers.toList with
  | none => .error (.unsupportedVersion ("can't understand version '" ++ numbers ++ "'"))
  | some version =>
    if version.older reporter.oldest then
      .error (.unsupportedVersion (reporter.name ++ " API must be " ++ reporter.oldest.render ++
        " or above, but it is " ++ numbers))
    else .ok ()

theorem judge_eq_ok_iff {reporter : Reporter} {numbers : String} :
    reporter.judge numbers = .ok () ↔
      ∃ v, Writes numbers.toList v ∧ reporter.oldest.rank ≤ v.rank := by
  unfold judge
  cases read : parse? numbers.toList with
  | none =>
    constructor
    · nofun
    · rintro ⟨v, writes, _⟩
      rw [parse?_eq_some_iff.mpr writes] at read
      cases read
  | some version =>
    have writes := parse?_eq_some_iff.mp read
    by_cases tooOld : version.older reporter.oldest = true
    · simp only [tooOld, if_true]
      constructor
      · nofun
      · rintro ⟨v, writes', recent⟩
        rw [writes'.unique writes] at recent
        exact absurd ((older_iff _ _).mp tooOld) (not_lt_of_ge recent)
    · simp only [tooOld]
      rw [older_iff, not_lt] at tooOld
      exact ⟨fun _ => ⟨version, writes, tooOld⟩, fun _ => rfl⟩

theorem judge_eq_error {reporter : Reporter} {numbers : String} {e : Error}
    (refused : reporter.judge numbers = .error e) : ∃ text, e = .unsupportedVersion text := by
  unfold judge at refused
  split at refused
  · cases refused
    exact ⟨_, rfl⟩
  · split at refused
    · cases refused
      exact ⟨_, rfl⟩
    · cases refused

end Reporter

/-- What a text reports, the blanks around it apart: a swarm manager puts `swarm/`
before its version. -/
inductive Reports (reported : String) : Reporter → Version → Prop where
  | swarm {numbers : List Char} {v : Version} :
      (Text.trim reported).toList = "swarm/".toList ++ numbers → Writes numbers v →
      Reports reported .swarm v
  | engine {v : Version} :
      (∀ numbers, (Text.trim reported).toList ≠ "swarm/".toList ++ numbers) →
      Writes (Text.trim reported).toList v → Reports reported .engine v

section Check

variable {reported : String}

theorem check_of_swarm {numbers : List Char}
    (start : (Text.trim reported).toList = "swarm/".toList ++ numbers) :
    check reported = Reporter.swarm.judge (String.ofList numbers) := by
  simp only [check, Text.afterStart, Text.stripStart_eq_some_iff.mpr start, Option.map_some,
    Reporter.judge]
  cases parse? (String.ofList numbers).toList with
  | none => rfl
  | some version => rfl

theorem check_of_engine
    (plain : ∀ numbers, (Text.trim reported).toList ≠ "swarm/".toList ++ numbers) :
    check reported = Reporter.engine.judge (Text.trim reported) := by
  simp only [check, Text.afterStart, Text.stripStart_eq_none_iff.mpr plain, Option.map_none,
    Reporter.judge]
  cases parse? (Text.trim reported).toList with
  | none => rfl
  | some version => rfl

/-- A text reports a version of a swarm manager or one of an engine. -/
theorem swarm_or_engine (reported : String) :
    (∃ numbers, (Text.trim reported).toList = "swarm/".toList ++ numbers) ∨
      ∀ numbers, (Text.trim reported).toList ≠ "swarm/".toList ++ numbers := by
  by_cases start : ∃ numbers, (Text.trim reported).toList = "swarm/".toList ++ numbers
  · exact .inl start
  · exact .inr fun numbers same => start ⟨numbers, same⟩

theorem check_eq_ok_iff : check reported = .ok () ↔
    ∃ reporter v, Reports reported reporter v ∧ reporter.oldest.rank ≤ v.rank := by
  constructor
  · intro accepted
    rcases swarm_or_engine reported with ⟨numbers, start⟩ | plain
    · rw [check_of_swarm start, Reporter.judge_eq_ok_iff, String.toList_ofList] at accepted
      obtain ⟨v, writes, recent⟩ := accepted
      exact ⟨_, v, .swarm start writes, recent⟩
    · rw [check_of_engine plain, Reporter.judge_eq_ok_iff] at accepted
      obtain ⟨v, writes, recent⟩ := accepted
      exact ⟨_, v, .engine plain writes, recent⟩
  · rintro ⟨_, v, reports, recent⟩
    cases reports with
    | swarm start writes =>
      rw [check_of_swarm start, Reporter.judge_eq_ok_iff, String.toList_ofList]
      exact ⟨v, writes, recent⟩
    | engine plain writes =>
      rw [check_of_engine plain, Reporter.judge_eq_ok_iff]
      exact ⟨v, writes, recent⟩

theorem check_eq_error {e : Error} (refused : check reported = .error e) :
    ∃ text, e = .unsupportedVersion text := by
  rcases swarm_or_engine reported with ⟨numbers, start⟩ | plain
  · rw [check_of_swarm start] at refused
    exact Reporter.judge_eq_error refused
  · rw [check_of_engine plain] at refused
    exact Reporter.judge_eq_error refused

/-- A text reports one version at most. -/
theorem Reports.unique {reporter other : Reporter} {v w : Version}
    (reports : Reports reported reporter v) (reports' : Reports reported other w) :
    reporter = other ∧ v = w := by
  cases reports with
  | swarm start writes =>
    cases reports' with
    | swarm start' writes' =>
      have same := List.append_cancel_left (start.symm.trans start')
      exact ⟨rfl, writes.unique (same ▸ writes')⟩
    | engine plain => exact absurd start (plain _)
  | engine plain writes =>
    cases reports' with
    | swarm start => exact absurd start (plain _)
    | engine _ writes' => exact ⟨rfl, writes.unique writes'⟩

end Check

/-- A version is accepted exactly if it is understood and its numbers are, the first
different one deciding, at least those of the oldest supported version; with any
version, one with higher numbers is accepted, however they are written. All else is
refused as an unsupported version. -/
theorem check_comparesNumbers (reported : String) :
    (check reported = .ok () ↔
      ∃ reporter v, Reports reported reporter v ∧ reporter.oldest.rank ≤ v.rank) ∧
    (∀ reporter v, Reports reported reporter v →
      (∀ other w, Reports reported other w → other = reporter ∧ w = v) ∧
      ∀ newer w, Reports newer reporter w → v.rank ≤ w.rank →
        check reported = .ok () → check newer = .ok ()) ∧
    ∀ e, check reported = .error e → ∃ text, e = .unsupportedVersion text := by
  refine ⟨check_eq_ok_iff, fun reporter v reports => ⟨?_, ?_⟩, fun e => check_eq_error⟩
  · intro other w reports'
    exact reports'.unique reports
  · intro newer w reportsNewer higher accepted
    obtain ⟨other, u, reports', recent⟩ := check_eq_ok_iff.mp accepted
    obtain ⟨rfl, rfl⟩ := reports'.unique reports
    exact check_eq_ok_iff.mpr ⟨other, w, reportsNewer, recent.trans higher⟩

/-- A number with more digits is not a lower one. -/
theorem check_comparesNumbers_digits :
    Reports "1.6.0" .engine ⟨1, 6, 0⟩ ∧ Reports " 1.10+x " .engine ⟨1, 10, 0⟩ ∧
    check "1.6.0" = .ok () ∧ check " 1.10+x " = .ok () := by
  have isNumber {cs : List Char} {n : Nat} (digits : Text.Numeral.IsDigits cs n)
      (small : n < 100) : IsNumber cs n := ⟨digits, by omega⟩
  have one : IsNumber ['1'] 1 := isNumber ⟨nofun, by simp, rfl⟩ (by decide)
  have six : IsNumber ['6'] 6 := isNumber ⟨nofun, by simp, rfl⟩ (by decide)
  have ten : IsNumber ['1', '0'] 10 := isNumber ⟨nofun, by simp, rfl⟩ (by decide)
  have zero : IsNumber ['0'] 0 := isNumber ⟨nofun, by simp, rfl⟩ (by decide)
  have older : Reports "1.6.0" .engine ⟨1, 6, 0⟩ :=
    .engine (fun _ same => by cases congrArg List.head? same)
      (@Writes.mk "1.6.0".toList [] _ (by simp) (.more one six zero) nofun)
  have newer : Reports " 1.10+x " .engine ⟨1, 10, 0⟩ :=
    .engine (fun _ same => by cases congrArg List.head? same)
      (@Writes.mk "1.10".toList "+x".toList _ (by simp) (.two one ten) (by simp))
  have accepted : check "1.6.0" = .ok () :=
    (check_comparesNumbers "1.6.0").1.mpr ⟨_, _, older, le_refl _⟩
  have higher : rank ⟨1, 6, 0⟩ ≤ rank ⟨1, 10, 0⟩ := by decide
  exact ⟨older, newer, accepted,
    ((check_comparesNumbers "1.6.0").2.1 _ _ older).2 _ _ newer higher accepted⟩

end ComposeDeploy.Version
