import ComposeDeploy.Settings
import ComposeDeploy.Proofs.Text.Numerals

/-!
The environments that settings are read from.

A number is accepted if its text spells one from 1 on that a 64-bit word holds
(`Counts`). The interval may not have blanks around it, the limit may, and a limit
that is all blank is none (`GivesLimit`). `Settings.ofEnvironment_eq_ok_iff` says
that nothing else is accepted.
-/

namespace ComposeDeploy

/-- The text spells this number, which is at least 1 and fits into an unsigned
64-bit word. -/
structure Counts (text : String) (n : Nat) : Prop where
  spells : Text.Numeral.Spells text.toList n
  positive : 0 < n
  small : n < 0x10000000000000000

/-- The limit that the text of a variable sets. Without a text, or with a blank one,
there is none. -/
inductive GivesLimit : (text : Option String) → (limit : Option Nat) → Prop where
  | unset : GivesLimit none none
  | blank {text : String} : Text.trim text = "" → GivesLimit (some text) none
  | count {text : String} {n : Nat} : Counts (Text.trim text) n → GivesLimit (some text) (some n)

/-- The settings are those of the environment. -/
structure Settings.IsFrom (env : Environment) (settings : Settings) : Prop where
  address : settings.captureAddress = (env "ZODIAC_PROXY_ADDRESS").getD "localhost:61908"
  addressed : Text.trim settings.captureAddress ≠ ""
  tool : settings.composeTool = (env "ZODIAC_COMPOSE_BINARY").getD "docker-compose"
  interval : Counts ((env "ZODIAC_CREATE_RETRY_SECS").getD "5") settings.createRetrySeconds
  limit : GivesLimit (env "ZODIAC_HISTORY_LIMIT") settings.historyLimit

theorem Counts.ne_empty {text : String} {n : Nat} (counts : Counts text n) : text ≠ "" := by
  rintro rfl
  obtain ⟨spells, _, _⟩ := counts
  cases spells with
  | plain isDigits => exact isDigits.nonempty rfl

theorem GivesLimit.ne_zero {text : Option String} {limit : Option Nat}
    (gives : GivesLimit text limit) : limit ≠ some 0 := by
  rintro rfl
  cases gives with
  | count counts => exact Nat.lt_irrefl 0 counts.positive

namespace Settings

variable {env : Environment} {settings : Settings}

theorem number_eq_ok_iff {setting : Setting} {text : String} {n : Nat} (positive : 0 < n) :
    number setting text = .ok n ↔ Counts text n := by
  have bound : 0 < Text.Numeral.wordBound := by decide
  have read : number setting text = .ok n ↔ Text.Numeral.word text.toList = .ok n := by
    unfold number
    cases Text.Numeral.word text.toList <;> simp [Except.mapError]
  rw [read, Text.Numeral.word, Text.Numeral.unsigned_eq_ok_iff bound positive]
  exact ⟨fun ⟨spells, small⟩ => ⟨spells, positive, small⟩,
    fun ⟨spells, _, small⟩ => ⟨spells, small⟩⟩

theorem limit_some {text : String} (filled : Text.trim text ≠ "") :
    limit (some text) = (number .historyLimit (Text.trim text)).map some := by
  unfold limit
  rw [Option.map_some, Option.filter_some, if_pos (decide_eq_true filled)]

theorem limit_eq_ok_iff {text : Option String} {given : Option Nat} (nonzero : given ≠ some 0) :
    limit text = .ok given ↔ GivesLimit text given := by
  constructor
  · intro read
    cases text with
    | none =>
      cases read
      exact .unset
    | some text =>
      by_cases filled : Text.trim text = ""
      · simp only [limit, Option.map_some, filled, Option.filter_some] at read
        cases read
        exact .blank filled
      · rw [limit_some filled] at read
        cases counted : number .historyLimit (Text.trim text) with
        | error e =>
          rw [counted] at read
          cases read
        | ok n =>
          rw [counted] at read
          cases read
          have positive : 0 < n := Nat.pos_of_ne_zero fun zero => nonzero (congrArg some zero)
          exact .count ((number_eq_ok_iff positive).mp counted)
  · intro gives
    cases gives with
    | unset => rfl
    | blank filled => simp only [limit, Option.map_some, filled, Option.filter_some]; rfl
    | count counts =>
      rw [limit_some counts.ne_empty, (number_eq_ok_iff counts.positive).mpr counts]
      rfl

theorem checked_eq_ok_iff {given : Settings} :
    checked given = .ok settings ↔ given = settings ∧ Text.trim settings.captureAddress ≠ "" ∧
      0 < settings.createRetrySeconds ∧ settings.historyLimit ≠ some 0 := by
  unfold checked
  constructor
  · intro accepted
    split at accepted
    · cases accepted
    · next addressed =>
      split at accepted
      · cases accepted
      · next seconds =>
        split at accepted
        · cases accepted
        · next limit =>
          cases accepted
          exact ⟨rfl, addressed, Nat.pos_of_ne_zero seconds, limit⟩
  · rintro ⟨rfl, addressed, seconds, limit⟩
    rw [if_neg addressed, if_neg (Nat.ne_of_gt seconds), if_neg limit]

/-- What is read of the two numbers is checked together with the other texts. -/
theorem ofEnvironment_of_ok {seconds : Nat} {remembered : Option Nat}
    (counted : number .createRetrySeconds ((env Setting.createRetrySeconds.name).getD "5") =
      .ok seconds)
    (given : limit (env Setting.historyLimit.name) = .ok remembered) :
    ofEnvironment env = checked {
      captureAddress := (env Setting.captureAddress.name).getD "localhost:61908"
      composeTool := (env Setting.composeTool.name).getD "docker-compose"
      createRetrySeconds := seconds
      historyLimit := remembered } := by
  unfold ofEnvironment
  rw [counted, given]
  rfl

/-- Settings are accepted exactly if they are those of the environment. -/
theorem ofEnvironment_eq_ok_iff : ofEnvironment env = .ok settings ↔ settings.IsFrom env := by
  constructor
  · intro accepted
    cases counted : number .createRetrySeconds
        ((env Setting.createRetrySeconds.name).getD "5") with
    | error e =>
      rw [ofEnvironment, counted] at accepted
      cases accepted
    | ok seconds =>
      cases given : limit (env Setting.historyLimit.name) with
      | error e =>
        rw [ofEnvironment, counted, given] at accepted
        cases accepted
      | ok remembered =>
        rw [ofEnvironment_of_ok counted given] at accepted
        obtain ⟨rfl, addressed, positive, nonzero⟩ := checked_eq_ok_iff.mp accepted
        exact ⟨rfl, addressed, rfl, (number_eq_ok_iff positive).mp counted,
          (limit_eq_ok_iff nonzero).mp given⟩
  · rintro ⟨address, addressed, tool, interval, given⟩
    have counted : number .createRetrySeconds
        ((env Setting.createRetrySeconds.name).getD "5") = .ok settings.createRetrySeconds :=
      (number_eq_ok_iff interval.positive).mpr interval
    have remembered : limit (env Setting.historyLimit.name) = .ok settings.historyLimit :=
      (limit_eq_ok_iff given.ne_zero).mpr given
    rw [ofEnvironment_of_ok counted remembered]
    refine checked_eq_ok_iff.mpr ⟨?_, addressed, interval.positive, given.ne_zero⟩
    obtain ⟨_, _, _, _⟩ := settings
    cases address
    cases tool
    rfl

/-- An environment from which no settings can be is refused. -/
theorem exists_error (unfit : ∀ settings : Settings, ¬ settings.IsFrom env) :
    ∃ e, ofEnvironment env = .error e := by
  cases read : ofEnvironment env with
  | error e => exact ⟨e, rfl⟩
  | ok settings => exact absurd (ofEnvironment_eq_ok_iff.mp read) (unfit settings)

/-- An interval that counts nothing is refused, whatever else is set. -/
theorem refuses_interval {text : String} (given : env "ZODIAC_CREATE_RETRY_SECS" = some text)
    (uncounted : ∀ n, ¬ Counts text n) : ∃ e, ofEnvironment env = .error e := by
  apply exists_error
  intro settings isFrom
  have interval := isFrom.interval
  rw [given] at interval
  exact uncounted _ interval

/-- So is a limit that is not blank. -/
theorem refuses_limit {text : String} (given : env "ZODIAC_HISTORY_LIMIT" = some text)
    (filled : Text.trim text ≠ "") (uncounted : ∀ n, ¬ Counts (Text.trim text) n) :
    ∃ e, ofEnvironment env = .error e := by
  apply exists_error
  intro settings isFrom
  have limit := isFrom.limit
  rw [given] at limit
  generalize settings.historyLimit = remembered at limit
  cases limit with
  | blank blank => exact filled blank
  | count counts => exact uncounted _ counts

end Settings

end ComposeDeploy
