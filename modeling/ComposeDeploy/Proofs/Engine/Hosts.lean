import ComposeDeploy.Engine.Address
import ComposeDeploy.Proofs.Text.Pieces
import ComposeDeploy.Proofs.Text.Trimming
import Mathlib.Data.List.Forall2

/-!
The hosts of a list and the engines that are reached at them.

A list of hosts is a text with commas in it. `ListsHosts` says which hosts it lists:
the parts that are not blank, each without the blanks at its ends, in order and as
often as they stand there, and the local engine alone if there are none
(`hostsOf_eq_iff`). Written out again the hosts are the same, and where they are reached
there is one engine for each of them, named like it (`hostsOf_keepsAll`).
-/

namespace ComposeDeploy

/-! ### Hosts -/

/-- These parts name these hosts: a blank part names none, any other the host that it is
without blanks at its ends. -/
inductive NamesHosts : (parts hosts : List String) → Prop where
  | none : NamesHosts [] []
  | blank {part : String} {parts hosts : List String} :
      (∀ c ∈ part.toList, Text.isBlank c = true) → NamesHosts parts hosts →
      NamesHosts (part :: parts) hosts
  | host {part host : String} {parts hosts : List String} :
      Text.IsTrimmed part host → host ≠ "" → NamesHosts parts hosts →
      NamesHosts (part :: parts) (host :: hosts)

/-- A text lists these hosts: those that the parts between its commas name, or the host
of the local engine if they name none. -/
inductive ListsHosts (text : String) : (hosts : List String) → Prop where
  | named {parts hosts : List String} : Text.IsJoined ',' parts text → NamesHosts parts hosts →
      hosts ≠ [] → ListsHosts text hosts
  | unnamed {parts : List String} : Text.IsJoined ',' parts text → NamesHosts parts [] →
      ListsHosts text [""]

theorem namesHosts_iff {parts hosts : List String} :
    NamesHosts parts hosts ↔ (parts.map Text.trim).filter (· ≠ "") = hosts := by
  constructor
  · intro names
    induction names with
    | none => rfl
    | blank blank _ ih =>
      rw [List.map_cons, Text.trim_eq_empty_iff.mpr blank]
      exact ih
    | host trimmed named _ ih =>
      rw [List.map_cons, Text.trim_eq_iff.mpr trimmed,
        List.filter_cons_of_pos (by simpa using named), ih]
  · rintro rfl
    induction parts with
    | nil => exact .none
    | cons part parts ih =>
      rw [List.map_cons]
      by_cases blank : Text.trim part = ""
      · rw [List.filter_cons_of_neg (by simpa using blank)]
        exact .blank (Text.trim_eq_empty_iff.mp blank) ih
      · rw [List.filter_cons_of_pos (by simpa using blank)]
        exact .host (Text.trim_eq_iff.mp rfl) blank ih

theorem hostsOf_eq_iff {text : String} {hosts : List String} :
    hostsOf text = hosts ↔ ListsHosts text hosts := by
  unfold hostsOf
  constructor
  · rintro rfl
    have cut : Text.IsJoined ',' (Text.split text ',') text := Text.split_eq_iff.mp rfl
    have names := namesHosts_iff.mpr
      (rfl : ((Text.split text ',').map Text.trim).filter (· ≠ "") = _)
    by_cases unnamed : ((Text.split text ',').map Text.trim).filter (· ≠ "") = []
    · rw [unnamed] at names ⊢
      exact .unnamed cut names
    · rw [if_neg (by simpa using unnamed)]
      exact .named cut names unnamed
  · intro lists
    cases lists with
    | named cut names filled =>
      rw [Text.split_eq_iff.mpr cut, namesHosts_iff.mp names]
      exact if_neg (by simpa using filled)
    | unnamed cut names =>
      rw [Text.split_eq_iff.mpr cut, namesHosts_iff.mp names]
      rfl

/-- A host of a list has no blanks at its ends and no comma in it. -/
structure IsHost (host : String) : Prop where
  trimmed : Text.trim host = host
  unbroken : ',' ∉ host.toList

theorem NamesHosts.isHost {parts hosts : List String} (names : NamesHosts parts hosts)
    (unbroken : ∀ part ∈ parts, ',' ∉ part.toList) : ∀ host ∈ hosts, IsHost host ∧ host ≠ "" := by
  induction names with
  | none => exact List.forall_mem_nil _
  | blank _ _ ih => exact ih (List.forall_mem_cons.mp unbroken).2
  | host trimmed named _ ih =>
    obtain ⟨first, rest⟩ := List.forall_mem_cons.mp unbroken
    refine List.forall_mem_cons.mpr ⟨⟨⟨Text.trim_of_unblank trimmed.start trimmed.stop, ?_⟩, named⟩,
      ih rest⟩
    obtain ⟨before, after, within, _⟩ := trimmed.within
    exact fun member => first (by simp [within, member])

theorem namesHosts_self {hosts : List String} (areHosts : ∀ host ∈ hosts, IsHost host ∧ host ≠ "") :
    NamesHosts hosts hosts := by
  induction hosts with
  | nil => exact .none
  | cons host hosts ih =>
    obtain ⟨⟨isHost, named⟩, rest⟩ := List.forall_mem_cons.mp areHosts
    exact .host (Text.trim_eq_iff.mp isHost.trimmed) named (ih rest)

namespace ListsHosts

variable {text : String} {hosts : List String}

theorem ne_nil (lists : ListsHosts text hosts) : hosts ≠ [] := by
  cases lists with
  | named _ _ filled => exact filled
  | unnamed => exact List.cons_ne_nil _ _

theorem isHost (lists : ListsHosts text hosts) : ∀ host ∈ hosts, IsHost host := by
  cases lists with
  | named cut names _ => exact fun host member => (names.isHost cut.unbroken host member).1
  | unnamed => exact List.forall_mem_singleton.mpr ⟨rfl, List.not_mem_nil⟩

/-- Written out again, the hosts are the same. -/
theorem intercalate (lists : ListsHosts text hosts) : ListsHosts (",".intercalate hosts) hosts := by
  have written : Text.IsJoined ',' hosts (",".intercalate hosts) :=
    ⟨lists.ne_nil, fun host member => (lists.isHost host member).unbroken, rfl⟩
  cases lists with
  | named cut names filled =>
    exact .named written (namesHosts_self (names.isHost cut.unbroken)) filled
  | unnamed => exact .unnamed written (.blank (List.forall_mem_nil _) .none)

end ListsHosts

/-! ### Engines -/

/-- Items are read without a failure if each of them is. -/
theorem mapM_eq_ok_iff_forall₂ {ε α β : Type} {f : α → Except ε β} {xs : List α} {ys : List β} :
    xs.mapM f = .ok ys ↔ List.Forall₂ (fun x y => f x = .ok y) xs ys := by
  induction xs generalizing ys with
  | nil => simp [pure, Except.pure, eq_comm]
  | cons x xs ih =>
    rw [List.mapM_cons, List.forall₂_cons_left_iff]
    cases f x with
    | error e => simp [bind, Except.bind]
    | ok y =>
      simp only [bind, Except.bind, pure, Except.pure, ← ih]
      cases xs.mapM f with
      | error e => simp
      | ok others => simp [eq_comm]

namespace Connection

variable {env : Environment} {files : Files} {c : Connection}

/-- To reach the host neither a socket file nor a certificate is needed. -/
structure NeedsNoFile (c : Connection) (host : String) : Prop where
  unsecured : c.tls = false
  remote : host ≠ ""
  noSocket : ∀ path, host ≠ "unix://" ++ path

/-- The name of the engine that is reached at a host. -/
def engineName (host : String) : String :=
  if host = "" then "local" else host

theorem socketPath?_eq_none_iff {host : String} :
    socketPath? env host = none ↔ host ≠ "" ∧ ∀ path, host ≠ "unix://" ++ path := by
  unfold socketPath?
  by_cases isLocal : host = ""
  · simp [isLocal]
  · rw [if_neg isLocal, Option.map_eq_none_iff, Text.afterStart_eq_none_iff]
    exact (and_iff_right isLocal).symm

section Reach

variable {host : String} (isHost : IsHost host)

include isHost

theorem reach_of_needsNoFile (needs : c.NeedsNoFile host) :
    { c with host }.reach env files = .ok host := by
  unfold reach
  simp only [isHost.trimmed, socketPath?_eq_none_iff.mpr ⟨needs.remote, needs.noSocket⟩,
    needs.unsecured, Bool.false_eq_true, if_false]

/-- An engine that is reached is named like its host. -/
theorem reach_eq_ok {name : String} (reached : { c with host }.reach env files = .ok name) :
    name = engineName host := by
  unfold reach at reached
  simp only [isHost.trimmed] at reached
  split at reached
  · split at reached
    · cases reached
      rfl
    · cases reached
  · next remote =>
    split at reached
    · cases reached
    · cases reached
      exact (if_neg (socketPath?_eq_none_iff.mp remote).1).symm

end Reach

end Connection

/-- What a list of hosts comes to. -/
structure KeepsHosts (text : String) : Prop where
  nonempty : hostsOf text ≠ []
  /-- The hosts are those that the text lists, and no others. -/
  listed {hosts : List String} : hostsOf text = hosts ↔ ListsHosts text hosts
  /-- Written out again, they are the same. -/
  again : hostsOf (",".intercalate (hostsOf text)) = hostsOf text
  /-- Where no files are needed there is one engine for each host, in order. -/
  reached {env : Environment} {files : Files} {c : Connection} :
    (∀ host ∈ hostsOf text, c.NeedsNoFile host) →
    { c with host := text }.reachAll env files = .ok (hostsOf text)
  /-- And so it is wherever all hosts are reached. -/
  named {env : Environment} {files : Files} {c : Connection} {names : List String} :
    { c with host := text }.reachAll env files = .ok names →
    names = (hostsOf text).map Connection.engineName

/-- No host of a list is lost and none is added, neither when the list is cut nor when
its engines are reached. -/
theorem hostsOf_keepsAll (text : String) : KeepsHosts text where
  nonempty := (hostsOf_eq_iff.mp rfl).ne_nil
  listed := hostsOf_eq_iff
  again := hostsOf_eq_iff.mpr (hostsOf_eq_iff.mp rfl).intercalate
  reached {env files c} needs := by
    have isHost := (hostsOf_eq_iff.mp (rfl : hostsOf text = _)).isHost
    refine mapM_eq_ok_iff_forall₂.mpr (List.forall₂_same.mpr fun host member => ?_)
    have alone : { c with host }.reach env files = .ok host :=
      Connection.reach_of_needsNoFile (isHost host member) (needs host member)
    exact alone
  named {env files c names} reached := by
    have isHost := (hostsOf_eq_iff.mp (rfl : hostsOf text = _)).isHost
    have each := (List.forall₂_and_left _ _).mpr ⟨isHost, mapM_eq_ok_iff_forall₂.mp reached⟩
    have same : List.Forall₂ (· = ·) ((hostsOf text).map Connection.engineName) names := by
      rw [List.forall₂_map_left_iff]
      refine each.imp fun host name ⟨isHost, reached⟩ => ?_
      have alone : { c with host }.reach env files = .ok name := reached
      exact (Connection.reach_eq_ok isHost alone).symm
    rw [List.forall₂_eq_eq_eq] at same
    exact same.symm

/-- A list with blanks of several kinds, blank parts and a host that stands in it
twice. -/
def untidyHosts : String := "\u00a0tcp://a:1\t,, \u3000,b,b,"

/-- Three engines are reached at its hosts, two of them at the same one. -/
theorem hostsOf_keepsAll_untidy :
    hostsOf untidyHosts = ["tcp://a:1", "b", "b"] ∧
      Connection.reachAll (fun _ => none) ⟨fun _ => false, fun _ => false⟩
        ⟨untidyHosts, false, none, none, none⟩ = .ok ["tcp://a:1", "b", "b"] := by
  have hosts : hostsOf untidyHosts = ["tcp://a:1", "b", "b"] := by decide +kernel
  have remote : ∀ host ∈ ["tcp://a:1", "b", "b"],
      Connection.socketPath? (fun _ => none) host = none := by
    decide +kernel
  have needsNone : ∀ host ∈ hostsOf untidyHosts,
      Connection.NeedsNoFile ⟨"", false, none, none, none⟩ host := by
    rw [hosts]
    intro host member
    obtain ⟨named, noSocket⟩ := Connection.socketPath?_eq_none_iff.mp (remote host member)
    exact ⟨rfl, named, noSocket⟩
  refine ⟨hosts, ?_⟩
  rw [← hosts]
  exact (hostsOf_keepsAll untidyHosts).reached needsNone

end ComposeDeploy
