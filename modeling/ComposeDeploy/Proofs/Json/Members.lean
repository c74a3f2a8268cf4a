import ComposeDeploy.Json.Value
import Mathlib.Data.List.Forall2
import Mathlib.Data.List.Induction

/-!
Members of an object, looked up by name.

A look-up finds a member of the list, and where no name is repeated it finds
every member. Where members are read one by one, it finds what is read of the
member that it would find among them (`Entries.find?_forall₂`). What is left when
only the last member of each name counts is a list of distinct names, in an object
and in every object inside it (`Json.nodup_of_lastWins`,
`Json.nodup_of_find?_lastWins`).
-/

namespace ComposeDeploy

/-! ### Reading item by item -/

section Items

variable {α β : Type} {f : α → Option β} {xs : List α} {ys : List β}

theorem mapM_eq_some_iff_forall₂ :
    xs.mapM f = some ys ↔ List.Forall₂ (fun x y => f x = some y) xs ys := by
  induction xs generalizing ys with
  | nil => simp [eq_comm]
  | cons x xs ih =>
    rw [List.mapM_cons, List.forall₂_cons_left_iff]
    simp only [Option.bind_eq_bind, Option.bind_eq_some_iff, Option.pure_def, Option.some.injEq]
    constructor
    · rintro ⟨y, first, others, rest, rfl⟩
      exact ⟨y, others, first, ih.mp rest, rfl⟩
    · rintro ⟨y, others, first, rest, rfl⟩
      exact ⟨y, first, others, ih.mpr rest, rfl⟩

/-- Items are read if each of them is. -/
theorem exists_mapM_eq_some_iff :
    (∃ ys, xs.mapM f = some ys) ↔ ∀ x ∈ xs, ∃ y, f x = some y := by
  simp only [mapM_eq_some_iff_forall₂]
  induction xs with
  | nil => simp
  | cons x xs ih =>
    rw [List.forall_mem_cons, ← ih]
    constructor
    · rintro ⟨ys, each⟩
      cases each with
      | cons first rest => exact ⟨⟨_, first⟩, _, rest⟩
    · rintro ⟨⟨y, first⟩, ys, rest⟩
      exact ⟨y :: ys, .cons first rest⟩

/-- Items that are read in one way only are known from what was read. -/
theorem mapM_eq_some_iff_of_inverse {encode : β → α}
    (inverse : ∀ x y, f x = some y ↔ x = encode y) : xs.mapM f = some ys ↔ xs = ys.map encode := by
  simp only [mapM_eq_some_iff_forall₂, inverse]
  rw [← List.forall₂_map_right_iff, List.forall₂_eq_eq_eq]

end Items

/-! ### Looking up -/

namespace Entries

variable {α : Type}

theorem mem_of_find? {name : String} {v : α} : ∀ {entries : List (String × α)},
    find? name entries = some v → (name, v) ∈ entries
  | (other, w) :: rest, found => by
    by_cases same : other = name
    · simp only [find?, if_pos same, Option.some.injEq] at found
      exact same ▸ found ▸ List.mem_cons_self
    · simp only [find?, if_neg same] at found
      exact List.mem_cons_of_mem _ (mem_of_find? found)

theorem find?_of_mem {name : String} {v : α} : ∀ {entries : List (String × α)},
    (names entries).Nodup → (name, v) ∈ entries → find? name entries = some v
  | (other, w) :: rest, distinct, member => by
    have apart := List.nodup_cons.mp distinct
    rcases List.mem_cons.mp member with same | later
    · cases same
      exact if_pos rfl
    · have ne : other ≠ name := by
        rintro rfl
        exact apart.1 (List.mem_map.mpr ⟨(other, v), later, rfl⟩)
      simp only [find?, if_neg ne]
      exact find?_of_mem apart.2 later

theorem find?_ne_none_of_mem_names {name : String} : ∀ {entries : List (String × α)},
    name ∈ names entries → find? name entries ≠ none
  | (other, w) :: rest, member => by
    by_cases same : other = name
    · simp [find?, same]
    · simp only [find?, if_neg same]
      exact find?_ne_none_of_mem_names ((List.mem_cons.mp member).resolve_left (Ne.symm same))

theorem find?_append (name : String) (first second : List (String × α)) :
    find? name (first ++ second) = (find? name first).or (find? name second) := by
  induction first with
  | nil => rfl
  | cons entry rest ih =>
    by_cases same : entry.1 = name
    · simp [find?, same]
    · simp [find?, same, ih]

/-- A look-up among entries that are read one by one finds what is read. -/
theorem find?_forall₂ {β : Type} {f : α → Option β} (name : String)
    {entries : List (String × α)} {read : List (String × β)}
    (each : List.Forall₂ (fun entry got => (f entry.2).map (entry.1, ·) = some got) entries read) :
    find? name read = (find? name entries).bind f := by
  induction each with
  | nil => rfl
  | @cons entry got entries read first rest ih =>
    obtain ⟨value, found, rfl⟩ := Option.map_eq_some_iff.mp first
    by_cases same : entry.1 = name
    · simp [find?, same, found]
    · simp [find?, same, ih]

end Entries

/-- A look-up in the map of a list finds the last entry of the name. -/
theorem Dictionary.get?_ofList {α : Type} (entries : List (String × α)) (name : String) :
    (ofList entries).get? name = Entries.find? name entries.reverse := by
  induction entries using List.reverseRecOn with
  | nil => rfl
  | append_singleton entries entry ih =>
    have last : ofList (entries ++ [entry]) = (ofList entries).insert entry.1 entry.2 := by
      simp [ofList]
    rw [last, get?_insert, ih, List.reverse_concat]
    exact if_congr eq_comm rfl rfl

/-! ### The last of each name -/

namespace Json

/-- Of every name one member is left. -/
theorem names_lastWinsMembers_subset : ∀ members : List (String × Json),
    Entries.names (lastWinsMembers members) ⊆ Entries.names members
  | [] => fun _ member => member
  | (name, value) :: rest => by
    have later := names_lastWinsMembers_subset rest
    unfold lastWinsMembers
    split
    · exact fun other member => List.mem_cons_of_mem name (later member)
    · exact List.cons_subset_cons name later

theorem nodup_lastWinsMembers : ∀ members : List (String × Json),
    (Entries.names (lastWinsMembers members)).Nodup
  | [] => List.nodup_nil
  | (name, value) :: rest => by
    have later := nodup_lastWinsMembers rest
    unfold lastWinsMembers
    split
    · exact later
    · next last =>
      refine List.nodup_cons.mpr ⟨fun member => last ?_, later⟩
      obtain ⟨entry, inside, named⟩ := List.mem_map.mp (names_lastWinsMembers_subset rest member)
      exact List.any_eq_true.mpr ⟨entry, inside, by simpa using named⟩

theorem lastWins_of_mem {member : String × Json} : ∀ {members : List (String × Json)},
    member ∈ lastWinsMembers members → ∃ j, member.2 = lastWins j
  | (name, value) :: rest, inside => by
    unfold lastWinsMembers at inside
    split at inside
    · exact lastWins_of_mem inside
    · rcases List.mem_cons.mp inside with rfl | later
      · exact ⟨value, rfl⟩
      · exact lastWins_of_mem later

/-- An object from which repeated members were dropped names each once. -/
theorem nodup_of_lastWins {j : Json} {members : List (String × Json)}
    (single : j.lastWins = .obj members) : (Entries.names members).Nodup := by
  cases j with
  | obj given =>
    simp only [lastWins, Json.obj.injEq] at single
    exact single ▸ nodup_lastWinsMembers given
  | _ => simp [lastWins] at single

/-- So does an object inside it. -/
theorem nodup_of_find?_lastWins {j : Json} {members inner : List (String × Json)} {name : String}
    (single : j.lastWins = .obj members) (found : Entries.find? name members = some (.obj inner)) :
    (Entries.names inner).Nodup := by
  cases j with
  | obj given =>
    simp only [lastWins, Json.obj.injEq] at single
    subst single
    obtain ⟨source, same⟩ := lastWins_of_mem (Entries.mem_of_find? found)
    exact nodup_of_lastWins same.symm
  | _ => simp [lastWins] at single

end Json

end ComposeDeploy
