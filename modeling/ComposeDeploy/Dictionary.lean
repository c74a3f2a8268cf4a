/-
Finite maps from names to values, in the order in which names were first
inserted.

A `Dictionary` holds each name once (`distinct`), so equality of dictionaries
is equality of their entries. `get?_insert` and `get?_erase` say what the two
changes do to every look-up, `ofList_entries` that a dictionary is rebuilt
from its entries.
-/

namespace ComposeDeploy

/-! ### Entries -/

namespace Entries

variable {α : Type}

/-- The value of the first entry of that name. -/
def find? (name : String) : List (String × α) → Option α
  | [] => none
  | (n, v) :: rest => if n = name then some v else find? name rest

/-- Gives `name` the value `value`: in place if it has one, else at the end. -/
def put (name : String) (value : α) : List (String × α) → List (String × α)
  | [] => [(name, value)]
  | (n, v) :: rest =>
    if n = name then (name, value) :: rest else (n, v) :: put name value rest

/-- The entries of all other names. -/
def drop (name : String) : List (String × α) → List (String × α)
  | [] => []
  | (n, v) :: rest => if n = name then drop name rest else (n, v) :: drop name rest

/-- The names, in order. -/
def names (entries : List (String × α)) : List String :=
  entries.map Prod.fst

theorem names_put (name : String) (value : α) (entries : List (String × α)) :
    names (put name value entries) =
      if name ∈ names entries then names entries else names entries ++ [name] := by
  simp only [names]
  induction entries with
  | nil => simp [put]
  | cons entry rest ih =>
    obtain ⟨n, v⟩ := entry
    by_cases h : n = name
    · simp [put, h]
    · have h' : ¬ name = n := fun e => h e.symm
      by_cases member : name ∈ List.map Prod.fst rest
      · simp [put, h, h', ih, member]
      · simp [put, h, h', ih, member]

theorem nodup_names_put (name : String) (value : α) {entries : List (String × α)}
    (h : (names entries).Nodup) : (names (put name value entries)).Nodup := by
  rw [names_put]
  split
  · exact h
  · next absent =>
    rw [List.nodup_append]
    refine ⟨h, by simp, ?_⟩
    intro a ha b hb
    rw [List.mem_singleton.mp hb]
    exact fun e => absent (e ▸ ha)

theorem drop_sublist (name : String) (entries : List (String × α)) :
    (drop name entries).Sublist entries := by
  induction entries with
  | nil => exact List.Sublist.slnil
  | cons entry rest ih =>
    obtain ⟨n, v⟩ := entry
    by_cases h : n = name
    · simpa only [drop, if_pos h] using ih.cons (n, v)
    · simpa only [drop, if_neg h] using ih.cons_cons (n, v)

theorem nodup_names_drop (name : String) {entries : List (String × α)}
    (h : (names entries).Nodup) : (names (drop name entries)).Nodup :=
  h.sublist ((drop_sublist name entries).map _)

theorem find?_put (name other : String) (value : α) (entries : List (String × α)) :
    find? other (put name value entries) =
      if other = name then some value else find? other entries := by
  induction entries with
  | nil =>
    by_cases h : name = other
    · simp [find?, put, h]
    · simp [find?, put, h, Ne.symm h]
  | cons entry rest ih =>
    obtain ⟨n, v⟩ := entry
    by_cases h : n = name
    · by_cases ho : other = name
      · simp [find?, put, h, ho]
      · simp [find?, put, h, ho, Ne.symm ho]
    · by_cases ho : other = name
      · subst ho
        simp [find?, put, h, ih]
      · simp [find?, put, h, ih, ho]

theorem find?_drop (name other : String) (entries : List (String × α)) :
    find? other (drop name entries) = if other = name then none else find? other entries := by
  induction entries with
  | nil => simp [find?, drop]
  | cons entry rest ih =>
    obtain ⟨n, v⟩ := entry
    by_cases h : n = name
    · by_cases ho : other = name
      · subst ho
        simpa [drop, h] using ih
      · simp [drop, find?, h, ho, ih, Ne.symm ho]
    · by_cases ho : other = name
      · subst ho
        simp [drop, find?, h, ih]
      · simp [drop, find?, h, ho, ih]

theorem put_eq_append {name : String} (value : α) {entries : List (String × α)}
    (h : name ∉ names entries) : put name value entries = entries ++ [(name, value)] := by
  induction entries with
  | nil => rfl
  | cons entry rest ih =>
    obtain ⟨n, v⟩ := entry
    simp only [names, List.map_cons, List.mem_cons, not_or] at h
    simp [put, Ne.symm h.1, ih h.2]

end Entries

/-! ### Dictionaries -/

/-- A finite map from names to values. -/
structure Dictionary (α : Type) where
  entries : List (String × α)
  distinct : (Entries.names entries).Nodup
  deriving DecidableEq

namespace Dictionary

variable {α : Type}

/-- The map of no names. -/
def empty : Dictionary α where
  entries := []
  distinct := List.Pairwise.nil

instance : Inhabited (Dictionary α) := ⟨empty⟩

/-- The value of a name. -/
def get? (d : Dictionary α) (name : String) : Option α :=
  Entries.find? name d.entries

/-- The names, in the order of their first insertion. -/
def names (d : Dictionary α) : List String :=
  Entries.names d.entries

/-- Gives a name a value. -/
def insert (d : Dictionary α) (name : String) (value : α) : Dictionary α where
  entries := Entries.put name value d.entries
  distinct := Entries.nodup_names_put name value d.distinct

/-- Takes a name away. -/
def erase (d : Dictionary α) (name : String) : Dictionary α where
  entries := Entries.drop name d.entries
  distinct := Entries.nodup_names_drop name d.distinct

/-- The map that a list of entries describes; of several entries of one name
the last counts. -/
def ofList (entries : List (String × α)) : Dictionary α :=
  entries.foldl (fun d entry => d.insert entry.1 entry.2) empty

@[simp] theorem get?_empty (name : String) : (empty : Dictionary α).get? name = none := rfl

theorem get?_insert (d : Dictionary α) (name other : String) (value : α) :
    (d.insert name value).get? other = if other = name then some value else d.get? other :=
  Entries.find?_put name other value d.entries

theorem get?_erase (d : Dictionary α) (name other : String) :
    (d.erase name).get? other = if other = name then none else d.get? other :=
  Entries.find?_drop name other d.entries

theorem ext {d e : Dictionary α} (h : d.entries = e.entries) : d = e := by
  cases d
  cases e
  cases h
  rfl

/-- Inserting entries of new, distinct names appends them. -/
theorem entries_foldl_insert (entries : List (String × α)) (d : Dictionary α)
    (h : (Entries.names (d.entries ++ entries)).Nodup) :
    (entries.foldl (fun d entry => d.insert entry.1 entry.2) d).entries =
      d.entries ++ entries := by
  induction entries generalizing d with
  | nil => simp
  | cons entry rest ih =>
    obtain ⟨n, v⟩ := entry
    have absent : n ∉ Entries.names d.entries := by
      intro member
      simp only [Entries.names, List.map_append, List.map_cons] at h member
      exact (List.nodup_append.mp h).2.2 n member n (by simp) rfl
    have step : (d.insert n v).entries = d.entries ++ [(n, v)] := Entries.put_eq_append v absent
    rw [List.foldl_cons, ih (d.insert n v) (by rw [step]; simpa using h), step]
    simp

/-- A dictionary is rebuilt from its entries. -/
theorem ofList_entries (d : Dictionary α) : ofList d.entries = d :=
  ext (by
    rw [ofList, entries_foldl_insert _ _ (by simpa [empty] using d.distinct)]
    rfl)

end Dictionary

end ComposeDeploy
