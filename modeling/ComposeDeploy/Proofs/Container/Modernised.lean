import ComposeDeploy.Container.Template
import ComposeDeploy.Proofs.Json.Members
import Mathlib.Data.List.Basic

/-!
What a body says once it has been modernised.

Each change of a body is told by what it does to look-ups: `adjustAll` changes the
values of some names, `moveLimits` takes the outer limits away and puts them
where the host settings lack them (`find?_addAll`). None repeats a name
(`names_modernise_nodup`).
-/

namespace ComposeDeploy.Template

/-! ### Looking up what was changed -/

theorem names_adjust (change : Json → Json) (name : String) (members : Members) :
    Entries.names (adjust change name members) = Entries.names members := by
  simp only [Entries.names, adjust, List.map_map]
  apply List.map_congr_left
  intro member _
  simp only [Function.comp_apply]
  split <;> rfl

theorem find?_adjust (change : Json → Json) (name other : String) (members : Members) :
    Entries.find? other (adjust change name members) =
      if other = name then (Entries.find? other members).map change
      else Entries.find? other members := by
  induction members with
  | nil => simp [adjust, Entries.find?]
  | cons member rest ih =>
    simp only [adjust, List.map_cons] at ih ⊢
    by_cases named : member.1 = name <;> by_cases sought : member.1 = other <;>
      simp_all [Entries.find?]

theorem names_adjustAll (change : Json → Json) : ∀ (names : List String) (members : Members),
    Entries.names (adjustAll change names members) = Entries.names members
  | [], _ => rfl
  | name :: names, members =>
    (names_adjustAll change names (adjust change name members)).trans
      (names_adjust change name members)

theorem find?_adjustAll (change : Json → Json) (other : String) :
    ∀ {names : List String} (members : Members), names.Nodup →
      Entries.find? other (adjustAll change names members) =
        if other ∈ names then (Entries.find? other members).map change
        else Entries.find? other members
  | [], members, _ => by simp [adjustAll]
  | name :: names, members, distinct => by
    have apart := List.nodup_cons.mp distinct
    have rest := find?_adjustAll change other (adjust change name members) apart.2
    show Entries.find? other (adjustAll change names (adjust change name members)) = _
    rw [rest, find?_adjust]
    by_cases same : other = name
    · subst same
      simp [apart.1]
    · simp [same]

theorem find?_withoutLimits (other : String) (members : Members) :
    Entries.find? other (withoutLimits members) =
      if other ∈ limitNames.map Prod.fst then none else Entries.find? other members := by
  induction members with
  | nil => simp [withoutLimits, Entries.find?]
  | cons member rest ih =>
    unfold withoutLimits at ih ⊢
    by_cases named : member.1 ∈ limitNames.map Prod.fst
    · have limit : (limitNames.any fun limit => limit.1 == member.1) = true := by
        simpa [List.any_eq_true] using named
      rw [List.filter_cons_of_neg (by simp [limit]), ih]
      by_cases sought : member.1 = other
      · simp [← sought, named]
      · simp [Entries.find?, sought]
    · have noLimit : (limitNames.any fun limit => limit.1 == member.1) = false := by
        simp only [List.any_eq_false, beq_iff_eq]
        exact fun limit inside same => named (List.mem_map.mpr ⟨limit, inside, same⟩)
      rw [List.filter_cons_of_pos (by simp [noLimit])]
      by_cases sought : member.1 = other
      · subst sought
        simp [Entries.find?, named]
      · simpa [Entries.find?, sought] using ih

theorem names_withoutLimits_nodup {members : Members} (distinct : (Entries.names members).Nodup) :
    (Entries.names (withoutLimits members)).Nodup :=
  distinct.sublist (List.filter_sublist.map _)

theorem names_addMissing_nodup {members : Members} (member : String × Json)
    (distinct : (Entries.names members).Nodup) :
    (Entries.names (addMissing members member)).Nodup := by
  unfold addMissing
  split
  · exact distinct
  · next absent =>
    rw [← Entries.put_eq_append member.2 absent]
    exact Entries.nodup_names_put member.1 member.2 distinct

theorem names_addAll_nodup : ∀ (limits : Members) {members : Members},
    (Entries.names members).Nodup → (Entries.names (limits.foldl addMissing members)).Nodup
  | [], _, distinct => distinct
  | limit :: limits, _, distinct =>
    names_addAll_nodup limits (names_addMissing_nodup limit distinct)

theorem find?_addMissing (other : String) (members : Members) (member : String × Json) :
    Entries.find? other (addMissing members member) =
      (Entries.find? other members).or (Entries.find? other [member]) := by
  unfold addMissing
  split
  · next present =>
    by_cases same : member.1 = other
    · obtain ⟨v, found⟩ := Option.ne_none_iff_exists'.mp
        (Entries.find?_ne_none_of_mem_names (same ▸ present))
      rw [found]
      rfl
    · simp [Entries.find?, same]
  · exact Entries.find?_append other members [member]

theorem find?_addAll (other : String) : ∀ (limits members : Members),
    Entries.find? other (limits.foldl addMissing members) =
      (Entries.find? other members).or (Entries.find? other limits)
  | [], members => (Option.or_none).symm
  | limit :: limits, members => by
    rw [List.foldl_cons, find?_addAll other limits, find?_addMissing, Option.or_assoc,
      ← Entries.find?_append, List.singleton_append]

/-! ### Limits -/

theorem mem_outerLimits {members : Members} {name : String} {value : Json} :
    (name, value) ∈ outerLimits members ↔ ∃ limit ∈ limitNames, limit.2 = name ∧
      Entries.find? limit.1 members = some value ∧ value ≠ .null := by
  constructor
  · intro member
    obtain ⟨⟨outer, inner⟩, inside, taken⟩ := List.mem_filterMap.mp member
    refine ⟨(outer, inner), inside, ?_⟩
    simp only at taken
    split at taken <;> simp_all
  · rintro ⟨⟨outer, inner⟩, inside, rfl, found, present⟩
    refine List.mem_filterMap.mpr ⟨(outer, inner), inside, ?_⟩
    simp only
    split <;> simp_all

theorem nodup_outerLimits (members : Members) : (Entries.names (outerLimits members)).Nodup := by
  have distinct : (limitNames.map Prod.snd).Nodup := by decide
  refine distinct.sublist ?_
  unfold outerLimits
  induction limitNames with
  | nil => exact List.Sublist.slnil
  | cons limit limits ih =>
    obtain ⟨outer, inner⟩ := limit
    rw [List.filterMap_cons]
    cases found : Entries.find? outer members with
    | none => simpa [found] using ih.cons inner
    | some value =>
      cases value with
      | null => simpa [found] using ih.cons inner
      | _ => simpa [found, Entries.names] using ih

/-- The settings that the outer limits are put into. -/
def outerHost (members : Members) : Members :=
  ((Entries.find? "HostConfig" members).bind Json.members?).getD []

theorem find?_moveLimits_of_ne {other : String} (ne : other ≠ "HostConfig") (members : Members) :
    Entries.find? other (moveLimits members) =
      if other ∈ limitNames.map Prod.fst then none else Entries.find? other members := by
  unfold moveLimits
  split
  · exact find?_withoutLimits other members
  · rw [Entries.find?_put, if_neg ne, find?_withoutLimits]

theorem find?_moveLimits_host (members : Members) :
    Entries.find? "HostConfig" (moveLimits members) =
      if outerLimits members = [] then Entries.find? "HostConfig" members
      else some (.obj ((outerLimits members).foldl addMissing (outerHost members))) := by
  have kept : Entries.find? "HostConfig" (withoutLimits members) =
      Entries.find? "HostConfig" members := by
    rw [find?_withoutLimits, if_neg (by decide)]
  unfold moveLimits
  split
  · next none => rw [if_pos none, kept]
  · next some => rw [if_neg (by simpa using some), Entries.find?_put, if_pos rfl, kept, outerHost]

/-! ### All changes -/

/-- The body with its flags and commands in the modern form. -/
def spelt (members : Members) : Members :=
  adjustAll commandOf commandNames (adjustAll flagOf flagNames members)

theorem find?_spelt (other : String) (members : Members) :
    Entries.find? other (spelt members) =
      if other ∈ commandNames then (Entries.find? other members).map commandOf
      else if other ∈ flagNames then (Entries.find? other members).map flagOf
      else Entries.find? other members := by
  have apart : ∀ name ∈ commandNames, name ∉ flagNames := by decide
  unfold spelt
  rw [find?_adjustAll _ _ _ (by decide), find?_adjustAll _ _ _ (by decide)]
  by_cases command : other ∈ commandNames
  · rw [if_pos command, if_pos command, if_neg (apart other command)]
  · rw [if_neg command, if_neg command]

theorem find?_spelt_host (members : Members) :
    Entries.find? "HostConfig" (spelt members) = Entries.find? "HostConfig" members := by
  rw [find?_spelt, if_neg (by decide), if_neg (by decide)]

theorem outerLimits_spelt (members : Members) :
    outerLimits (spelt members) = outerLimits members := by
  have apart : ∀ limit ∈ limitNames, limit.1 ∉ commandNames ∧ limit.1 ∉ flagNames := by decide
  unfold outerLimits
  apply List.filterMap_congr
  rintro ⟨outer, inner⟩ member
  have elsewhere := apart _ member
  simp only [find?_spelt, if_neg elsewhere.1, if_neg elsewhere.2]

theorem find?_modernise_of_ne {name : String} (ne : name ≠ "HostConfig") (members : Members) :
    Entries.find? name (modernise members) =
      if name ∈ limitNames.map Prod.fst then none else Entries.find? name (spelt members) := by
  show Entries.find? name (adjust _ _ (moveLimits (spelt members))) = _
  rw [find?_adjust, if_neg ne, find?_moveLimits_of_ne ne]

theorem find?_modernise_host (members : Members) :
    Entries.find? "HostConfig" (modernise members) =
      (if outerLimits members = [] then Entries.find? "HostConfig" members
        else some (.obj ((outerLimits members).foldl addMissing (outerHost members)))).map
        modernHost := by
  have same : outerHost (spelt members) = outerHost members := by
    rw [outerHost, find?_spelt_host, outerHost]
  show Entries.find? "HostConfig" (adjust _ _ (moveLimits (spelt members))) = _
  rw [find?_adjust, if_pos rfl, find?_moveLimits_host, outerLimits_spelt, find?_spelt_host, same]

theorem names_modernise_nodup {members : Members} (distinct : (Entries.names members).Nodup) :
    (Entries.names (modernise members)).Nodup := by
  have spelling : Entries.names (spelt members) = Entries.names members :=
    (names_adjustAll _ _ _).trans (names_adjustAll _ _ _)
  have rest : (Entries.names (withoutLimits (spelt members))).Nodup :=
    names_withoutLimits_nodup (spelling ▸ distinct)
  show (Entries.names (adjust _ _ (moveLimits (spelt members)))).Nodup
  rw [names_adjust]
  unfold moveLimits
  split
  · exact rest
  · exact Entries.nodup_names_put _ _ rest

end ComposeDeploy.Template
