import ComposeDeploy.Proofs.Container.Limits

/-!
A stored configuration is its own modern form.

What a configuration writes repeats no name at any depth
(`Shape.lastWins_encode`), and each member of it was written from a field of that
name (`Fields.mem_encode`): so no flag and no command is a string, and no limit
stands outside the host settings (`Configuration.isModern`). A modern body is left
as it is (`Template.IsModern.modernise_eq`), which makes reading idempotent
(`Template.configuration_settles`).
-/

namespace ComposeDeploy

open Template (IsModern IsNoText allFields of_allFields)

theorem Text.Utf8.decode?_encode (s : String) : decode? (encode s) = some s :=
  dif_pos s.isValidUTF8

/-! ### Without repeated names -/

namespace Json

/-- Nothing is dropped from items from which nothing is dropped one by one. -/
theorem lastWinsItems_eq : ∀ {items : List Json}, (∀ j ∈ items, j.lastWins = j) →
    lastWinsItems items = items
  | [], _ => rfl
  | item :: rest, each => by
    obtain ⟨first, others⟩ := List.forall_mem_cons.mp each
    rw [lastWinsItems, first, lastWinsItems_eq others]

/-- Nothing is dropped from members of distinct names. -/
theorem lastWinsMembers_eq : ∀ {members : List (String × Json)}, (Entries.names members).Nodup →
    (∀ member ∈ members, member.2.lastWins = member.2) → lastWinsMembers members = members
  | [], _, _ => rfl
  | (name, value) :: rest, distinct, each => by
    obtain ⟨fresh, distinct⟩ := List.nodup_cons.mp distinct
    obtain ⟨first, others⟩ := List.forall_mem_cons.mp each
    have last : (rest.any fun member => member.1 == name) = false := by
      rw [List.any_eq_false]
      intro member listed same
      exact fresh (List.mem_map.mpr ⟨member, listed, by simpa using same⟩)
    simp only [lastWinsMembers, last, Bool.false_eq_true, if_false]
    rw [lastWinsMembers_eq distinct others]
    exact congrArg (fun written => (name, written) :: rest) first

end Json

mutual

/-- What a storable shape writes repeats no name at any depth. -/
theorem Shape.lastWins_encode : ∀ (shape : Shape) {room : Nat} (v : shape.Value),
    shape.isStorable room = true → (shape.encode v).lastWins = shape.encode v
  | .text, _, _, _ => rfl
  | .flag, _, _, _ => rfl
  | .whole _ _, _, _, _ => rfl
  | .choice _, _, _, _ => rfl
  | .nothing, _, _, _ => rfl
  | .list item, _, items, storable => by
    simp only [Shape.isStorable, Bool.and_eq_true] at storable
    refine congrArg Json.arr (Json.lastWinsItems_eq ?_)
    intro j member
    obtain ⟨v, _, rfl⟩ := List.mem_map.mp member
    exact Shape.lastWins_encode item v storable.2
  | .dict item, _, d, storable => by
    simp only [Shape.isStorable, Bool.and_eq_true] at storable
    refine congrArg Json.obj (Json.lastWinsMembers_eq ?_ ?_)
    · have names := Dictionary.distinct d
      unfold Entries.names at names ⊢
      rwa [List.map_map]
    · intro member written
      obtain ⟨entry, _, rfl⟩ := List.mem_map.mp written
      exact Shape.lastWins_encode item entry.2 storable.2
  | .nullable _, _, none, _ => rfl
  | .nullable inner, _, some v, storable => by
    simp only [Shape.isStorable, Bool.and_eq_true] at storable
    exact Shape.lastWins_encode inner v storable.2
  | .record fields, _, values, storable => by
    simp only [Shape.isStorable, Bool.and_eq_true] at storable
    have distinct := (Fields.nodup_names storable.2).sublist (fields.names_encode_sublist values)
    exact congrArg Json.obj
      (Json.lastWinsMembers_eq distinct (Fields.lastWins_encode fields values storable.2))

theorem Fields.lastWins_encode : ∀ (fields : Fields) {room : Nat} (values : fields.Values),
    fields.areStorable room = true →
      ∀ member ∈ fields.encode values, member.2.lastWins = member.2
  | .nil, _, _, _ => List.forall_mem_nil _
  | .cons _ _ rest, _, (none, values), storable => by
    simp only [Fields.areStorable, Bool.and_eq_true] at storable
    exact Fields.lastWins_encode rest values storable.2
  | .cons _ shape rest, _, (some v, values), storable => by
    simp only [Fields.areStorable, Bool.and_eq_true] at storable
    exact List.forall_mem_cons.mpr ⟨Shape.lastWins_encode shape v storable.1.2,
      Fields.lastWins_encode rest values storable.2⟩

end

/-! ### Modern bodies -/

namespace Template

variable {members : Members}

theorem adjust_eq_self {change : Json → Json} {name : String}
    (same : ∀ member ∈ members, member.1 = name → change member.2 = member.2) :
    adjust change name members = members := by
  refine (List.map_congr_left fun member listed => ?_).trans (List.map_id' members)
  split
  · next named => rw [same member listed named]
  · rfl

theorem adjustAll_eq_self {change : Json → Json} : ∀ {names : List String},
    (∀ name ∈ names, ∀ member ∈ members, member.1 = name → change member.2 = member.2) →
      adjustAll change names members = members
  | [], _ => rfl
  | name :: names, same => by
    obtain ⟨first, others⟩ := List.forall_mem_cons.mp same
    show adjustAll change names (adjust change name members) = members
    rw [adjust_eq_self first, adjustAll_eq_self others]

/-- What is no string in a look-up is none in the object. -/
theorem IsNoText.of_mem {member : String × Json} (distinct : (Entries.names members).Nodup)
    (noText : IsNoText (Entries.find? member.1 members)) (listed : member ∈ members) :
    ∀ s, member.2 ≠ .str s := by
  intro s text
  exact noText s ((Entries.find?_of_mem distinct listed).trans (congrArg some text))

/-- Flags that are no strings are left as they are. -/
theorem adjustAll_flagOf_eq_self {names : List String} (distinct : (Entries.names members).Nodup)
    (noTexts : ∀ name ∈ names, IsNoText (Entries.find? name members)) :
    adjustAll flagOf names members = members := by
  refine adjustAll_eq_self fun name listed member inside named => ?_
  subst named
  exact (FlagSpelling.same _).flagOf (IsNoText.of_mem distinct (noTexts _ listed) inside)

namespace IsModern

variable (isModern : IsModern members) (distinct : (Entries.names members).Nodup)
include isModern

/-- No limit is moved into the host settings. -/
theorem moveLimits_eq : moveLimits members = members := by
  have noneOutside : outerLimits members = [] := by
    rw [outerLimits_eq_nil_iff]
    intro limit listed
    rw [isModern.limits limit listed]
    rfl
  have noneTaken : withoutLimits members = members := by
    refine List.filter_eq_self.mpr fun member inside => ?_
    rw [Bool.not_eq_true', List.any_eq_false]
    intro limit listed same
    have named : limit.1 ∈ Entries.names members :=
      List.mem_map.mpr ⟨member, inside, (beq_iff_eq.mp same).symm⟩
    exact Entries.find?_ne_none_of_mem_names named (isModern.limits limit listed)
  simp only [moveLimits, noneOutside, noneTaken]

include distinct

/-- A modern body is left as it is. -/
theorem modernise_eq
    (hostDistinct : ∀ host, Entries.find? "HostConfig" members = some (.obj host) →
      (Entries.names host).Nodup) : modernise members = members := by
  have flags : adjustAll flagOf flagNames members = members :=
    adjustAll_flagOf_eq_self distinct isModern.flags
  have commands : adjustAll commandOf commandNames members = members := by
    refine adjustAll_eq_self fun name listed member inside named => ?_
    subst named
    exact (CommandSpelling.same _).commandOf
      (IsNoText.of_mem distinct (isModern.commands _ listed) inside)
  rw [modernise, flags, commands, isModern.moveLimits_eq]
  refine adjust_eq_self fun member inside named => ?_
  obtain ⟨_, value⟩ := member
  subst named
  have found := Entries.find?_of_mem distinct inside
  cases value with
  | obj host =>
    exact congrArg Json.obj
      (adjustAll_flagOf_eq_self (hostDistinct host found) (isModern.hostFlags host found))
  | _ => rfl

end IsModern

end Template

/-! ### What a configuration writes -/

/-- Each member of a record was written from the field of its name. -/
theorem Fields.mem_encode : ∀ (fields : Fields) (values : fields.Values) {member : String × Json},
    member ∈ fields.encode values → ∃ shape, Nonempty (Slot fields member.1 shape) ∧
      ∃ v : shape.Value, member.2 = shape.encode v
  | .nil, _, _, listed => absurd listed List.not_mem_nil
  | .cons _ _ rest, (none, values), _, listed => by
    obtain ⟨shape, ⟨slot⟩, written⟩ := Fields.mem_encode rest values listed
    exact ⟨shape, ⟨.there slot⟩, written⟩
  | .cons _ own rest, (some v, values), _, listed => by
    rcases List.mem_cons.mp listed with rfl | later
    · exact ⟨own, ⟨.here⟩, v, rfl⟩
    · obtain ⟨shape, ⟨slot⟩, written⟩ := Fields.mem_encode rest values later
      exact ⟨shape, ⟨.there slot⟩, written⟩

/-- Whether a shape writes strings. -/
def Shape.writesText : Shape → Bool
  | .text | .choice _ => true
  | .nullable inner => inner.writesText
  | _ => false

theorem Shape.encode_ne_str : ∀ {shape : Shape}, shape.writesText = false →
    ∀ (v : shape.Value) (s : String), shape.encode v ≠ .str s
  | .flag, _, _, _ => nofun
  | .whole _ _, _, _, _ => nofun
  | .nothing, _, _, _ => nofun
  | .list _, _, _, _ => nofun
  | .dict _, _, _, _ => nofun
  | .nullable _, _, none, _ => nofun
  | .nullable inner, silent, some v, s => @Shape.encode_ne_str inner silent v s
  | .record _, _, _, _ => nofun

/-- Fields none of which writes strings are no strings where they are written. -/
theorem Fields.isNoText_encode {fields : Fields} {names : List String}
    (silent : allFields (fun name shape => !names.contains name || !shape.writesText) fields = true)
    (values : fields.Values) :
    ∀ name ∈ names, IsNoText (Entries.find? name (fields.encode values)) := by
  intro name listed s found
  obtain ⟨shape, ⟨slot⟩, v, written⟩ := fields.mem_encode values (Entries.mem_of_find? found)
  have one := of_allFields slot silent
  simp only [List.contains_eq_mem, listed, decide_true, Bool.not_true, Bool.false_or,
    Bool.not_eq_true'] at one
  exact Shape.encode_ne_str one v s written.symm

namespace Configuration

theorem fields_areStorable : Schema.configuration.areStorable (depth - 1) = true :=
  (Bool.and_eq_true_iff.mp Schema.configuration_isStorable).2

theorem nodup_names_encode (c : Configuration) :
    (Entries.names (Schema.configuration.encode c.values)).Nodup :=
  (Fields.nodup_names fields_areStorable).sublist (Fields.names_encode_sublist _ _)

/-- Host settings that are written hold what the schema of host settings writes. -/
theorem exists_host {c : Configuration} {host : List (String × Json)}
    (found : Entries.find? "HostConfig" (Schema.configuration.encode c.values) = some (.obj host)) :
    ∃ settings, host = Schema.hostConfig.encode settings := by
  obtain ⟨shape, ⟨slot⟩, v, written⟩ :=
    Schema.configuration.mem_encode c.values (Entries.mem_of_find? found)
  cases slot.shape_unique (Fields.nodup_names fields_areStorable) hostSlot
  exact ⟨v, Json.obj.inj written⟩

/-- What a configuration writes is a modern body. -/
theorem isModern (c : Configuration) : IsModern (Schema.configuration.encode c.values) where
  flags := Fields.isNoText_encode (by decide) c.values
  commands := Fields.isNoText_encode (by decide) c.values
  limits limit listed := by
    refine Entries.find?_eq_none_of_notMem fun named => ?_
    have outside : ∀ limit ∈ Template.limitNames, limit.1 ∉ Schema.configuration.names := by decide
    exact outside limit listed ((Fields.names_encode_sublist _ _).subset named)
  hostFlags host found := by
    obtain ⟨settings, rfl⟩ := exists_host found
    exact Fields.isNoText_encode (by decide) settings

/-- The bytes that a configuration is stored as. -/
def written (c : Configuration) : ByteArray :=
  Text.Utf8.encode c.toJson.render

theorem readBytes?_written (c : Configuration) : Json.readBytes? c.written = some c.toJson := by
  rw [Json.readBytes?, written, Text.Utf8.decode?_encode, Option.bind_some]
  exact Json.read?_render (c.fits_toJson.mono (by decide))

/-- A stored configuration is in the form of the schema. -/
theorem normalise_toJson (c : Configuration) : Template.normalise c.toJson = c.toJson := by
  have single : c.toJson.lastWins = c.toJson :=
    Shape.lastWins_encode (.record Schema.configuration) c.values Schema.configuration_isStorable
  have hostNames : ∀ host, Entries.find? "HostConfig" (Schema.configuration.encode c.values) =
      some (.obj host) → (Entries.names host).Nodup := by
    intro host found
    obtain ⟨settings, rfl⟩ := exists_host found
    have storable : Schema.hostConfig.areStorable depth = true := by decide +kernel
    exact (Fields.nodup_names storable).sublist (Fields.names_encode_sublist _ _)
  rw [Template.normalise, single]
  exact congrArg Json.obj (c.isModern.modernise_eq c.nodup_names_encode hostNames)

/-- A stored configuration is read back, whatever container it is read for. -/
theorem configuration_written (c : Configuration) (name : String) :
    Template.configuration name c.written = .ok c := by
  simp only [Template.configuration, readBytes?_written, normalise_toJson, ofJson?_toJson]

end Configuration

/-! ### Main result -/

/-- Reading settles a body: what was read is stored in the form of the schema, so
that nothing is left to be brought to that form, and reading it again, for any
container, gives what was read. -/
theorem Template.configuration_settles :
    (∀ c : Configuration, normalise c.toJson = c.toJson ∧
      ∀ name, configuration name c.written = .ok c) ∧
    ∀ (name other : String) (body : ByteArray),
      (do configuration other (← configuration name body).written) = configuration name body := by
  refine ⟨fun c => ⟨c.normalise_toJson, c.configuration_written⟩, fun name other body => ?_⟩
  cases configuration name body with
  | error e => rfl
  | ok c => exact c.configuration_written other

end ComposeDeploy
