import ComposeDeploy.Proofs.Container.OlderForms

/-!
Where the resource limits of a body end up.

A body is compared with the same body without its outer limits. `MovesLimits`
says how the two configurations differ, limit by limit; `configuration_limits`
says that an accepted body is related so to an accepted one, and what becomes of
host settings that are no object. In two cases something is lost that was given:
an outer limit for which the host settings give null, and host settings of
another type beside an outer limit (`limits_hideSettings`).
-/

namespace ComposeDeploy

/-- The host settings of a configuration, empty ones if it has none. -/
def Configuration.host (c : Configuration) : Schema.hostConfig.Values :=
  (hostSlot.get c.values).getD Schema.hostConfig.absent

namespace Template

/-! ### Limits in two places -/

/-- A value, unless it is null. -/
def given? : Option Json → Option Json
  | none | some .null => none
  | some j => some j

/-- What can stand for host settings: nothing, null or an object. -/
inductive IsSettings : Option Json → Members → Prop where
  | absent : IsSettings none []
  | null : IsSettings (some .null) []
  | object (host : Members) : IsSettings (some (.obj host)) host

/-- The configuration `config` of a body with the members `members` and the host
settings `host` is the configuration `plain` of that body without its outer
limits, but for the limits: where the host settings mention one, they decide,
and null there is none. -/
structure MovesLimits (members host : Members) (plain config : Configuration) : Prop where
  outside : ∀ {field : String} {shape : Shape} (slot : Slot Schema.configuration field shape),
    field ≠ "HostConfig" → slot.get config.values = slot.get plain.values
  inside : ∀ {field : String} {shape : Shape} (slot : Slot Schema.hostConfig field shape),
    field ∉ limitNames.map Prod.snd → slot.get config.host = slot.get plain.host
  limits : ∀ limit ∈ limitNames, ∀ {shape : Shape} (slot : Slot Schema.hostConfig limit.2 shape),
    (slot.get config.host).map shape.encode =
      given? ((Entries.find? limit.2 host).or (Entries.find? limit.1 members))

/-! ### Bodies without outer limits -/

theorem outerLimits_withoutLimits (members : Members) :
    outerLimits (withoutLimits members) = [] := by
  refine List.eq_nil_iff_forall_not_mem.mpr fun ⟨name, value⟩ member => ?_
  obtain ⟨limit, listed, _, found, _⟩ := mem_outerLimits.mp member
  rw [find?_withoutLimits, if_pos (List.mem_map_of_mem listed)] at found
  cases found

theorem find?_modernise_withoutLimits {name : String} (ne : name ≠ "HostConfig")
    (members : Members) :
    Entries.find? name (modernise (withoutLimits members)) =
      Entries.find? name (modernise members) := by
  rw [find?_modernise_of_ne ne, find?_modernise_of_ne ne]
  split
  · rfl
  · next noLimit =>
    have kept : Entries.find? name (withoutLimits members) = Entries.find? name members := by
      rw [find?_withoutLimits, if_neg noLimit]
    rw [find?_spelt, find?_spelt, kept]

theorem find?_withoutLimits_host (members : Members) :
    Entries.find? "HostConfig" (withoutLimits members) = Entries.find? "HostConfig" members := by
  rw [find?_withoutLimits, if_neg (by decide)]

/-! ### The settings after moving -/

/-- The host settings `host` with the outer limits that they lack, in the modern
form. -/
def settled (members host : Members) : Members :=
  adjustAll flagOf hostFlagNames ((outerLimits members).foldl addMissing host)

theorem names_settled_nodup {host : Members} (members : Members)
    (distinct : (Entries.names host).Nodup) : (Entries.names (settled members host)).Nodup := by
  rw [settled, names_adjustAll]
  exact names_addAll_nodup _ distinct

theorem given?_eq_some {given : Option Json} {j : Json} :
    given? given = some j ↔ given = some j ∧ j ≠ .null := by
  unfold given?
  split
  · simp
  · exact ⟨nofun, fun ⟨same, present⟩ => absurd (Option.some.inj same).symm present⟩
  · next present =>
    refine ⟨fun same => ⟨same, ?_⟩, And.left⟩
    rw [← Option.some.inj same]
    exact present

theorem given?_or_given? (own outer : Option Json) :
    given? (own.or (given? outer)) = given? (own.or outer) := by
  cases own with
  | some j => rfl
  | none =>
    rw [Option.none_or, Option.none_or]
    cases outer with
    | none => rfl
    | some j => cases j <;> rfl

theorem find?_outerLimits {limit : String × String} (listed : limit ∈ limitNames)
    (members : Members) :
    Entries.find? limit.2 (outerLimits members) = given? (Entries.find? limit.1 members) := by
  have oneOuter : ∀ one ∈ limitNames, ∀ other ∈ limitNames, one.2 = other.2 → one = other := by
    decide
  cases given : given? (Entries.find? limit.1 members) with
  | some j =>
    obtain ⟨found, present⟩ := given?_eq_some.mp given
    exact Entries.find?_of_mem (nodup_outerLimits members)
      (mem_outerLimits.mpr ⟨limit, listed, rfl, found, present⟩)
  | none =>
    apply Entries.find?_eq_none_of_notMem
    intro member
    obtain ⟨⟨_, value⟩, taken, rfl⟩ := List.mem_map.mp member
    obtain ⟨other, named, same, found, present⟩ := mem_outerLimits.mp taken
    rw [oneOuter other named limit listed same] at found
    rw [given?_eq_some.mpr ⟨found, present⟩] at given
    cases given

theorem find?_outerLimits_of_notMem {field : String} (other : field ∉ limitNames.map Prod.snd)
    (members : Members) : Entries.find? field (outerLimits members) = none := by
  apply Entries.find?_eq_none_of_notMem
  intro member
  obtain ⟨⟨named, value⟩, taken, rfl⟩ := List.mem_map.mp member
  obtain ⟨limit, listed, rfl, _⟩ := mem_outerLimits.mp taken
  exact other (List.mem_map_of_mem listed)

theorem find?_settled_of_notMem {field : String} (other : field ∉ limitNames.map Prod.snd)
    (members host : Members) :
    Entries.find? field (settled members host) =
      Entries.find? field (adjustAll flagOf hostFlagNames host) := by
  rw [settled, find?_adjustAll _ _ _ (by decide), find?_adjustAll _ _ _ (by decide), find?_addAll,
    find?_outerLimits_of_notMem other, Option.or_none]

theorem find?_settled_limit {limit : String × String} (listed : limit ∈ limitNames)
    (members host : Members) :
    Entries.find? limit.2 (settled members host) =
      (Entries.find? limit.2 host).or (given? (Entries.find? limit.1 members)) := by
  have noFlag : ∀ limit ∈ limitNames, limit.2 ∉ hostFlagNames := by decide
  rw [settled, find?_adjustAll _ _ _ (by decide), if_neg (noFlag limit listed), find?_addAll,
    find?_outerLimits listed]

/-- The settled limit is read as the value that counts. -/
theorem given?_find?_settled {limit : String × String} (listed : limit ∈ limitNames)
    (members host : Members) :
    given? (Entries.find? limit.2 (settled members host)) =
      given? ((Entries.find? limit.2 host).or (Entries.find? limit.1 members)) := by
  rw [find?_settled_limit listed, given?_or_given?]

/-- The host settings of a modernised body are the settled ones, or there are
none and nothing to settle. -/
theorem find?_modernise_settings {members host : Members}
    (settings : IsSettings (Entries.find? "HostConfig" members) host) :
    Entries.find? "HostConfig" (modernise members) = some (.obj (settled members host)) ∨
      (given? (Entries.find? "HostConfig" (modernise members)) = none ∧
        settled members host = []) := by
  rw [find?_modernise_host, outerHost]
  generalize Entries.find? "HostConfig" members = given at settings
  by_cases none : outerLimits members = []
  · rw [if_pos none, settled, none]
    cases settings with
    | absent => exact .inr ⟨rfl, rfl⟩
    | null => exact .inr ⟨rfl, rfl⟩
    | object => exact .inl rfl
  · rw [if_neg none]
    cases settings <;> exact .inl rfl

/-- Settings without members are those in which every field is absent. -/
theorem decode?_absent :
    (Shape.record Schema.hostConfig).decode? (.obj []) = some Schema.hostConfig.absent := by
  rfl

/-- So they are read. -/
theorem optional?_modernise_host {members host : Members}
    (settings : IsSettings (Entries.find? "HostConfig" members) host) :
    ((Shape.record Schema.hostConfig).optional?
        (Entries.find? "HostConfig" (modernise members))).map
        (fun values => values.getD Schema.hostConfig.absent) =
      (Shape.record Schema.hostConfig).decode? (.obj (settled members host)) := by
  rcases find?_modernise_settings settings with found | ⟨nothing, empty⟩
  · rw [found]
    show (Option.map some _).map _ = _
    rw [Option.map_map]
    exact Option.map_id_fun' ▸ rfl
  · rw [empty, decode?_absent]
    cases found : Entries.find? "HostConfig" (modernise members) with
    | none => rfl
    | some j =>
      rw [found] at nothing
      cases j with
      | null => rfl
      | _ => cases nothing

/-! ### Limits read and written -/

/-- Whether a shape has no parts: what is read in it is written as it was. -/
def isPlain : Shape → Bool
  | .text | .flag | .whole _ _ => true
  | _ => false

theorem encode_decode? {shape : Shape} (plain : isPlain shape = true) {j : Json}
    {value : shape.Value} (read : shape.decode? j = some value) : shape.encode value = j := by
  cases shape with
  | text => cases j <;> cases read; rfl
  | flag => cases j <;> cases read; rfl
  | whole low high =>
    cases j with
    | int n =>
      have bounded : bounded? low high n = some value := read
      unfold bounded? at bounded
      split at bounded
      · cases bounded
        rfl
      · cases bounded
    | _ => cases read
  | _ => cases plain

theorem encode_optional? {shape : Shape} (plain : isPlain shape = true) {given : Option Json}
    {value : Option shape.Value} (read : shape.optional? given = some value) :
    value.map shape.encode = given? given := by
  unfold Shape.optional? at read
  split at read
  · cases read
    rfl
  · cases read
    rfl
  · next present =>
    obtain ⟨inner, decoded, rfl⟩ := Option.map_eq_some_iff.mp read
    rw [Option.map_some, encode_decode? plain decoded]
    exact (given?_eq_some.mpr ⟨rfl, present⟩).symm

/-- Whether all fields of a record have a property. -/
def allFields (p : String → Shape → Bool) : Fields → Bool
  | .nil => true
  | .cons name shape rest => p name shape && allFields p rest

theorem of_allFields {p : String → Shape → Bool} {fields : Fields} {name : String} {shape : Shape}
    (slot : Slot fields name shape) (all : allFields p fields = true) : p name shape = true := by
  induction slot with
  | here => exact (Bool.and_eq_true_iff.mp all).1
  | there slot ih => exact ih (Bool.and_eq_true_iff.mp all).2

theorem isPlain_limit {limit : String × String} (listed : limit ∈ limitNames) {shape : Shape}
    (slot : Slot Schema.hostConfig limit.2 shape) : isPlain shape = true := by
  have all : allFields (fun name shape => !(limitNames.any (·.2 == name)) || isPlain shape)
      Schema.hostConfig = true := by
    decide
  have one := of_allFields slot all
  have named : (limitNames.any fun other => other.2 == limit.2) = true :=
    List.any_eq_true.mpr ⟨limit, listed, beq_self_eq_true _⟩
  rwa [named] at one

/-! ### Accepted bodies -/

section Accepted

variable {members host : Members} (distinct : (Entries.names members).Nodup)
  (hostDistinct : (Entries.names host).Nodup)
  (settings : IsSettings (Entries.find? "HostConfig" members) host)
include distinct

/-- An accepted body was read field by field. -/
theorem optional?_of_accepted {config : Configuration}
    (accepted : Configuration.ofJson? (.obj (modernise members)) = some config)
    {field : String} {shape : Shape} (slot : Slot Schema.configuration field shape) :
    shape.optional? (Entries.find? field (modernise members)) = some (slot.get config.values) := by
  obtain ⟨values, read, rfl⟩ := Option.map_eq_some_iff.mp accepted
  rw [Shape.decode?_record (names_modernise_nodup distinct)] at read
  exact Fields.optional?_of_decode? slot read

include hostDistinct settings

/-- And so were its settled host settings. -/
theorem optional?_of_accepted_host {config : Configuration}
    (accepted : Configuration.ofJson? (.obj (modernise members)) = some config)
    {field : String} {shape : Shape} (slot : Slot Schema.hostConfig field shape) :
    shape.optional? (Entries.find? field (settled members host)) = some (slot.get config.host) := by
  have read := optional?_modernise_host settings
  rw [optional?_of_accepted distinct accepted Configuration.hostSlot, Option.map_some,
    Shape.decode?_record (names_settled_nodup members hostDistinct)] at read
  exact Fields.optional?_of_decode? slot read.symm

theorem exists_host_withoutLimits {config : Configuration}
    (accepted : Configuration.ofJson? (.obj (modernise members)) = some config) :
    ∃ values, (Shape.record Schema.hostConfig).decode?
      (.obj (settled (withoutLimits members) host)) = some values := by
  rw [Shape.decode?_record (names_settled_nodup _ hostDistinct)]
  apply Fields.exists_decode?
  intro field shape slot
  have read := optional?_of_accepted_host distinct hostDistinct settings accepted slot
  by_cases isLimit : field ∈ limitNames.map Prod.snd
  · obtain ⟨limit, listed, rfl⟩ := List.mem_map.mp isLimit
    rw [find?_settled_limit listed] at read
    rw [find?_settled_limit listed, find?_withoutLimits, if_pos (List.mem_map_of_mem listed)]
    -- A limit of the settings themselves is read as before, and any other is absent now.
    cases own : Entries.find? limit.2 host with
    | none => exact ⟨none, rfl⟩
    | some j =>
      rw [own] at read
      exact ⟨_, read⟩
  · rw [find?_settled_of_notMem isLimit] at read ⊢
    exact ⟨_, read⟩

/-- A body is accepted without its outer limits if it is accepted with them. -/
theorem exists_withoutLimits {config : Configuration}
    (accepted : Configuration.ofJson? (.obj (modernise members)) = some config) :
    ∃ plain, Configuration.ofJson? (.obj (modernise (withoutLimits members))) = some plain := by
  have fieldNames : Schema.configuration.names.Nodup := by decide
  have fewer := names_withoutLimits_nodup distinct
  obtain ⟨hostValues, hostRead⟩ :=
    exists_host_withoutLimits distinct hostDistinct settings accepted
  have read := optional?_modernise_host (find?_withoutLimits_host members ▸ settings)
  have each : ∃ values, (Shape.record Schema.configuration).decode?
      (.obj (modernise (withoutLimits members))) = some values := by
    rw [Shape.decode?_record (names_modernise_nodup fewer)]
    apply Fields.exists_decode?
    intro field shape slot
    by_cases isHost : field = "HostConfig"
    · subst isHost
      cases slot.shape_unique fieldNames Configuration.hostSlot
      rw [hostRead] at read
      obtain ⟨value, found, _⟩ := Option.map_eq_some_iff.mp read
      exact ⟨value, found⟩
    · rw [find?_modernise_withoutLimits isHost]
      exact ⟨_, optional?_of_accepted distinct accepted slot⟩
  obtain ⟨values, each⟩ := each
  exact ⟨⟨values⟩, congrArg (Option.map Configuration.mk) each⟩

/-- An accepted body differs from the body without its outer limits in its limits
alone. -/
theorem movesLimits_of_accepted {config plain : Configuration}
    (accepted : Configuration.ofJson? (.obj (modernise members)) = some config)
    (bare : Configuration.ofJson? (.obj (modernise (withoutLimits members))) = some plain) :
    MovesLimits members host plain config := by
  have fewer := names_withoutLimits_nodup distinct
  have settings' := find?_withoutLimits_host members ▸ settings
  constructor
  · intro field shape slot ne
    have read := optional?_of_accepted distinct accepted slot
    rw [← find?_modernise_withoutLimits ne, optional?_of_accepted fewer bare slot] at read
    exact (Option.some.inj read).symm
  · intro field shape slot other
    have read := optional?_of_accepted_host distinct hostDistinct settings accepted slot
    rw [find?_settled_of_notMem other, ← find?_settled_of_notMem other (withoutLimits members),
      optional?_of_accepted_host fewer hostDistinct settings' bare slot] at read
    exact (Option.some.inj read).symm
  · intro limit listed shape slot
    have read := optional?_of_accepted_host distinct hostDistinct settings accepted slot
    rw [encode_optional? (isPlain_limit listed slot) read, given?_find?_settled listed]

end Accepted

/-! ### Settings of another type -/

theorem outerLimits_eq_nil_iff {members : Members} :
    outerLimits members = [] ↔
      ∀ limit ∈ limitNames, given? (Entries.find? limit.1 members) = none := by
  constructor
  · intro none limit listed
    rw [← find?_outerLimits listed, none]
    rfl
  · intro none
    refine List.eq_nil_iff_forall_not_mem.mpr fun ⟨_, value⟩ member => ?_
    obtain ⟨limit, listed, rfl, found, present⟩ := mem_outerLimits.mp member
    have given := none limit listed
    rw [given?_eq_some.mpr ⟨found, present⟩] at given
    cases given

/-- Bodies that say the same in the modern form describe the same. -/
theorem ofJson?_modernise_congr {members members' : Members}
    (distinct : (Entries.names members).Nodup) (distinct' : (Entries.names members').Nodup)
    (alike : ∀ name, Entries.find? name (modernise members) =
      Entries.find? name (modernise members')) :
    Configuration.ofJson? (.obj (modernise members)) =
      Configuration.ofJson? (.obj (modernise members')) :=
  congrArg (Option.map Configuration.mk) <|
    Shape.decode?_record_congr (names_modernise_nodup distinct) (names_modernise_nodup distinct')
      fun name shape _ => congrArg shape.optional? (alike name)

section OtherSettings

variable {members : Members} {name : String}

/-- Nothing changes if there is no outer limit. -/
theorem find?_modernise_of_noLimits (none : outerLimits members = []) :
    Entries.find? name (modernise (withoutLimits members)) =
      Entries.find? name (modernise members) := by
  by_cases isHost : name = "HostConfig"
  · rw [isHost, find?_modernise_host, find?_modernise_host, if_pos none,
      if_pos (outerLimits_withoutLimits members), find?_withoutLimits_host]
  · exact find?_modernise_withoutLimits isHost members

/-- Settings that are no object count for nothing if there is an outer limit. -/
theorem find?_modernise_drop (some : outerLimits members ≠ [])
    (other : ∀ host, ¬ IsSettings (Entries.find? "HostConfig" members) host) :
    Entries.find? name (modernise (Entries.drop "HostConfig" members)) =
      Entries.find? name (modernise members) := by
  have kept : ∀ {other}, other ≠ "HostConfig" →
      Entries.find? other (Entries.drop "HostConfig" members) = Entries.find? other members := by
    intro other ne
    rw [Entries.find?_drop, if_neg ne]
  have limits : outerLimits (Entries.drop "HostConfig" members) = outerLimits members := by
    have outside : ∀ limit ∈ limitNames, limit.1 ≠ "HostConfig" := by decide
    unfold outerLimits
    apply List.filterMap_congr
    rintro ⟨outer, inner⟩ listed
    simp only [kept (outside _ listed)]
  by_cases isHost : name = "HostConfig"
  · have bare : outerHost members = [] := by
      rw [outerHost]
      cases given : Entries.find? "HostConfig" members with
      | none => rfl
      | some j =>
        cases j with
        | obj host =>
          rw [given] at other
          exact absurd (.object host) (other host)
        | _ => rfl
    have dropped : outerHost (Entries.drop "HostConfig" members) = [] := by
      rw [outerHost, Entries.find?_drop, if_pos rfl]
      rfl
    rw [isHost, find?_modernise_host, find?_modernise_host, limits, if_neg some, if_neg some, bare,
      dropped]
  · rw [find?_modernise_of_ne isHost, find?_modernise_of_ne isHost, find?_spelt, find?_spelt,
      kept isHost]

end OtherSettings

/-! ### Limits of a body -/

theorem nodup_of_holds {body : ByteArray} {members : Members} (holds : HoldsMembers body members) :
    (Entries.names members).Nodup := by
  obtain ⟨_, _, single⟩ := holds
  exact Json.nodup_of_lastWins single

theorem IsSettings.nodup {body : ByteArray} {members host : Members}
    (holds : HoldsMembers body members)
    (settings : IsSettings (Entries.find? "HostConfig" members) host) :
    (Entries.names host).Nodup := by
  obtain ⟨_, _, single⟩ := holds
  generalize given : Entries.find? "HostConfig" members = value at settings
  cases settings with
  | absent => exact List.nodup_nil
  | null => exact List.nodup_nil
  | object => exact Json.nodup_of_find?_lastWins single given

theorem configuration_eq_ok {body : ByteArray} {members : Members}
    (holds : HoldsMembers body members) {name : String} {config : Configuration} :
    configuration name body = .ok config ↔
      Configuration.ofJson? (.obj (modernise members)) = some config := by
  rw [configuration_of_holds holds]
  cases Configuration.ofJson? (.obj (modernise members)) <;> simp

/-- If an accepted body has host settings or none, the body without its outer
limits is accepted, too, and only the limits differ. Settings of another type
are read as such if there is no outer limit and else count for nothing. -/
theorem configuration_limits (name : String) {body bare : ByteArray} {members : Members}
    (holds : HoldsMembers body members) (holdsBare : HoldsMembers bare (withoutLimits members)) :
    (∀ host, IsSettings (Entries.find? "HostConfig" members) host →
      ∀ config, configuration name body = .ok config →
        ∃ plain, configuration name bare = .ok plain ∧ MovesLimits members host plain config) ∧
    ((∀ host, ¬ IsSettings (Entries.find? "HostConfig" members) host) →
      ((∀ limit ∈ limitNames, given? (Entries.find? limit.1 members) = none) →
        configuration name body = configuration name bare) ∧
      ((∃ limit ∈ limitNames, given? (Entries.find? limit.1 members) ≠ none) →
        ∀ stripped, HoldsMembers stripped (Entries.drop "HostConfig" members) →
          configuration name body = configuration name stripped)) := by
  have distinct := nodup_of_holds holds
  refine ⟨?_, fun other => ⟨?_, ?_⟩⟩
  · intro host settings config accepted
    rw [configuration_eq_ok holds] at accepted
    obtain ⟨plain, bareAccepted⟩ :=
      exists_withoutLimits distinct (settings.nodup holds) settings accepted
    exact ⟨plain, (configuration_eq_ok holdsBare).mpr bareAccepted,
      movesLimits_of_accepted distinct (settings.nodup holds) settings accepted bareAccepted⟩
  · intro none
    have same := ofJson?_modernise_congr (nodup_of_holds holdsBare) distinct
      fun _ => find?_modernise_of_noLimits (outerLimits_eq_nil_iff.mpr none)
    rw [configuration_of_holds holds, configuration_of_holds holdsBare, same]
  · rintro ⟨limit, listed, given⟩ stripped holdsStripped
    have some : outerLimits members ≠ [] :=
      fun none => given (outerLimits_eq_nil_iff.mp none limit listed)
    have same := ofJson?_modernise_congr (nodup_of_holds holdsStripped) distinct
      fun _ => find?_modernise_drop some other
    rw [configuration_of_holds holds, configuration_of_holds holdsStripped, same]

end Template

/-! ### Bodies with limits in two places -/

namespace Shop

open Template

/-- Limits outside and within the host settings. -/
def limitedMembers : Members :=
  [("Image", .str "nginx"), ("Memory", .int 512), ("Cpuset", .str "0-1"),
    ("HostConfig", .obj [("Memory", .int 256), ("Init", .bool true)])]

def limitedBody : ByteArray :=
  ("\x7b\"Image\":\"nginx\",\"Memory\":512,\"Cpuset\":\"0-1\"," ++
    "\"HostConfig\":\x7b\"Memory\":256,\"Init\":true\x7d\x7d").toUTF8

def unlimitedBody : ByteArray :=
  ("\x7b\"Image\":\"nginx\"," ++
    "\"HostConfig\":\x7b\"Memory\":256,\"Init\":true\x7d\x7d").toUTF8

theorem limitedBody_holds : HoldsMembers limitedBody limitedMembers := by
  refine holds_of_text (by decide +kernel) ?_ rfl
  simp [limitedMembers, Json.Fits, Json.AllMembersFit, Json.maxDepth,
    Text.Numeral.signedBound, Text.Numeral.wordBound]

theorem unlimitedBody_holds : HoldsMembers unlimitedBody (withoutLimits limitedMembers) := by
  refine holds_of_text (by decide +kernel) ?_ rfl
  simp [withoutLimits, limitNames, limitedMembers, Json.Fits, Json.AllMembersFit, Json.maxDepth,
    Text.Numeral.signedBound, Text.Numeral.wordBound]

/-- Where the limit of the memory stands within the host settings. -/
def memorySlot : Slot Schema.hostConfig "Memory" Schema.int64 :=
  .there .here

/-- A limit outside the host settings and null within. -/
def cancelledBody : ByteArray :=
  "\x7b\"Memory\":512,\"HostConfig\":\x7b\"Memory\":null\x7d\x7d".toUTF8

/-- A limit beside host settings that are a string. -/
def hidingBody : ByteArray :=
  "\x7b\"CpuShares\":512,\"HostConfig\":\"x\"\x7d".toUTF8

/-- The same without the limit. -/
def hiddenBody : ByteArray :=
  "\x7b\"HostConfig\":\"x\"\x7d".toUTF8

/-- The same without the settings. -/
def strippedBody : ByteArray :=
  "\x7b\"CpuShares\":512\x7d".toUTF8

def hidingMembers : Members :=
  [("CpuShares", .int 512), ("HostConfig", .str "x")]

theorem hidingBody_holds : HoldsMembers hidingBody hidingMembers := by
  refine holds_of_text (by decide +kernel) ?_ rfl
  simp [hidingMembers, Json.Fits, Json.AllMembersFit, Json.maxDepth, Text.Numeral.signedBound,
    Text.Numeral.wordBound]

theorem hiddenBody_holds : HoldsMembers hiddenBody (withoutLimits hidingMembers) := by
  refine holds_of_text (by decide +kernel) ?_ rfl
  simp [withoutLimits, limitNames, hidingMembers, Json.Fits, Json.AllMembersFit, Json.maxDepth]

theorem strippedBody_holds :
    HoldsMembers strippedBody (Entries.drop "HostConfig" hidingMembers) := by
  refine holds_of_text (by decide +kernel) ?_ rfl
  simp [Entries.drop, hidingMembers, Json.Fits, Json.AllMembersFit, Json.maxDepth,
    Text.Numeral.signedBound, Text.Numeral.wordBound]

end Shop

open Template in
theorem Template.configuration_limits_shop :
    (∃ plain config, configuration "shop_web_1" Shop.unlimitedBody = .ok plain ∧
      configuration "shop_web_1" Shop.limitedBody = .ok config ∧
      MovesLimits Shop.limitedMembers [("Memory", .int 256), ("Init", .bool true)] plain config) ∧
    configuration "shop_web_1" Shop.hidingBody = configuration "shop_web_1" Shop.strippedBody := by
  constructor
  · have isAccepted : (configuration "shop_web_1" Shop.limitedBody).isOk = true := by
      decide +kernel
    cases accepted : configuration "shop_web_1" Shop.limitedBody with
    | error e =>
      rw [accepted] at isAccepted
      cases isAccepted
    | ok config =>
      obtain ⟨plain, bare, moves⟩ := (configuration_limits "shop_web_1" Shop.limitedBody_holds
        Shop.unlimitedBody_holds).1 _ (.object _) config accepted
      exact ⟨plain, config, bare, rfl, moves⟩
  · have other : ∀ host, ¬ IsSettings (Entries.find? "HostConfig" Shop.hidingMembers) host := by
      intro host settings
      cases settings
    have limited : ∃ limit ∈ limitNames,
        given? (Entries.find? limit.1 Shop.hidingMembers) ≠ none :=
      ⟨("CpuShares", "CpuShares"), by decide, by simp [Shop.hidingMembers, Entries.find?, given?]⟩
    exact ((configuration_limits "shop_web_1" Shop.hidingBody_holds Shop.hiddenBody_holds).2
      other).2 limited _ Shop.strippedBody_holds

/-- A limit that is given outside is lost when the host settings give null for it,
and settings that are refused alone are accepted beside a limit. -/
theorem Template.limits_hideSettings :
    (configuration "shop_web_1" Shop.cancelledBody).map
        (fun config => Shop.memorySlot.get config.host) = .ok none ∧
      (configuration "shop_web_1" Shop.hidingBody).isOk = true ∧
      configuration "shop_web_1" Shop.hiddenBody =
        .error (.invalidTemplate "shop_web_1" .dataError) := by
  decide +kernel

end ComposeDeploy
