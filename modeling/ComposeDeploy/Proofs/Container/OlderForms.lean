import ComposeDeploy.Proofs.Container.Modernised
import ComposeDeploy.Proofs.Container.Slots
import ComposeDeploy.Proofs.Text.Pieces
import Mathlib.Data.List.Forall2

/-!
Older and modern bodies.

`IsOlderForm` says which bodies are older forms of a modern one, member by
member and without looking at how they are read: a flag may be written as a
word, a command as its words in one string, and a limit may have been taken out
of the host settings. Looked up in its modernised form, an older body has the
members of the modern one (`IsOlderForm.find?_modernise`,
`IsOlderForm.find?_modernHost`), so both describe the same configuration, or
neither describes one (`configuration_of_older`).
-/

namespace ComposeDeploy

namespace Template

/-! ### Spellings -/

/-- The word, each of its letters in either case. -/
def InEitherCase (word s : String) : Prop :=
  List.Forall₂ (fun letter c => c = letter ∨ c = letter.toUpper) word.toList s.toList

/-- A flag, and it again or the word for it. -/
inductive FlagSpelling : Json → Json → Prop where
  | same (j : Json) : FlagSpelling j j
  | word (b : Bool) (s : String) (cased : InEitherCase (if b then "true" else "false") s) :
      FlagSpelling (.bool b) (.str s)

/-- A command, and it again or its words in one string. -/
inductive CommandSpelling : Json → Json → Prop where
  | same (j : Json) : CommandSpelling j j
  | joined (written : List String) (s : String) (areWords : ∀ word ∈ written, Text.IsWord word)
      (spaced : Text.Spaced written s.toList) :
      CommandSpelling (.arr (written.map .str)) (.str s)

/-- The value is no string. -/
def IsNoText (value : Option Json) : Prop :=
  ∀ s, value ≠ some (.str s)

/-- A body in which no flag and no command is a string and no limit stands
outside the host settings. -/
structure IsModern (modern : Members) : Prop where
  flags : ∀ name ∈ flagNames, IsNoText (Entries.find? name modern)
  commands : ∀ name ∈ commandNames, IsNoText (Entries.find? name modern)
  limits : ∀ limit ∈ limitNames, Entries.find? limit.1 modern = none
  hostFlags : ∀ host, Entries.find? "HostConfig" modern = some (.obj host) →
    ∀ name ∈ hostFlagNames, IsNoText (Entries.find? name host)

/-- Host settings `older` say what the settings `host` say, but for the limits
`moved`, which they lack. -/
structure IsOlderHost (moved : List (String × String)) (host older : Members) : Prop where
  flags : ∀ name ∈ hostFlagNames,
    Option.Rel FlagSpelling (Entries.find? name host) (Entries.find? name older)
  limits : ∀ limit ∈ moved, Entries.find? limit.2 older = none
  others : ∀ name, name ∉ hostFlagNames → name ∉ moved.map Prod.snd →
    Entries.find? name older = Entries.find? name host

/-- What stands for the host settings in a modern body and in an older one. -/
inductive HostSpelling (moved : List (String × String)) : Option Json → Option Json → Prop where
  | object {host older : Members} (same : IsOlderHost moved host older) :
      HostSpelling moved (some (.obj host)) (some (.obj older))
  /-- Settings from which all was moved need not be written. -/
  | dropped {host : Members} (same : IsOlderHost moved host []) (nonempty : moved ≠ []) :
      HostSpelling moved (some (.obj host)) none
  | other {given : Option Json} (noObject : ∀ host, given ≠ some (.obj host))
      (nothing : moved = []) : HostSpelling moved given given

/-- The body `older` says what the body `modern` says, in older spellings of any
of its flags and commands and with the limits `moved` outside its host
settings. -/
structure IsOlderForm (moved : List (String × String)) (modern older : Members) : Prop where
  flags : ∀ name ∈ flagNames,
    Option.Rel FlagSpelling (Entries.find? name modern) (Entries.find? name older)
  commands : ∀ name ∈ commandNames,
    Option.Rel CommandSpelling (Entries.find? name modern) (Entries.find? name older)
  within : moved ⊆ limitNames
  outside : ∀ limit ∈ moved, ∃ host value,
    Entries.find? "HostConfig" modern = some (.obj host) ∧
      Entries.find? limit.2 host = some value ∧ value ≠ .null ∧
      Entries.find? limit.1 older = some value
  inside : ∀ limit ∈ limitNames, limit ∉ moved →
    Entries.find? limit.1 older = Entries.find? limit.1 modern
  host : HostSpelling moved (Entries.find? "HostConfig" modern)
    (Entries.find? "HostConfig" older)
  others : ∀ name, name ∉ flagNames → name ∉ commandNames → name ∉ limitNames.map Prod.fst →
    name ≠ "HostConfig" → Entries.find? name older = Entries.find? name modern

theorem rel_same {spelling : Json → Json → Prop} (same : ∀ j, spelling j j) :
    ∀ given : Option Json, Option.Rel spelling given given
  | none => .none
  | some j => .some (same j)

/-- A body is an older form of itself. -/
theorem IsOlderForm.refl (body : Members) : IsOlderForm [] body body where
  flags name _ := rel_same .same _
  commands name _ := rel_same .same _
  within := List.nil_subset _
  outside limit member := absurd member List.not_mem_nil
  inside limit _ _ := rfl
  host := by
    cases given : Entries.find? "HostConfig" body with
    | none => exact .other (by simp) rfl
    | some j =>
      cases j with
      | obj host =>
        exact .object ⟨fun name _ => rel_same .same _,
          fun limit member => absurd member List.not_mem_nil, fun _ _ _ => rfl⟩
      | _ => exact .other (by simp) rfl
  others name _ _ _ _ := rfl

/-! ### Spellings undone -/

theorem map_toLower_of_forall₂ {letters cs : List Char}
    (cased : List.Forall₂ (fun letter c => c = letter ∨ c = letter.toUpper) letters cs)
    (lowered : ∀ letter ∈ letters, letter.toUpper.toLower = letter.toLower) :
    cs.map Char.toLower = letters.map Char.toLower := by
  induction cased with
  | nil => rfl
  | @cons letter c letters cs first rest ih =>
    have same : c.toLower = letter.toLower := by
      rcases first with rfl | rfl
      · rfl
      · exact lowered letter List.mem_cons_self
    have others := ih fun other member => lowered other (List.mem_cons_of_mem letter member)
    rw [List.map_cons, List.map_cons, same, others]

theorem not_sameIgnoringCase_of_length {word s : String}
    (longer : s.toList.length ≠ word.toList.length) : Text.sameIgnoringCase s word = false := by
  simp only [Text.sameIgnoringCase, beq_eq_false_iff_ne]
  intro same
  exact longer (by simpa using congrArg List.length same)

theorem FlagSpelling.flagOf {given older : Json} (spelling : FlagSpelling given older)
    (noText : ∀ s, given ≠ .str s) : flagOf older = given := by
  cases spelling with
  | same =>
    cases given with
    | str s => exact absurd rfl (noText s)
    | _ => rfl
  | word b s cased =>
    cases b with
    | true =>
      have lowered : ∀ letter ∈ ['t', 'r', 'u', 'e'], letter.toUpper.toLower = letter.toLower := by
        intro letter member
        simp only [List.mem_cons, List.not_mem_nil, or_false] at member
        rcases member with rfl | rfl | rfl | rfl <;> rfl
      have same := map_toLower_of_forall₂ cased lowered
      have read : Text.sameIgnoringCase s "true" = true := beq_iff_eq.mpr same
      exact congrArg Json.bool read
    | false =>
      have length : s.toList.length = 5 := (List.Forall₂.length_eq cased).symm
      have read : Text.sameIgnoringCase s "true" = false :=
        not_sameIgnoringCase_of_length (by rw [length]; decide)
      exact congrArg Json.bool read

theorem CommandSpelling.commandOf {given older : Json} (spelling : CommandSpelling given older)
    (noText : ∀ s, given ≠ .str s) : commandOf older = given := by
  cases spelling with
  | same =>
    cases given with
    | str s => exact absurd rfl (noText s)
    | _ => rfl
  | joined written s areWords spaced =>
    show Json.arr ((Text.words s).map .str) = .arr (written.map .str)
    rw [Text.words_of_spaced spaced areWords]

/-- What undoes a spelling undoes it where there may be no value. -/
theorem map_eq_of_rel {spelling : Json → Json → Prop} {change : Json → Json}
    {given older : Option Json} (related : Option.Rel spelling given older)
    (undo : ∀ {given older : Json}, spelling given older → (∀ s, given ≠ .str s) →
      change older = given)
    (noText : IsNoText given) : older.map change = given := by
  cases related with
  | none => rfl
  | @some j other spelt =>
    have plain : ∀ s, j ≠ .str s := fun s same => noText s (congrArg some same)
    exact congrArg some (undo spelt plain)

/-! ### Older bodies, modernised -/

namespace IsOlderForm

variable {moved : List (String × String)} {modern older : Members}

/-- Exactly the moved limits stand outside the host settings. -/
theorem mem_outerLimits_iff (form : IsOlderForm moved modern older) (isModern : IsModern modern)
    {name : String} {value : Json} :
    (name, value) ∈ outerLimits older ↔ ∃ limit ∈ moved, limit.2 = name ∧
      Entries.find? limit.1 older = some value ∧ value ≠ .null := by
  rw [mem_outerLimits]
  constructor
  · rintro ⟨limit, member, named, found, present⟩
    by_cases outside : limit ∈ moved
    · exact ⟨limit, outside, named, found, present⟩
    · have absent := (form.inside limit member outside).trans (isModern.limits limit member)
      exact absurd (found.symm.trans absent) (by simp)
  · rintro ⟨limit, outside, rest⟩
    exact ⟨limit, form.within outside, rest⟩

theorem find?_outerLimits_of_moved (form : IsOlderForm moved modern older)
    (isModern : IsModern modern) {host : Members}
    (given : Entries.find? "HostConfig" modern = some (.obj host)) {limit : String × String}
    (outside : limit ∈ moved) :
    Entries.find? limit.2 (outerLimits older) = Entries.find? limit.2 host := by
  obtain ⟨host', value, given', found, present, taken⟩ := form.outside limit outside
  cases given.symm.trans given'
  have member := (form.mem_outerLimits_iff isModern).mpr ⟨limit, outside, rfl, taken, present⟩
  rw [found]
  exact Entries.find?_of_mem (nodup_outerLimits older) member

theorem find?_outerLimits_of_notMem (form : IsOlderForm moved modern older)
    (isModern : IsModern modern) {name : String} (inside : name ∉ moved.map Prod.snd) :
    Entries.find? name (outerLimits older) = none := by
  apply Entries.find?_eq_none_of_notMem
  intro member
  obtain ⟨⟨named, value⟩, taken, rfl⟩ := List.mem_map.mp member
  obtain ⟨limit, outside, rfl, -⟩ := (form.mem_outerLimits_iff isModern).mp taken
  exact inside (List.mem_map.mpr ⟨limit, outside, rfl⟩)

theorem outerLimits_eq_nil_iff (form : IsOlderForm moved modern older)
    (isModern : IsModern modern) : outerLimits older = [] ↔ moved = [] := by
  constructor
  · intro none
    refine List.eq_nil_iff_forall_not_mem.mpr fun limit outside => ?_
    obtain ⟨_, value, _, _, present, taken⟩ := form.outside limit outside
    have member := (form.mem_outerLimits_iff isModern).mpr ⟨limit, outside, rfl, taken, present⟩
    rw [none] at member
    exact List.not_mem_nil member
  · rintro rfl
    refine List.eq_nil_iff_forall_not_mem.mpr fun ⟨name, value⟩ member => ?_
    obtain ⟨limit, outside, -⟩ := (form.mem_outerLimits_iff isModern).mp member
    exact List.not_mem_nil outside

/-- But for its host settings, an older body has the members of the modern
one. -/
theorem find?_modernise (form : IsOlderForm moved modern older) (isModern : IsModern modern)
    {name : String} (ne : name ≠ "HostConfig") :
    Entries.find? name (modernise older) = Entries.find? name modern := by
  rw [find?_modernise_of_ne ne]
  by_cases limit : name ∈ limitNames.map Prod.fst
  · obtain ⟨limit, member, rfl⟩ := List.mem_map.mp limit
    rw [if_pos limit, isModern.limits _ member]
  · rw [if_neg limit, find?_spelt]
    by_cases command : name ∈ commandNames
    · rw [if_pos command]
      exact map_eq_of_rel (form.commands name command) CommandSpelling.commandOf
        (isModern.commands name command)
    · rw [if_neg command]
      by_cases flag : name ∈ flagNames
      · rw [if_pos flag]
        exact map_eq_of_rel (form.flags name flag) FlagSpelling.flagOf
          (isModern.flags name flag)
      · rw [if_neg flag]
        exact form.others name flag command limit ne

/-- Host settings with the moved limits put back and the flags in the modern
form have the members of the modern ones. -/
theorem find?_modernHost (form : IsOlderForm moved modern older) (isModern : IsModern modern)
    {host olderHost : Members} (given : Entries.find? "HostConfig" modern = some (.obj host))
    (same : IsOlderHost moved host olderHost) (name : String) :
    Entries.find? name (adjustAll flagOf hostFlagNames
      ((outerLimits older).foldl addMissing olderHost)) = Entries.find? name host := by
  have noFlag : ∀ limit ∈ limitNames, limit.2 ∉ hostFlagNames := by decide
  rw [find?_adjustAll _ _ _ (by decide), find?_addAll]
  by_cases wasMoved : name ∈ moved.map Prod.snd
  · obtain ⟨limit, outside, rfl⟩ := List.mem_map.mp wasMoved
    rw [if_neg (noFlag limit (form.within outside)), same.limits limit outside, Option.none_or]
    exact form.find?_outerLimits_of_moved isModern given outside
  · rw [form.find?_outerLimits_of_notMem isModern wasMoved, Option.or_none]
    by_cases flag : name ∈ hostFlagNames
    · rw [if_pos flag]
      exact map_eq_of_rel (same.flags name flag) FlagSpelling.flagOf
        (isModern.hostFlags host given name flag)
    · rw [if_neg flag]
      exact same.others name flag wasMoved

end IsOlderForm

/-! ### What older bodies describe -/

/-- The same value, or objects of the same members in whatever order. -/
inductive SameSettings : Option Json → Option Json → Prop where
  | same (given : Option Json) : SameSettings given given
  | members {host changed : Members} (distinct : (Entries.names host).Nodup)
      (distinct' : (Entries.names changed).Nodup)
      (alike : ∀ name, Entries.find? name changed = Entries.find? name host) :
      SameSettings (some (.obj host)) (some (.obj changed))

theorem SameSettings.optional? {given changed : Option Json} (same : SameSettings given changed)
    (fields : Fields) :
    (Shape.record fields).optional? changed = (Shape.record fields).optional? given := by
  cases same with
  | same => rfl
  | members distinct distinct' alike =>
    have read := Shape.decode?_record_congr distinct' distinct
      fun name shape (_ : Slot fields name shape) => congrArg shape.optional? (alike name)
    exact congrArg (Option.map some) read

/-- Modernised, the host settings of an older body are those of the modern one. -/
theorem IsOlderForm.sameSettings {moved : List (String × String)} {modern older : Members}
    (form : IsOlderForm moved modern older) (isModern : IsModern modern) {j k : Json}
    (held : j.lastWins = .obj modern) (heldOlder : k.lastWins = .obj older) :
    SameSettings (Entries.find? "HostConfig" modern)
      (Entries.find? "HostConfig" (modernise older)) := by
  rw [find?_modernise_host]
  have spelling := form.host
  generalize given : Entries.find? "HostConfig" modern = settings at spelling
  generalize found : Entries.find? "HostConfig" older = olderSettings at spelling
  -- The limits are put into what there is of the settings. With nothing moved the settings
  -- stay as they are, and settings that are missing are made of the moved limits alone.
  cases spelling with
  | @object host olderHost same =>
    have distinct := names_addAll_nodup (outerLimits older)
      (Json.nodup_of_find?_lastWins heldOlder found)
    have merged : (if outerLimits older = [] then some (.obj olderHost)
        else some (.obj ((outerLimits older).foldl addMissing (outerHost older)))) =
        some (Json.obj ((outerLimits older).foldl addMissing olderHost)) := by
      split
      · next none => rw [none, List.foldl_nil]
      · rw [outerHost, found]
        rfl
    rw [merged]
    exact .members (Json.nodup_of_find?_lastWins held given)
      ((names_adjustAll _ _ _).symm ▸ distinct) (form.find?_modernHost isModern given same)
  | @dropped host same nonempty =>
    have some : outerLimits older ≠ [] := fun nothing =>
      nonempty ((form.outerLimits_eq_nil_iff isModern).mp nothing)
    have none : (Entries.names ([] : Members)).Nodup := List.nodup_nil
    have distinct := names_addAll_nodup (outerLimits older) none
    have bare : outerHost older = [] := by rw [outerHost, found]; rfl
    rw [if_neg some, bare]
    exact .members (Json.nodup_of_find?_lastWins held given)
      ((names_adjustAll _ _ _).symm ▸ distinct) (form.find?_modernHost isModern given same)
  | other noObject nothing =>
    rw [if_pos ((form.outerLimits_eq_nil_iff isModern).mpr nothing)]
    have untouched : settings.map modernHost = settings := by
      cases settings with
      | none => rfl
      | some j =>
        cases j with
        | obj host => exact absurd rfl (noObject host)
        | _ => rfl
    rw [untouched]
    exact .same settings

/-- Modernised, an older body is read as the modern one. -/
theorem IsOlderForm.ofJson?_modernise {moved : List (String × String)} {modern older : Members}
    (form : IsOlderForm moved modern older) (isModern : IsModern modern) {j k : Json}
    (held : j.lastWins = .obj modern) (heldOlder : k.lastWins = .obj older) :
    Configuration.ofJson? (.obj (modernise older)) = Configuration.ofJson? (.obj modern) := by
  have fieldNames : Schema.configuration.names.Nodup := by decide
  have settings := form.sameSettings isModern held heldOlder
  refine congrArg (Option.map Configuration.mk) (Shape.decode?_record_congr
    (names_modernise_nodup (Json.nodup_of_lastWins heldOlder)) (Json.nodup_of_lastWins held) ?_)
  intro name shape slot
  by_cases host : name = "HostConfig"
  · -- The one field whose value may differ as a list of members: it is read by its own fields.
    subst host
    cases slot.shape_unique fieldNames Configuration.hostSlot
    exact settings.optional? Schema.hostConfig
  · rw [form.find?_modernise isModern host]

/-- The bytes are a JSON object of these members; of repeated members the last
counts. -/
def HoldsMembers (body : ByteArray) (members : Members) : Prop :=
  ∃ j, Json.readBytes? body = some j ∧ j.lastWins = .obj members

/-- The text written from an object of distinct names holds its members. -/
theorem holds_of_text {body : ByteArray} {members : Members}
    (text : Text.Utf8.decode? body = some (Json.render (.obj members)))
    (fits : (Json.obj members).Fits Json.maxDepth)
    (single : (Json.obj members).lastWins = .obj members) : HoldsMembers body members := by
  refine ⟨.obj members, ?_, single⟩
  rw [Json.readBytes?, text, Option.bind_some]
  exact Json.read?_render fits

theorem configuration_of_holds {body : ByteArray} {members : Members}
    (holds : HoldsMembers body members) (name : String) :
    configuration name body = (Configuration.ofJson? (.obj (modernise members))).elim
      (.error (.invalidTemplate name .dataError)) .ok := by
  obtain ⟨j, read, single⟩ := holds
  simp only [configuration, read, normalise, single]
  cases Configuration.ofJson? (.obj (modernise members)) <;> rfl

/-- An older body and the modern one that it was written from describe the
configuration that the modern body spells out, or neither is a configuration. -/
theorem configuration_of_older (name : String) {modernBody olderBody : ByteArray}
    {modern older : Members} {moved : List (String × String)}
    (holds : HoldsMembers modernBody modern) (holdsOlder : HoldsMembers olderBody older)
    (isModern : IsModern modern) (form : IsOlderForm moved modern older) :
    (∃ config, Configuration.ofJson? (.obj modern) = some config ∧
      configuration name modernBody = .ok config ∧ configuration name olderBody = .ok config) ∨
    (Configuration.ofJson? (.obj modern) = none ∧
      configuration name modernBody = .error (.invalidTemplate name .dataError) ∧
      configuration name olderBody = .error (.invalidTemplate name .dataError)) := by
  obtain ⟨j, -, held⟩ := id holds
  obtain ⟨k, -, heldOlder⟩ := id holdsOlder
  have direct := (IsOlderForm.refl modern).ofJson?_modernise isModern held held
  have indirect := form.ofJson?_modernise isModern held heldOlder
  rw [configuration_of_holds holds, configuration_of_holds holdsOlder, direct, indirect]
  cases read : Configuration.ofJson? (.obj modern) with
  | none => exact .inr ⟨rfl, rfl, rfl⟩
  | some config => exact .inl ⟨config, rfl, rfl, rfl⟩

end Template

/-! ### One body in both forms -/

namespace Shop

open Template

/-- The body of a call of a modern client. -/
def modernBody : ByteArray :=
  ("\x7b\"Image\":\"nginx\",\"Tty\":true,\"Cmd\":[\"serve\",\"-v\"]," ++
    "\"HostConfig\":\x7b\"Memory\":512,\"CpusetCpus\":\"0-1\"," ++
    "\"Privileged\":false,\"Init\":true\x7d\x7d").toUTF8

def modernMembers : Members :=
  [("Image", .str "nginx"), ("Tty", .bool true), ("Cmd", .arr [.str "serve", .str "-v"]),
    ("HostConfig", .obj [("Memory", .int 512), ("CpusetCpus", .str "0-1"),
      ("Privileged", .bool false), ("Init", .bool true)])]

/-- The same call of an older client. -/
def olderBody : ByteArray :=
  ("\x7b\"Cpuset\":\"0-1\",\"Image\":\"nginx\",\"Tty\":\"True\",\"Cmd\":\"serve  -v\"," ++
    "\"HostConfig\":\x7b\"Init\":true,\"Privileged\":\"FALSE\"\x7d,\"Memory\":512\x7d").toUTF8

def olderMembers : Members :=
  [("Cpuset", .str "0-1"), ("Image", .str "nginx"), ("Tty", .str "True"),
    ("Cmd", .str "serve  -v"),
    ("HostConfig", .obj [("Init", .bool true), ("Privileged", .str "FALSE")]),
    ("Memory", .int 512)]

theorem modernBody_holds : HoldsMembers modernBody modernMembers := by
  refine holds_of_text (by decide +kernel) ?_ rfl
  simp [modernMembers, Json.Fits, Json.AllFit, Json.AllMembersFit, Json.maxDepth,
    Text.Numeral.signedBound, Text.Numeral.wordBound]

theorem olderBody_holds : HoldsMembers olderBody olderMembers := by
  refine holds_of_text (by decide +kernel) ?_ rfl
  simp [olderMembers, Json.Fits, Json.AllMembersFit, Json.maxDepth,
    Text.Numeral.signedBound, Text.Numeral.wordBound]

theorem modernMembers_isModern : IsModern modernMembers where
  flags := by simp [flagNames, modernMembers, IsNoText, Entries.find?]
  commands := by simp [commandNames, modernMembers, IsNoText, Entries.find?]
  limits := by simp [limitNames, modernMembers, Entries.find?]
  hostFlags := by simp [hostFlagNames, modernMembers, IsNoText, Entries.find?]

theorem serve_spelling : CommandSpelling (.arr [.str "serve", .str "-v"]) (.str "serve  -v") := by
  have blank : ∀ c ∈ [' ', ' '], Text.isBlank c = true := List.all_eq_true.mp rfl
  refine .joined ["serve", "-v"] _ ?_ (.more (by simp) blank (.last "-v"))
  intro word member
  simp only [List.mem_cons, List.not_mem_nil, or_false] at member
  rcases member with rfl | rfl <;> exact .of_all (by simp) rfl

theorem olderMembers_isOlderForm :
    IsOlderForm [("Memory", "Memory"), ("Cpuset", "CpusetCpus")] modernMembers olderMembers where
  flags name member := by
    simp only [flagNames, List.mem_cons, List.not_mem_nil, or_false] at member
    rcases member with rfl | rfl | rfl | rfl | rfl | rfl | rfl
    · exact .some (.word true "True" (by simp [InEitherCase]))
    all_goals exact .none
  commands name member := by
    simp only [commandNames, List.mem_cons, List.not_mem_nil, or_false] at member
    rcases member with rfl | rfl
    · exact .none
    · exact .some serve_spelling
  within := by simp [limitNames]
  outside := by simp [modernMembers, olderMembers, Entries.find?]
  inside := by simp [limitNames, modernMembers, olderMembers, Entries.find?]
  host := by
    refine .object ⟨?_, by simp [Entries.find?], ?_⟩
    · intro name member
      simp only [hostFlagNames, List.mem_cons, List.not_mem_nil, or_false] at member
      rcases member with rfl | rfl | rfl
      · exact .some (.word false "FALSE" (by simp [InEitherCase]))
      all_goals exact .none
    · intro name flag limit
      simp_all [hostFlagNames, Entries.find?, eq_comm]
  others name _ command limit host := by
    simp_all [flagNames, commandNames, limitNames, modernMembers, olderMembers, Entries.find?,
      eq_comm]

end Shop

theorem Template.configuration_of_older_shop :
    Shop.modernBody ≠ Shop.olderBody ∧
      ∃ config, Configuration.ofJson? (.obj Shop.modernMembers) = some config ∧
        configuration "shop_web_1" Shop.modernBody = .ok config ∧
        configuration "shop_web_1" Shop.olderBody = .ok config := by
  have read := configuration_of_older "shop_web_1" Shop.modernBody_holds Shop.olderBody_holds
    Shop.modernMembers_isModern Shop.olderMembers_isOlderForm
  refine ⟨by decide +kernel, read.resolve_right fun failed => ?_⟩
  exact absurd failed.1 (by decide +kernel)

end ComposeDeploy
