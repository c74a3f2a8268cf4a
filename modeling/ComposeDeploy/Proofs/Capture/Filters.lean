import ComposeDeploy.Capture.Filter
import ComposeDeploy.Proofs.Json.Members
import ComposeDeploy.Proofs.Json.Scan
import ComposeDeploy.Proofs.Text.Pieces

/-!
What a text of filters asks for.

Labels are filtered in two forms, as a list and as switches, and a text may hold
any other filters beside them (`HoldsFilters`). Both forms ask for a set of labels
(`Labels`), the reader turns either into a list of that set
(`HoldsLabels.wantedService?_eq`), and of a list it keeps the first label that names
a service (`serviceNamed?_eq_some_iff`). So the form makes no difference where at
most one service is named (`wantedService?_forms_agree`).
-/

namespace ComposeDeploy.Capture

/-! ### Labels that name a service -/

/-- The label names this service: up to its first equals sign it is the label for
services, and the service is the rest. -/
def NamesService (label service : String) : Prop :=
  Text.splitFirst '=' label.toList = some (composeServiceLabel.toList, service.toList)

/-- The label names some service. -/
def IsServiceLabel (label : String) : Prop :=
  ∃ service, NamesService label service

/-- At most one of the labels names a service. -/
def NameOneService (labels : List String) : Prop :=
  ∀ label ∈ labels, ∀ other ∈ labels, IsServiceLabel label → IsServiceLabel other → label = other

/-- The first of the labels that names a service names this one. -/
def NamesFirst (labels : List String) (service : String) : Prop :=
  ∃ before label after, labels = before ++ label :: after ∧ NamesService label service ∧
    ∀ earlier ∈ before, ¬ IsServiceLabel earlier

/-- The service that the first of the labels to name one names. -/
def serviceNamed? (labels : List String) : Option String :=
  labels.findSome? (Text.afterStart (composeServiceLabel ++ "="))

theorem namesService_iff {label service : String} :
    NamesService label service ↔
      Text.afterStart (composeServiceLabel ++ "=") label = some service := by
  have unbroken : '=' ∉ composeServiceLabel.toList := by decide
  have written : (composeServiceLabel ++ "=" ++ service).toList =
      composeServiceLabel.toList ++ '=' :: service.toList := by
    rw [String.toList_append, String.toList_append, List.append_assoc]
    rfl
  rw [NamesService, Text.splitFirst_eq_some_iff, and_iff_left unbroken,
    Text.afterStart_eq_some_iff, ← String.toList_inj, written]

theorem isServiceLabel_iff {label : String} :
    IsServiceLabel label ↔ (Text.afterStart (composeServiceLabel ++ "=") label).isSome := by
  simp only [IsServiceLabel, namesService_iff, Option.isSome_iff_exists]

instance (label : String) : Decidable (IsServiceLabel label) :=
  decidable_of_iff' _ isServiceLabel_iff

instance (labels : List String) : Decidable (NameOneService labels) :=
  inferInstanceAs (Decidable (∀ label ∈ labels, ∀ other ∈ labels, _))

theorem NamesService.unique {label service other : String} (names : NamesService label service)
    (another : NamesService label other) : service = other :=
  Option.some.inj ((namesService_iff.mp names).symm.trans (namesService_iff.mp another))

theorem serviceNamed?_eq_some_iff {labels : List String} {service : String} :
    serviceNamed? labels = some service ↔ NamesFirst labels service := by
  simp only [serviceNamed?, NamesFirst, List.findSome?_eq_some_iff, namesService_iff,
    isServiceLabel_iff, Option.not_isSome_iff_eq_none]

theorem serviceNamed?_eq_none_iff {labels : List String} :
    serviceNamed? labels = none ↔ ∀ label ∈ labels, ¬ IsServiceLabel label := by
  simp only [serviceNamed?, List.findSome?_eq_none_iff, isServiceLabel_iff,
    Option.not_isSome_iff_eq_none]

/-- One label that names a service settles the service. -/
theorem NameOneService.serviceNamed?_eq {labels : List String} {label service : String}
    (single : NameOneService labels) (listed : label ∈ labels)
    (names : NamesService label service) : serviceNamed? labels = some service := by
  cases found : serviceNamed? labels with
  | none => exact absurd ⟨service, names⟩ (serviceNamed?_eq_none_iff.mp found label listed)
  | some other =>
    obtain ⟨before, first, after, rfl, firstNames, _⟩ := serviceNamed?_eq_some_iff.mp found
    have inside : first ∈ before ++ first :: after := by simp
    cases single label listed first inside ⟨service, names⟩ ⟨other, firstNames⟩
    rw [names.unique firstNames]

/-! ### Filters -/

/-- A filter in the form of a list. -/
def listForm (values : List String) : Json :=
  .arr (values.map .str)

/-- A filter in the form of switches. -/
def switchForm (switches : List (String × Bool)) : Json :=
  .obj (switches.map fun switch => (switch.1, .bool switch.2))

/-- The values of a filter have one of two forms. -/
inductive IsFilter : Json → Prop where
  | list (values : List String) : IsFilter (listForm values)
  | switches (switches : List (String × Bool)) : IsFilter (switchForm switches)

/-- The text is an object of filters. -/
structure HoldsFilters (text : String) (filters : List (String × Json)) : Prop where
  written : Json.read? text.toList = some (.obj filters)
  wellFormed : ∀ filter ∈ filters, IsFilter filter.2

/-- The filter of a name; of several the last counts. -/
def filterOf (name : String) (filters : List (String × Json)) : Option Json :=
  Entries.find? name filters.reverse

/-- The values that are switched on: their last switch says so. -/
def AreOn (values : List String) (switches : List (String × Bool)) : Prop :=
  ∀ value, value ∈ values ↔ Entries.find? value switches.reverse = some true

/-- The text is an object of filters, of which this is the one for labels. -/
def HoldsLabels (text : String) (filter : Option Json) : Prop :=
  ∃ filters, HoldsFilters text filters ∧ filterOf "label" filters = filter

/-- The labels that a filter of labels asks for, in some order. -/
inductive Labels : (filter : Option Json) → List String → Prop where
  | absent : Labels none []
  | listed (labels : List String) : Labels (some (listForm labels)) labels
  | switched {labels : List String} {switches : List (String × Bool)} : AreOn labels switches →
    Labels (some (switchForm switches)) labels

theorem AreOn.mem_iff {values others : List String} {switches : List (String × Bool)}
    (on : AreOn values switches) (alsoOn : AreOn others switches) (value : String) :
    value ∈ values ↔ value ∈ others :=
  (on value).trans (alsoOn value).symm

/-- Switches for all values, in any order and together with others that are off,
switch these values on. -/
theorem AreOn.of_perm {values others : List String} {switches : List (String × Bool)}
    (apart : ∀ value ∈ values, value ∉ others)
    (order : switches.Perm (values.map (·, true) ++ others.map (·, false))) :
    AreOn values switches := by
  intro value
  have mem : ∀ switch, switch ∈ switches.reverse ↔
      switch ∈ values.map (·, true) ++ others.map (·, false) := by
    intro switch
    rw [List.mem_reverse, order.mem_iff]
  constructor
  · intro listed
    have named : value ∈ Entries.names switches.reverse :=
      List.mem_map.mpr ⟨(value, true), (mem _).mpr (by simpa using listed), rfl⟩
    cases found : Entries.find? value switches.reverse with
    | none => exact absurd found (Entries.find?_ne_none_of_mem_names named)
    | some on =>
      cases on with
      | true => rfl
      | false =>
        have off : value ∈ others := by simpa using (mem _).mp (Entries.mem_of_find? found)
        exact absurd off (apart value listed)
  · intro found
    simpa using (mem _).mp (Entries.mem_of_find? found)

theorem listForm_injective : Function.Injective listForm := by
  intro values others same
  exact List.map_injective_iff.mpr (fun _ _ => Json.str.inj) (Json.arr.inj same)

theorem switchForm_injective : Function.Injective switchForm := by
  intro switches others same
  refine List.map_injective_iff.mpr ?_ (Json.obj.inj same)
  rintro ⟨value, on⟩ ⟨other, otherOn⟩ written
  simpa using written

/-- A filter asks for one set of labels. -/
theorem Labels.mem_iff {filter : Option Json} {labels others : List String}
    (asked : Labels filter labels) (again : Labels filter others) (label : String) :
    label ∈ labels ↔ label ∈ others := by
  cases asked with
  | absent =>
    cases again
    exact Iff.rfl
  | listed =>
    generalize form : some (listForm labels) = filter at again
    cases again with
    | absent => cases form
    | listed => rw [listForm_injective (Option.some.inj form)]
    | switched => cases form
  | @switched _ switches on =>
    generalize form : some (switchForm switches) = filter at again
    cases again with
    | absent => cases form
    | listed => cases form
    | switched alsoOn =>
      cases switchForm_injective (Option.some.inj form)
      exact on.mem_iff alsoOn label

theorem IsFilter.fits {j : Json} (form : IsFilter j) : j.Fits 1 := by
  cases form with
  | list values =>
    refine ⟨Nat.one_pos, Json.allFit_iff.mpr fun item written => ?_⟩
    obtain ⟨value, _, rfl⟩ := List.mem_map.mp written
    trivial
  | switches switches =>
    refine ⟨Nat.one_pos, Json.allMembersFit_iff.mpr fun member written => ?_⟩
    obtain ⟨switch, _, rfl⟩ := List.mem_map.mp written
    trivial

/-- All well-formed filters have a text. -/
theorem holdsFilters_render {filters : List (String × Json)}
    (wellFormed : ∀ filter ∈ filters, IsFilter filter.2) :
    HoldsFilters (Json.obj filters).render filters where
  written := by
    have fits : (Json.obj filters).Fits Json.maxDepth := by
      refine ⟨by decide, Json.allMembersFit_iff.mpr fun filter listed => ?_⟩
      exact (wellFormed filter listed).fits.mono (by decide)
    exact Json.read?_render fits
  wellFormed := wellFormed

/-! ### Reading filters -/

theorem mapM_text?_eq_some_iff {items : List Json} {values : List String} :
    items.mapM Json.text? = some values ↔ items = values.map .str := by
  refine mapM_eq_some_iff_of_inverse fun item value => ?_
  cases item <;> simp [Json.text?]

theorem mapM_enabled?_eq_some_iff {members : List (String × Json)}
    {switches : List (String × Bool)} :
    members.mapM Selection.enabled? = some switches ↔
      members = switches.map fun switch => (switch.1, .bool switch.2) := by
  refine mapM_eq_some_iff_of_inverse fun (name, value) (other, on) => ?_
  cases value <;> simp [Selection.enabled?, Json.flag?]

theorem Selection.ofJson?_listForm (values : List String) :
    ofJson? (listForm values) = some (.list values) := by
  simp only [listForm, ofJson?, mapM_text?_eq_some_iff.mpr rfl, Option.map_some]

theorem Selection.ofJson?_switchForm (switches : List (String × Bool)) :
    ofJson? (switchForm switches) = some (.map (Dictionary.ofList switches)) := by
  simp only [switchForm, ofJson?, mapM_enabled?_eq_some_iff.mpr rfl, Option.map_some]

/-- Exactly filters are read as such. -/
theorem isFilter_iff {j : Json} :
    IsFilter j ↔ ∃ selection, Selection.ofJson? j = some selection := by
  constructor
  · intro form
    cases form with
    | list values => exact ⟨_, Selection.ofJson?_listForm values⟩
    | switches switches => exact ⟨_, Selection.ofJson?_switchForm switches⟩
  · rintro ⟨selection, read⟩
    cases j with
    | arr items =>
      obtain ⟨values, inside, _⟩ := Option.map_eq_some_iff.mp read
      exact mapM_text?_eq_some_iff.mp inside ▸ .list values
    | obj members =>
      obtain ⟨switches, inside, _⟩ := Option.map_eq_some_iff.mp read
      exact mapM_enabled?_eq_some_iff.mp inside ▸ .switches switches
    | _ => cases read

/-- The values of switches are those that are on. -/
theorem areOn_values (switches : List (String × Bool)) :
    AreOn (Selection.map (Dictionary.ofList switches)).values switches := by
  intro value
  rw [← Dictionary.get?_ofList]
  constructor
  · intro listed
    obtain ⟨⟨_, on⟩, inside, rfl⟩ := List.mem_map.mp listed
    obtain ⟨inside, isOn⟩ := List.mem_filter.mp inside
    cases isOn
    exact Entries.find?_of_mem (Dictionary.ofList switches).distinct inside
  · intro found
    exact List.mem_map.mpr
      ⟨(value, true), List.mem_filter.mpr ⟨Entries.mem_of_find? found, rfl⟩, rfl⟩

theorem filters?_eq_some_iff {text : String} {read : Dictionary Selection} :
    filters? text = some read ↔ ∃ members entries, Json.read? text.toList = some (.obj members) ∧
      members.mapM (fun member => (Selection.ofJson? member.2).map (member.1, ·)) = some entries ∧
      read = Dictionary.ofList entries := by
  simp only [filters?, Option.bind_eq_bind, Option.bind_eq_some_iff, Option.pure_def,
    Option.some.injEq]
  constructor
  · rintro ⟨j, written, members, isObject, entries, inside, rfl⟩
    cases j with
    | obj _ =>
      cases isObject
      exact ⟨members, entries, written, inside, rfl⟩
    | _ => cases isObject
  · rintro ⟨members, entries, written, inside, rfl⟩
    exact ⟨_, written, members, rfl, entries, inside, rfl⟩

/-- A text that holds no filters is read as none. -/
theorem wantedService?_eq_none_iff {text : String} :
    wantedService? text = none ↔ ¬ ∃ filters, HoldsFilters text filters := by
  rw [wantedService?, Option.map_eq_none_iff, ← not_iff_not, not_not, ← ne_eq,
    Option.ne_none_iff_exists']
  simp only [filters?_eq_some_iff]
  constructor
  · rintro ⟨_, members, entries, written, inside, rfl⟩
    refine ⟨members, written, fun member listed => ?_⟩
    obtain ⟨_, read⟩ := exists_mapM_eq_some_iff.mp ⟨entries, inside⟩ member listed
    obtain ⟨selection, read, _⟩ := Option.map_eq_some_iff.mp read
    exact isFilter_iff.mpr ⟨selection, read⟩
  · rintro ⟨members, written, wellFormed⟩
    have each : ∀ member ∈ members, ∃ entry,
        (Selection.ofJson? member.2).map (member.1, ·) = some entry := by
      intro member listed
      obtain ⟨selection, read⟩ := isFilter_iff.mp (wellFormed member listed)
      exact ⟨_, congrArg (Option.map _) read⟩
    obtain ⟨entries, inside⟩ := exists_mapM_eq_some_iff.mpr each
    exact ⟨_, members, entries, written, inside, rfl⟩

/-- The service that is read is named first among the labels that are asked for,
in the order in which the reader comes to them. -/
theorem HoldsLabels.wantedService?_eq {text : String} {filter : Option Json}
    (holds : HoldsLabels text filter) :
    ∃ labels, Labels filter labels ∧ wantedService? text = some (serviceNamed? labels) := by
  obtain ⟨filters, holds, rfl⟩ := holds
  obtain ⟨service, read⟩ := Option.ne_none_iff_exists'.mp
    (wantedService?_eq_none_iff.not.mpr (not_not.mpr ⟨filters, holds⟩))
  obtain ⟨d, found, _⟩ := Option.map_eq_some_iff.mp read
  obtain ⟨members, entries, written, inside, rfl⟩ := filters?_eq_some_iff.mp found
  cases holds.written.symm.trans written
  -- The filters are read before they are looked up; looking up first makes no difference.
  have lookup : (Dictionary.ofList entries).get? "label" =
      (filterOf "label" filters).bind Selection.ofJson? := by
    rw [Dictionary.get?_ofList]
    exact Entries.find?_forall₂ "label"
      (List.forall₂_reverse_iff.mpr (mapM_eq_some_iff_forall₂.mp inside))
  simp only [wantedService?, found, Option.map_some, lookup]
  cases label : filterOf "label" filters with
  | none => exact ⟨[], .absent, rfl⟩
  | some filter =>
    have form : IsFilter filter :=
      holds.wellFormed _ (List.mem_reverse.mp (Entries.mem_of_find? label))
    cases form with
    | list values =>
      refine ⟨values, .listed values, ?_⟩
      rw [Option.bind_some, Selection.ofJson?_listForm]
      rfl
    | switches switches =>
      refine ⟨_, .switched (areOn_values switches), ?_⟩
      rw [Option.bind_some, Selection.ofJson?_switchForm]
      rfl

/-! ### Main result -/

/-- Two texts ask for the same labels, one by a list and one by switches. Which
other filters they hold makes no difference. -/
structure AskAlike (labels : List String) (listed switched : String) : Prop where
  list : HoldsLabels listed (some (listForm labels))
  switches : ∃ switches, HoldsLabels switched (some (switchForm switches)) ∧ AreOn labels switches

/-- The service that labels ask for, or that they ask for none. -/
inductive AskForService (labels : List String) : Option String → Prop where
  | named {label service : String} : label ∈ labels → NamesService label service →
    AskForService labels (some service)
  | unnamed : (∀ label ∈ labels, ¬ IsServiceLabel label) → AskForService labels none

theorem exists_askForService (labels : List String) : ∃ answer, AskForService labels answer := by
  cases found : serviceNamed? labels with
  | none => exact ⟨none, .unnamed (serviceNamed?_eq_none_iff.mp found)⟩
  | some service =>
    obtain ⟨_, label, _, rfl, names, _⟩ := serviceNamed?_eq_some_iff.mp found
    exact ⟨some service, .named (List.mem_append_right _ List.mem_cons_self) names⟩

/-- Labels that name one service at most are answered alike in any order. -/
theorem AskForService.serviceNamed?_eq {labels others : List String} {answer : Option String}
    (asks : AskForService labels answer) (single : NameOneService labels)
    (same : ∀ label, label ∈ labels ↔ label ∈ others) : serviceNamed? others = answer := by
  cases asks with
  | named listed names =>
    have single : NameOneService others := by
      intro label first other second
      exact single label ((same label).mpr first) other ((same other).mpr second)
    exact single.serviceNamed?_eq ((same _).mp listed) names
  | unnamed silent =>
    exact serviceNamed?_eq_none_iff.mpr fun label listed => silent label ((same label).mpr listed)

/-- Both forms of a filter mean the same: where the labels name one service at most,
both are answered by the service that is named, and by none if none is. A text that
is no object of well-formed filters is an error, whichever of them is malformed. -/
theorem wantedService?_forms_agree :
    (∀ labels listed switched, AskAlike labels listed switched → NameOneService labels →
      ∃ answer, AskForService labels answer ∧
        wantedService? listed = some answer ∧ wantedService? switched = some answer) ∧
    ∀ text, wantedService? text = none ↔ ¬ ∃ filters, HoldsFilters text filters := by
  refine ⟨?_, fun text => wantedService?_eq_none_iff⟩
  rintro labels listed switched ⟨list, switches, switch, on⟩ single
  obtain ⟨answer, asks⟩ := exists_askForService labels
  obtain ⟨values, inList, listRead⟩ := list.wantedService?_eq
  obtain ⟨others, inSwitches, switchRead⟩ := switch.wantedService?_eq
  refine ⟨answer, asks, listRead.trans ?_, switchRead.trans ?_⟩
  · exact congrArg some (asks.serviceNamed?_eq single ((Labels.listed labels).mem_iff inList))
  · exact congrArg some (asks.serviceNamed?_eq single ((Labels.switched on).mem_iff inSwitches))

/-! A shop's labels, in both forms beside other filters. -/

def shopLabels : List String :=
  ["com.docker.compose.project=shop", "com.docker.compose.service=a=b"]

def shopSwitches : List (String × Bool) :=
  [("com.docker.compose.service=a=b", true), ("com.docker.compose.service=c", false),
    ("com.docker.compose.project=shop", true)]

def shopListed : List (String × Json) :=
  [("status", listForm ["running"]), ("label", listForm shopLabels)]

def shopSwitched : List (String × Json) :=
  [("label", switchForm shopSwitches), ("id", switchForm [])]

theorem shop_askAlike :
    AskAlike shopLabels (Json.obj shopListed).render (Json.obj shopSwitched).render := by
  refine ⟨⟨_, holdsFilters_render ?_, rfl⟩, shopSwitches, ⟨_, holdsFilters_render ?_, rfl⟩, ?_⟩
  · exact List.forall_mem_cons.mpr ⟨.list _, List.forall_mem_singleton.mpr (.list _)⟩
  · exact List.forall_mem_cons.mpr ⟨.switches _, List.forall_mem_singleton.mpr (.switches _)⟩
  · exact @AreOn.of_perm shopLabels ["com.docker.compose.service=c"] shopSwitches (by decide)
      (by decide)

/-- The service is what follows the first equals sign, others included, and a label
that is switched off counts for nothing. -/
theorem wantedService?_forms_agree_shop :
    NameOneService shopLabels ∧
      wantedService? (Json.obj shopListed).render = some (some "a=b") ∧
      wantedService? (Json.obj shopSwitched).render = some (some "a=b") := by
  have single : NameOneService shopLabels := by decide
  obtain ⟨answer, asks, list, switch⟩ := wantedService?_forms_agree.1 _ _ _ shop_askAlike single
  have named : serviceNamed? shopLabels = some "a=b" := by decide
  rw [asks.serviceNamed?_eq single fun _ => Iff.rfl] at named
  subst named
  exact ⟨single, list, switch⟩

end ComposeDeploy.Capture
