import ComposeDeploy.Proofs.Capture.Filters
import ComposeDeploy.Proofs.Capture.Recording

/-!
Listing the captured containers of a service.

The service of a container is read off its name. Of a name that was composed of a
project, a service and an index it is the service, whatever underscores that holds
(`ComposedName.serviceWithin_text`), so a list that is narrowed to a service holds
the containers of that service (`handle_listsServices`).
-/

namespace ComposeDeploy.Capture

/-! ### Composed names -/

/-- The parts of a container name, after any number of slashes. Only the service
may hold underscores. -/
structure ComposedName where
  slashes : Nat
  project : String
  service : String
  index : String
  project_unbroken : '_' ∉ project.toList
  index_unbroken : '_' ∉ index.toList

/-- The name that the parts make up. -/
def ComposedName.text (name : ComposedName) : String :=
  String.ofList (List.replicate name.slashes '/') ++ name.project ++ "_" ++ name.service ++ "_" ++
    name.index

/-- The service is read off the name. -/
theorem ComposedName.serviceWithin_text (name : ComposedName) :
    serviceWithin name.text = name.service := by
  set start := List.replicate name.slashes '/' ++ name.project.toList with start_eq
  set rest := name.service.toList ++ '_' :: name.index.toList with rest_eq
  have written : name.text.toList = start ++ '_' :: rest := by
    simp [text, start_eq, rest_eq]
  have unbroken : '_' ∉ start := by
    simp [start_eq, name.project_unbroken]
  -- Trimming goes no further than the first underscore: it can only shorten the project.
  have trimmed : name.text.toList.dropWhile (· == '/') =
      start.dropWhile (· == '/') ++ '_' :: rest := by
    rw [written, List.dropWhile_append]
    split
    · next gone =>
      rw [List.isEmpty_iff.mp gone]
      rfl
    · rfl
  have first : Text.splitFirst '_' (start.dropWhile (· == '/') ++ '_' :: rest) =
      some (start.dropWhile (· == '/'), rest) :=
    Text.splitFirst_eq_some_iff.mpr
      ⟨rfl, fun inside => unbroken ((List.dropWhile_sublist _).subset inside)⟩
  have last : Text.splitLast '_' rest = some (name.service.toList, name.index.toList) :=
    Text.splitLast_eq_some_iff.mpr ⟨rfl, name.index_unbroken⟩
  simp only [serviceWithin, trimmed, first, last, String.ofList_toList]

/-- A call that creates a container under a composed name. -/
structure ComposedRequest extends ComposedName where
  body : ByteArray

/-- The call as it is captured. -/
def ComposedRequest.request (composed : ComposedRequest) : CreateRequest :=
  ⟨composed.text, composed.body⟩

theorem ComposedRequest.service_request (composed : ComposedRequest) :
    composed.request.service = composed.service :=
  composed.serviceWithin_text

/-! ### What a query asks for -/

/-- The text asks for containers with these labels, in some order. -/
def AsksForLabels (text : String) (labels : List String) : Prop :=
  ∃ filter, HoldsLabels text filter ∧ Labels filter labels

/-- The text selects this service: it asks for labels, and in whatever order they
are asked for, the first that names a service names this one. -/
structure SelectsService (text service : String) : Prop where
  asks : ∃ labels, AsksForLabels text labels
  first : ∀ labels, AsksForLabels text labels → NamesFirst labels service

/-- The text holds filters, of which none is for a service. -/
structure IsUnconstrained (text : String) : Prop where
  asks : ∃ labels, AsksForLabels text labels
  silent : ∀ labels, AsksForLabels text labels → ∀ label ∈ labels, ¬ IsServiceLabel label

/-- The request asks for a list. -/
structure AsksForList (request : Http.Request) : Prop where
  method : request.method = "GET"
  path : request.path = "/v1.18/containers/json"
  readable : NamesOnce request ["filters"]

/-- The filters that a request sends. -/
def sentFilters (request : Http.Request) : Option String :=
  Entries.find? "filters" (Text.Percent.pairs request.query)

/-- The request asks for a list of the containers of one service, or of all. -/
inductive AsksForService (request : Http.Request) : Option String → Prop where
  | selected {text service : String} : sentFilters request = some text →
    SelectsService text service → AsksForService request (some service)
  | absent : sentFilters request = none → AsksForService request none
  | empty : sentFilters request = some "" → AsksForService request none
  | unconstrained {text : String} : sentFilters request = some text →
    IsUnconstrained text → AsksForService request none

theorem HoldsLabels.unique {text : String} {filter other : Option Json}
    (holds : HoldsLabels text filter) (again : HoldsLabels text other) : filter = other := by
  obtain ⟨filters, first, rfl⟩ := holds
  obtain ⟨others, second, rfl⟩ := again
  cases first.written.symm.trans second.written
  rfl

/-- Where the labels name one service at most, that service is selected. -/
theorem HoldsLabels.selectsService {text label service : String} {filter : Option Json}
    {labels : List String} (holds : HoldsLabels text filter) (asked : Labels filter labels)
    (single : NameOneService labels) (listed : label ∈ labels)
    (names : NamesService label service) : SelectsService text service where
  asks := ⟨labels, filter, holds, asked⟩
  first := by
    rintro others ⟨_, again, alsoAsked⟩
    cases holds.unique again
    exact serviceNamed?_eq_some_iff.mp
      ((AskForService.named listed names).serviceNamed?_eq single (asked.mem_iff alsoAsked))

/-- Where no label names a service, none is selected. -/
theorem HoldsLabels.isUnconstrained {text : String} {filter : Option Json} {labels : List String}
    (holds : HoldsLabels text filter) (asked : Labels filter labels)
    (silent : ∀ label ∈ labels, ¬ IsServiceLabel label) : IsUnconstrained text where
  asks := ⟨labels, filter, holds, asked⟩
  silent := by
    rintro others ⟨_, again, alsoAsked⟩ label listed
    cases holds.unique again
    exact silent label ((asked.mem_iff alsoAsked label).mpr listed)

/-- What is read from filters is found among the labels that they ask for. -/
theorem AsksForLabels.wantedService?_eq {text : String} {labels : List String}
    (asks : AsksForLabels text labels) :
    ∃ labels, AsksForLabels text labels ∧ wantedService? text = some (serviceNamed? labels) := by
  obtain ⟨filter, holds, _⟩ := asks
  obtain ⟨values, asked, read⟩ := holds.wantedService?_eq
  exact ⟨values, ⟨filter, holds, asked⟩, read⟩

theorem SelectsService.wantedService?_eq {text service : String}
    (selects : SelectsService text service) : wantedService? text = some (some service) := by
  obtain ⟨_, asks⟩ := selects.asks
  obtain ⟨labels, asks, read⟩ := asks.wantedService?_eq
  rw [read, serviceNamed?_eq_some_iff.mpr (selects.first labels asks)]

theorem IsUnconstrained.wantedService?_eq {text : String} (free : IsUnconstrained text) :
    wantedService? text = some none := by
  obtain ⟨_, asks⟩ := free.asks
  obtain ⟨labels, asks, read⟩ := asks.wantedService?_eq
  rw [read, serviceNamed?_eq_none_iff.mpr (free.silent labels asks)]

/-! ### Answering -/

/-- The reply lists containers under these names, in this order. -/
structure Enumerates (reply : Http.Reply) (names : List String) : Prop where
  status : reply.status = 200
  body : reply.body =
    (Json.arr (names.map fun name => .obj [("Id", .str name), ("Names", .arr [.str name])])).render

/-- The captured containers of a service are listed, or all of them. -/
theorem enumerates_list {get : String → Option String} {record : Record}
    {service : Option String}
    (wanted : nonempty (get "filters") = none ∧ service = none ∨
      ∃ text, nonempty (get "filters") = some text ∧ wantedService? text = some service) :
    Enumerates (list get record).1 ((listed record service).map CreateRequest.name) := by
  have lists : (list get record).1 =
      .json 200 (.arr ((listed record service).map fun request => summary request.name)) := by
    unfold list
    rcases wanted with ⟨nothing, rfl⟩ | ⟨text, sent, read⟩
    · simp only [nothing]
    · simp only [sent, read]
  rw [lists]
  refine ⟨rfl, ?_⟩
  rw [List.map_map]
  rfl

theorem requests_list (get : String → Option String) (record : Record) :
    (list get record).2.requests = record.requests := by
  unfold list
  split
  · rfl
  · split <;> rfl

section Handling

variable {W : Type} (builder : Builder W) (skipBuilds : Bool) {request : Http.Request}
  (record : Record) (w : W)

theorem Route.ofPath?_list : ofPath? "/v1.18/containers/json" = some .list := by
  decide

/-- A list is asked for by its path, by whatever method and query: nothing that was
captured changes. -/
theorem requests_handle_list (path : request.path = "/v1.18/containers/json") :
    (handle builder skipBuilds request record w).1.2.requests = record.requests := by
  have routed : Route.ofPath? request.path = some .list := path ▸ Route.ofPath?_list
  by_cases allowed : Route.list.allows request.method
  · rw [handle_allowed builder skipBuilds record w routed allowed]
    simp only [answer, withQuery]
    split
    · rfl
    · exact requests_list _ record
  · simp only [handle, routed, allowed, Bool.false_eq_true, if_false]

theorem AsksForList.handle_eq (asks : AsksForList request) :
    (handle builder skipBuilds request record w).1 =
      list (fun key => Entries.find? key (Text.Percent.pairs request.query)) record := by
  obtain ⟨method, path, once⟩ := asks
  have routed : Route.ofPath? request.path = some .list := path ▸ Route.ofPath?_list
  have allowed : Route.list.allows request.method = true := by
    rw [method]
    rfl
  rw [handle_allowed builder skipBuilds record w routed allowed, answer,
    withQuery_of_namesOnce once, method]
  rfl

theorem AsksForList.enumerates (asks : AsksForList request) {service : Option String}
    (wanted : AsksForService request service) :
    Enumerates (handle builder skipBuilds request record w).1.1
      ((listed record service).map CreateRequest.name) := by
  rw [asks.handle_eq]
  apply enumerates_list
  have nothing : wantedService? "" = none := by decide
  cases wanted with
  | @selected text service sent selects =>
    refine .inr ⟨text, nonempty_eq_some.mpr ⟨sent, ?_⟩, selects.wantedService?_eq⟩
    rintro rfl
    cases nothing.symm.trans selects.wantedService?_eq
  | absent unsent => exact .inl ⟨congrArg nonempty unsent, rfl⟩
  | empty sent => exact .inl ⟨congrArg nonempty sent, rfl⟩
  | @unconstrained text sent free =>
    refine .inr ⟨text, nonempty_eq_some.mpr ⟨sent, ?_⟩, free.wantedService?_eq⟩
    rintro rfl
    cases nothing.symm.trans free.wantedService?_eq

end Handling

/-! ### Main result -/

/-- A list that asks for a service shows the captured containers of that service and
no others, in the order in which they were captured and under their full names. A
list that asks for none shows all. Nothing that was captured is changed by a list,
not even by one that is refused. -/
theorem handle_listsServices {W : Type} (builder : Builder W) (skipBuilds : Bool)
    (captured : List ComposedRequest) (record : Record) (w : W)
    (composed : record.requests = captured.map ComposedRequest.request) :
    (∀ request, AsksForList request →
      (∀ service, AsksForService request (some service) →
        Enumerates (handle builder skipBuilds request record w).1.1
          ((captured.filter (·.service = service)).map (·.text))) ∧
      (AsksForService request none →
        Enumerates (handle builder skipBuilds request record w).1.1 (captured.map (·.text)))) ∧
    ∀ request : Http.Request, request.path = "/v1.18/containers/json" →
      (handle builder skipBuilds request record w).1.2.requests = record.requests := by
  refine ⟨fun request asks => ⟨fun service wanted => ?_, fun wanted => ?_⟩, fun request path =>
    requests_handle_list builder skipBuilds record w path⟩
  · have shown := asks.enumerates builder skipBuilds record w wanted
    have same : (listed record (some service)).map CreateRequest.name =
        (captured.filter (·.service = service)).map (·.text) := by
      rw [listed, composed, List.filter_map, List.map_map]
      simp only [Function.comp_def, ComposedRequest.service_request]
      rfl
    rwa [same] at shown
  · have shown := asks.enumerates builder skipBuilds record w wanted
    have same : (listed record none).map CreateRequest.name = captured.map (·.text) := by
      rw [listed, composed, List.map_map]
      rfl
    rwa [same] at shown

/-! A shop with two containers of a service whose name holds an underscore. -/

def shopContainers : List ComposedRequest :=
  [⟨⟨0, "shop", "a_b", "1", by decide, by decide⟩, .empty⟩,
    ⟨⟨1, "shop", "b", "1", by decide, by decide⟩, .empty⟩,
    ⟨⟨2, "shop", "a_b", "2", by decide, by decide⟩, .empty⟩]

def shopRecord : Record :=
  { Record.empty with requests := shopContainers.map ComposedRequest.request }

/-- Every build succeeds. -/
def shopBuilder : Builder Unit :=
  fun _ _ => Act.settle (.ok ())

/-- The service's label is on in the one query and off in the other. -/
def shopFilters (on : Bool) : List (String × Json) :=
  [("label", switchForm [("com.docker.compose.service=a_b", on)])]

def shopListing : Http.Request :=
  .of "GET" ("/v1.18/containers/json?filters=" ++
    "%7B%22label%22:%7B%22com.docker.compose.service%3Da_b%22:true%7D%7D") (.bytes .empty)

def shopOverview : Http.Request :=
  .of "GET" ("/v1.18/containers/json?filters=" ++
    "%7B%22label%22:%7B%22com.docker.compose.service%3Da_b%22:false%7D%7D") (.bytes .empty)

theorem shop_holdsLabels (on : Bool) :
    HoldsLabels (Json.obj (shopFilters on)).render
      (some (switchForm [("com.docker.compose.service=a_b", on)])) :=
  ⟨_, holdsFilters_render (List.forall_mem_singleton.mpr (.switches _)), rfl⟩

theorem shopListing_asks : AsksForService shopListing (some "a_b") := by
  have sent : sentFilters shopListing = some (Json.obj (shopFilters true)).render := by
    decide +kernel
  have on : AreOn ["com.docker.compose.service=a_b"] [("com.docker.compose.service=a_b", true)] :=
    @AreOn.of_perm _ [] _ (by decide) (.refl _)
  have names : NamesService "com.docker.compose.service=a_b" "a_b" :=
    namesService_iff.mpr (by decide)
  exact .selected sent
    ((shop_holdsLabels true).selectsService (.switched on) (by decide) List.mem_cons_self names)

theorem shopOverview_asks : AsksForService shopOverview none := by
  have sent : sentFilters shopOverview = some (Json.obj (shopFilters false)).render := by
    decide +kernel
  have off : AreOn [] [("com.docker.compose.service=a_b", false)] :=
    @AreOn.of_perm [] ["com.docker.compose.service=a_b"] _ (by decide) (.refl _)
  exact .unconstrained sent
    ((shop_holdsLabels false).isUnconstrained (.switched off) (List.forall_mem_nil _))

theorem handle_listsServices_shop :
    shopRecord.requests = shopContainers.map ComposedRequest.request ∧
      AsksForList shopListing ∧ AsksForList shopOverview ∧
      Enumerates (handle shopBuilder false shopListing shopRecord ()).1.1
        ["shop_a_b_1", "//shop_a_b_2"] ∧
      Enumerates (handle shopBuilder false shopOverview shopRecord ()).1.1
        ["shop_a_b_1", "/shop_b_1", "//shop_a_b_2"] := by
  have listing : AsksForList shopListing := ⟨rfl, rfl, by decide +kernel⟩
  have overview : AsksForList shopOverview := ⟨rfl, rfl, by decide +kernel⟩
  have lists := handle_listsServices shopBuilder false shopContainers shopRecord () rfl
  have narrowed := (lists.1 shopListing listing).1 "a_b" shopListing_asks
  have complete := (lists.1 shopOverview overview).2 shopOverview_asks
  have names : (shopContainers.filter (·.service = "a_b")).map (·.text) =
      ["shop_a_b_1", "//shop_a_b_2"] := by
    decide
  have allNames : shopContainers.map (·.text) =
      ["shop_a_b_1", "/shop_b_1", "//shop_a_b_2"] := by
    decide
  rw [names] at narrowed
  rw [allNames] at complete
  exact ⟨rfl, listing, overview, narrowed, complete⟩

end ComposeDeploy.Capture
