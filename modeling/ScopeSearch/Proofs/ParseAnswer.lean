import ScopeSearch.Application
import ScopeSearch.Proofs.Configuration
import ScopeSearch.Proofs.DeclarationTexts

/-!
# Requests to interpret a term

A resource of a loaded configuration has a policy, so any term can be interpreted for it, and every
part of the description that a request is answered with has a form in a response.  The only part
that can be missing is the one that lists the declared scopes by group: whether it can be read, and
whether its texts can be made, was not looked at when the configuration was loaded.
-/

set_option autoImplicit false

namespace ScopeSearch

/-! ## Loaded resources -/

/-- Resources that are registered one after the other were there or are among the loaded ones. -/
theorem mem_registerLoaded {r : Registry} {entries : List Entry} {p : String × Entry}
    (h : p ∈ r.registerLoaded entries) : p ∈ r ∨ p.2 ∈ entries := by
  induction entries generalizing r with
  | nil => exact Or.inl h
  | cons e rest ih =>
    rcases ih (r := r.registerNew e) h with hnew | hrest
    · unfold Registry.registerNew at hnew
      split at hnew
      · exact Or.inl hnew
      · rcases KeyedList.mem_put hnew with rfl | hr
        · exact Or.inr List.mem_cons_self
        · exact Or.inl hr
    · exact Or.inr (List.mem_cons_of_mem e hrest)

/-- The resources of an application were described in its configuration. -/
theorem load_of_start {settings : Settings} {files : Files} {a : Application} {events : List Event}
    (h : Application.start settings files = .ok (a, events)) :
    ∃ entries, Configuration.load files settings.dashboardsPath = .ok entries ∧
      ∀ name e, a.registry.get name = .ok e → e ∈ entries := by
  obtain ⟨session, -, h⟩ := bind_eq_ok_iff.mp h
  obtain ⟨⟨registry, loaded⟩, hload, h⟩ := bind_eq_ok_iff.mp h
  cases h
  obtain ⟨entries, hentries, hregistry⟩ := bind_eq_ok_iff.mp (mapError_eq_ok_iff.mp hload)
  cases hregistry
  refine ⟨entries, hentries, ?_⟩
  intro name e hget
  unfold Registry.get at hget
  split at hget
  · next e' hfind =>
    cases hget
    have hmem := mem_registerLoaded (KeyedList.mem_of_find? hfind)
    simpa using hmem
  · cases hget

/-- An application starts on a configuration that loads, with the loaded resources. -/
theorem start_of_load {settings : Settings} {files : Files} {entries : List Entry}
    (hload : Configuration.load files settings.dashboardsPath = .ok entries) {session : Session}
    (hsession : ({ configuredLevel := settings.logLevel } : Session).start none = .ok session) :
    Application.start settings files =
      .ok ({ settings, registry := Registry.registerLoaded [] entries, session },
        [.registryLoaded settings.dashboardsPath entries.length]) := by
  simp only [Application.start, hsession, Registry.loadFrom, hload]
  rfl

/-! ## The fields of a description -/

namespace Value

/-- A value has a form within a number of levels of a response. -/
def HasForm (n : Nat) (v : Value) : Prop :=
  (v.response? n).isSome = true

/-- A list has a form one level above its elements. -/
theorem hasForm_list {n : Nat} {items : List Value} (h : ∀ v ∈ items, v.HasForm n) :
    (list items).HasForm (n + 1) := by
  have hitems : (responses? n items).isSome = true := by
    induction items with
    | nil => rfl
    | cons v rest ih =>
      rw [List.forall_mem_cons] at h
      obtain ⟨v', hv⟩ := Option.isSome_iff_exists.mp h.1
      obtain ⟨rest', hrest⟩ := Option.isSome_iff_exists.mp (ih h.2)
      simp [responses?, hv, hrest]
  simpa [HasForm, response?] using hitems

/-- A mapping with text keys has a form when all its values have. -/
theorem hasForm_object {n : Nat} {fields : List (String × Value)}
    (h : ∀ f ∈ fields, f.2.HasForm n) : (Response.object fields).HasForm (n + 1) := by
  have hfields : (responseEntries? n (fields.map fun f => (text f.1, f.2))).isSome = true := by
    induction fields with
    | nil => rfl
    | cons f rest ih =>
      rw [List.forall_mem_cons] at h
      obtain ⟨v, hv⟩ := Option.isSome_iff_exists.mp h.1
      obtain ⟨rest', hrest⟩ := Option.isSome_iff_exists.mp (ih h.2)
      simp [responseEntries?, responseKey?, hv, hrest]
  simpa [HasForm, Response.object, response?] using hfields

/-- A list of texts has a form. -/
theorem hasForm_texts (n : Nat) (ss : List String) : (texts ss).HasForm (n + 2) := by
  apply hasForm_list
  intro v hv
  obtain ⟨s, -, rfl⟩ := List.mem_map.mp hv
  rfl

/-- A text that may be missing has a form. -/
theorem hasForm_ofOption (n : Nat) (s : Option String) : (ofOption s).HasForm (n + 1) := by
  cases s <;> rfl

/-- A keyword filter has a form. -/
theorem hasForm_ofFilter (n : Nat) (f : KeywordFilter) : (ofFilter f).HasForm (n + 3) := by
  let fields := [("unfiltered", bool f.unfiltered), ("attributes", texts f.attributes),
    ("parameters", texts f.parameters)]
  have hfields : ∀ p ∈ fields, p.2.HasForm (n + 2) := by
    simp only [fields, List.forall_mem_cons, List.not_mem_nil, false_imp_iff, implies_true,
      and_true]
    exact ⟨rfl, hasForm_texts n f.attributes, hasForm_texts n f.parameters⟩
  exact hasForm_object hfields

/-- The groups of a dashboard have a form. -/
theorem hasForm_groupValue (n : Nat) (gs : KeyedList String (List String)) :
    (Application.groupValue gs).HasForm (n + 3) := by
  apply hasForm_object
  intro f hf
  obtain ⟨g, -, rfl⟩ := List.mem_map.mp hf
  exact hasForm_texts n g.2

end Value

/-- An answer whose fields all have a form is one. -/
theorem status_answer {fields : List (String × Value)} {total : Option Nat}
    (h : ∀ f ∈ fields, f.2.HasForm Value.levelLimit) :
    (Response.answer fields total).status = 200 := by
  have hfields : (fields.mapM fun f : String × Value =>
      (f.2.response? Value.levelLimit).map fun v => (f.1, v)).isSome = true := by
    induction fields with
    | nil => rfl
    | cons f rest ih =>
      rw [List.forall_mem_cons] at h
      obtain ⟨v, hv⟩ := Option.isSome_iff_exists.mp h.1
      obtain ⟨rest', hrest⟩ := Option.isSome_iff_exists.mp (ih h.2)
      simp [List.mapM_cons, hv, hrest]
  obtain ⟨formed, hformed⟩ := Option.isSome_iff_exists.mp hfields
  simp only [Response.answer, hformed]

/-- The description of a result has a form, whatever was typed. -/
theorem hasForm_description (r : SearchResult) :
    ∀ f ∈ Application.description r, f.2.HasForm Value.levelLimit := by
  have harguments : (Value.list (r.arguments.map Value.ofOption)).HasForm Value.levelLimit := by
    apply Value.hasForm_list
    intro v hv
    obtain ⟨argument, -, rfl⟩ := List.mem_map.mp hv
    exact Value.hasForm_ofOption 253 argument
  simp only [Application.description, List.forall_mem_cons, List.not_mem_nil, false_imp_iff,
    implies_true, and_true]
  exact ⟨Value.hasForm_texts 253 _, Value.hasForm_texts 253 _, harguments,
    Value.hasForm_texts 253 _⟩

/-- For a resource with a policy, any term is interpreted, and the request fails only if the
declared scopes cannot be listed by group. -/
theorem status_parse {a : Application} {name : String} {e : Entry} {policy : ScopePolicy}
    (hget : a.registry.get name = .ok e) (hpolicy : e.dashboard.scopePolicy = .ok policy)
    (request : Request) :
    ((∃ gs, e.dashboard.scopeGroups = .ok gs) → (a.parse name request).status = 200) ∧
      (¬ (∃ gs, e.dashboard.scopeGroups = .ok gs) → (a.parse name request).status = 500) := by
  obtain ⟨search, hsearch⟩ : ∃ search, a.search e request = .ok search := by
    rw [Application.search, Search.start, hpolicy]
    exact ⟨_, rfl⟩
  have hgroups : (∃ gs, e.dashboard.afterPolicy.scopeGroups = .ok gs) ↔
      ∃ gs, e.dashboard.scopeGroups = .ok gs := readGroups_afterPolicy_ok_iff ⟨policy, hpolicy⟩
  rw [← hgroups]
  unfold Application.parse
  rw [hget]
  simp only [hsearch]
  cases hread : e.dashboard.afterPolicy.scopeGroups with
  | error err => exact ⟨by simp, fun _ => rfl⟩
  | ok gs =>
    refine ⟨fun _ => status_answer ?_, by simp⟩
    rw [List.forall_mem_append]
    refine ⟨hasForm_description search.result, ?_⟩
    simp only [List.forall_mem_cons, List.not_mem_nil, false_imp_iff, implies_true, and_true]
    exact ⟨Value.hasForm_ofFilter 252 _, Value.hasForm_groupValue 252 gs⟩

/-- A request for a term to be interpreted is answered where its address leads. -/
theorem status_respond {a : Application} {db : Database} {request : Request} {name : String}
    (hmethod : request.method = "GET")
    (haddress : Destination.ofAddress request.address = .route (.parse name)) :
    (a.respond db request).status = (a.parse name request).status := by
  have hget : request.method.toUpper = "GET" := by
    rw [hmethod]
    decide +kernel
  have hhead : request.method.toUpper ≠ "HEAD" := by
    rw [hget]
    decide
  rw [Application.respond, if_neg hhead]
  unfold Application.respondWithin
  simp only [haddress, Application.respondTo, if_pos hget]
  rfl

/-- Every loaded resource has a policy, and its declared scopes can be listed by group exactly when
a group that is a mapping itself holds only nulls and collections, and no name of a group and no
element in such a group has an integer that is too long for a text.  On an application that has
started, a request to interpret a term for a resource is answered when its scopes can be listed by
group, whatever the term is, and fails when they cannot.  Every text of a loaded configuration can
be sent in an answer, for a file in which an escape names a surrogate is not loaded. -/
theorem parse_answers_iff_groups_are_readable {settings : Settings} {files : Files}
    {entries : List Entry}
    (hload : Configuration.load files settings.dashboardsPath = .ok entries) :
    (∀ e ∈ entries, (∃ policy, e.dashboard.scopePolicy = .ok policy) ∧
      ((∃ gs, e.dashboard.scopeGroups = .ok gs) ↔ e.dashboard.collectionScopes.HasReadableGroups ∧
        e.dashboard.collectionScopes.HasGroupTexts)) ∧
    ∀ a events, Application.start settings files = .ok (a, events) →
      ∀ (db : Database) (request : Request) (name : String), request.method = "GET" →
        Destination.ofAddress request.address = .route (.parse name) →
          ∀ e, a.registry.get name = .ok e →
            (e.dashboard.collectionScopes.HasReadableGroups ∧
              e.dashboard.collectionScopes.HasGroupTexts → (a.respond db request).status = 200) ∧
            (¬ (e.dashboard.collectionScopes.HasReadableGroups ∧
              e.dashboard.collectionScopes.HasGroupTexts) →
                (a.respond db request).status = 500) := by
  have hloaded : ∀ e ∈ entries, (∃ policy, e.dashboard.scopePolicy = .ok policy) ∧
      ((∃ gs, e.dashboard.scopeGroups = .ok gs) ↔ e.dashboard.collectionScopes.HasReadableGroups ∧
        e.dashboard.collectionScopes.HasGroupTexts) := by
    intro e he
    have hpolicy := scopePolicy_of_load hload he
    exact ⟨hpolicy, readGroups_ok_iff_of_policy hpolicy⟩
  refine ⟨hloaded, ?_⟩
  intro a events hstart db request name hmethod haddress e hget
  -- The resources of the application are among the loaded ones.
  obtain ⟨entries', hload', hmem⟩ := load_of_start hstart
  obtain rfl : entries = entries' := Except.ok.inj (hload.symm.trans hload')
  obtain ⟨⟨policy, hpolicy⟩, hgroups⟩ := hloaded e (hmem name e hget)
  rw [status_respond hmethod haddress, ← hgroups]
  exact status_parse hget hpolicy request

/-- A file with two resources, each with a group that is a mapping. -/
def nestedText : String :=
  "resources:\n orders:\n  collection_scopes:\n   state:\n    open: [fresh]\n" ++
    " customers:\n  collection_scopes:\n   status:\n    active: vip\n"

/-- The file alone. -/
def nestedFiles : Files :=
  { contents := [(Place.child (.start "") "dashboards.yaml", nestedText.toUTF8)] }

/-- The settings of an application that is described by the file. -/
def nestedSettings : Settings :=
  { dashboardsPath := "dashboards.yaml" }

/-- A request for a term to be interpreted for a resource. -/
def parseRequest (resource : String) : Request :=
  { address := { path := ("/search/" ++ resource ++ "/parse").toList, query := "q=Ann".toList } }

/-- The file loads; inside the group of the first resource stands a collection, and inside that of
the second a text. -/
theorem load_nestedFiles :
    ∃ orders customers, Configuration.load nestedFiles "dashboards.yaml" = .ok [orders, customers] ∧
      orders.dashboard.name = "orders" ∧ customers.dashboard.name = "customers" ∧
      orders.dashboard.collectionScopes.HasReadableGroups ∧
      orders.dashboard.collectionScopes.HasGroupTexts ∧
      ¬ customers.dashboard.collectionScopes.HasReadableGroups := by
  have hread : nestedFiles.read? "dashboards.yaml" = .ok (some nestedText) :=
    read?_alone (by decide +kernel) (by decide +kernel)
  have hentries : (Configuration.ofText "dashboards.yaml" (some nestedText)).toOption.map
      (List.map fun e =>
        (e.dashboard.name, decide e.dashboard.collectionScopes.HasReadableGroups,
          decide e.dashboard.collectionScopes.HasGroupTexts)) =
      some [("orders", true, true), ("customers", false, true)] := by
    decide +kernel
  rw [load_of_read hread]
  cases hload : Configuration.ofText "dashboards.yaml" (some nestedText) with
  | error e => simp [hload, Except.toOption] at hentries
  | ok entries =>
    simp only [hload, Except.toOption, Option.map_some, Option.some.injEq, List.map_eq_cons_iff,
      List.map_eq_nil_iff, Prod.mk.injEq, decide_eq_true_eq, decide_eq_false_iff_not] at hentries
    obtain ⟨orders, _, rfl, ⟨horders, hreadable, htexts⟩, customers, _, rfl,
      ⟨hcustomers, hunreadable, -⟩, rfl⟩ := hentries
    exact ⟨orders, customers, rfl, horders, hcustomers, hreadable, htexts, hunreadable⟩

/-- An application starts on the file and knows both resources. -/
theorem start_nestedFiles :
    ∃ a events orders customers,
      Application.start nestedSettings nestedFiles = .ok (a, events) ∧
      Configuration.load nestedFiles "dashboards.yaml" = .ok [orders, customers] ∧
      a.registry.get "orders" = .ok orders ∧ a.registry.get "customers" = .ok customers ∧
      orders.dashboard.collectionScopes.HasReadableGroups ∧
      orders.dashboard.collectionScopes.HasGroupTexts ∧
      ¬ customers.dashboard.collectionScopes.HasReadableGroups := by
  obtain ⟨orders, customers, hload, horders, hcustomers, hreadable, htexts, hunreadable⟩ :=
    load_nestedFiles
  have hlevel : (({ configuredLevel := nestedSettings.logLevel } : Session).start
      none).toOption.isSome = true := by
    decide +kernel
  obtain ⟨session, hsession⟩ := exists_eq_ok_of_isSome hlevel
  refine ⟨_, _, orders, customers, start_of_load hload hsession, hload, ?_, ?_, hreadable, htexts,
    hunreadable⟩
  · simp [Registry.registerLoaded, Registry.registerNew, Registry.register, Registry.get,
      KeyedList.has, KeyedList.find?, KeyedList.put, horders, hcustomers]
  · simp [Registry.registerLoaded, Registry.registerNew, Registry.register, Registry.get,
      KeyedList.has, KeyedList.find?, KeyedList.put, horders, hcustomers]

/-- Both requests are made of the same application; the one for the resource whose nested group
holds a text fails. -/
theorem orders_answer_and_customers_fail :
    ∃ a events, Application.start nestedSettings nestedFiles = .ok (a, events) ∧
      (∃ orders, a.registry.get "orders" = .ok orders ∧
        orders.dashboard.collectionScopes.HasReadableGroups ∧
        orders.dashboard.collectionScopes.HasGroupTexts ∧
        (a.respond {} (parseRequest "orders")).status = 200) ∧
      ∃ customers, a.registry.get "customers" = .ok customers ∧
        ¬ customers.dashboard.collectionScopes.HasReadableGroups ∧
        (a.respond {} (parseRequest "customers")).status = 500 := by
  obtain ⟨a, events, orders, customers, hstart, hload, horders, hcustomers, hreadable, htexts,
    hunreadable⟩ := start_nestedFiles
  have hpath : Configuration.load nestedFiles nestedSettings.dashboardsPath =
      .ok [orders, customers] := hload
  have hlaw := (parse_answers_iff_groups_are_readable hpath).2 a events hstart {}
  refine ⟨a, events, hstart, ⟨orders, horders, hreadable, htexts, ?_⟩, customers, hcustomers,
    hunreadable, ?_⟩
  · exact (hlaw (parseRequest "orders") "orders" rfl rfl orders horders).1 ⟨hreadable, htexts⟩
  · exact (hlaw (parseRequest "customers") "customers" rfl rfl customers hcustomers).2
      fun h => hunreadable h.1

/-- A resource of a configuration that loads has a policy, but its groups cannot be read, and a
request for a term to be interpreted for it fails. -/
theorem accepted_configuration_fails_at_request :
    ∃ entries customers, Configuration.load nestedFiles "dashboards.yaml" = .ok entries ∧
      customers ∈ entries ∧ (∃ policy, customers.dashboard.scopePolicy = .ok policy) ∧
      (¬ ∃ gs, customers.dashboard.scopeGroups = .ok gs) ∧
      ∃ a events, Application.start nestedSettings nestedFiles = .ok (a, events) ∧
        a.registry.get "customers" = .ok customers ∧
        (a.respond {} (parseRequest "customers")).status = 500 := by
  obtain ⟨a, events, orders, customers, hstart, hload, -, hcustomers, -, -, hunreadable⟩ :=
    start_nestedFiles
  obtain ⟨policy, hpolicy⟩ := scopePolicy_of_load hload (e := customers) (by simp)
  have hgroups : ¬ ∃ gs, customers.dashboard.scopeGroups = .ok gs := fun h =>
    hunreadable ((readGroups_ok_iff_of_policy ⟨policy, hpolicy⟩).mp h).1
  refine ⟨_, customers, hload, by simp, ⟨policy, hpolicy⟩, hgroups, a, events, hstart, hcustomers,
    ?_⟩
  have haddress : Destination.ofAddress (parseRequest "customers").address =
      .route (.parse "customers") := rfl
  rw [status_respond rfl haddress]
  exact (status_parse hcustomers hpolicy _).2 hgroups

end ScopeSearch
