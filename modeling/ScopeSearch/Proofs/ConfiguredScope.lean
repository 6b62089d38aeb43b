import ScopeSearch.Proofs.BindName
import ScopeSearch.Proofs.Classification
import ScopeSearch.Proofs.Configuration
import ScopeSearch.Proofs.Reference
import ScopeSearch.Search

/-!
# Configured scopes are applied as they are written

A scope of a loaded resource is the condition that the description of the resource gives under its
name, the last one if several keys are written alike.  It takes an argument exactly if it refers to
one.  So an invocation is refused exactly if it has an argument that the condition does not refer
to, or lacks one that it does; otherwise it contributes the condition, in which the argument has
been moved into the namespace of the invocation.

The directives of a search have passed the question whether the resource has their scopes, which it
answers by the same conditions.  What holds of one invocation is carried along the list of all of
them: the first one that is refused ends the run, and otherwise the numbers count the directives.
-/

set_option autoImplicit false

namespace ScopeSearch

/-! ## The conditions of a description -/

/-- The condition that a description gives under a name, the last one if several keys are written
alike. -/
def configuredCondition? (described : Value) (name : String) : Option String :=
  let declared := (Value.field "scopes" (described.map?.getD [])).map?.getD []
  (declared.reverse.find? fun p => p.1.written == name).bind fun p => p.2.text?

/-- The scopes of a description are those of its conditions, all of which are texts. -/
theorem conditionScopes_eq {entries : List (Value × Value)} {scopes : List (String × Scope)}
    (h : Configuration.conditionScopes entries = .ok scopes) :
    (∀ p ∈ entries, ∃ sql, p.2.text? = some sql) ∧
      scopes = entries.map fun p =>
        (p.1.written, (ScopeTemplate.ofCondition (p.2.text?.getD "")).toScope) := by
  induction entries generalizing scopes with
  | nil =>
    cases h
    exact ⟨by simp, rfl⟩
  | cons entry rest ih =>
    obtain ⟨key, condition⟩ := entry
    obtain ⟨sql, others, hsql, hothers, rfl⟩ := conditionScopes_cons h
    obtain ⟨htexts, hscopes⟩ := ih hothers
    have htext : condition.text? = some sql := (Option.filter_eq_some_iff.mp hsql).1
    refine ⟨List.forall_mem_cons.mpr ⟨⟨sql, htext⟩, htexts⟩, ?_⟩
    rw [List.map_cons, ← hscopes, htext, Option.getD_some]

/-- The scope under a name is that of the last condition whose key is written like the name. -/
theorem scopes_find? {declared : Value} {scopes : Scopes}
    (h : Configuration.scopes declared = .ok scopes) (name : String) :
    scopes.find? name =
      (((declared.map?.getD []).reverse.find? fun p => p.1.written == name).bind
        fun p => p.2.text?).map fun sql => (ScopeTemplate.ofCondition sql).toScope := by
  unfold Configuration.scopes at h
  split at h
  · cases h
    rfl
  · next entries _ hentries =>
    obtain ⟨pairs, hpairs, rfl⟩ := map_eq_ok_iff.mp h
    obtain ⟨htexts, rfl⟩ := conditionScopes_eq hpairs
    have hfind : ((entries.map fun p =>
        (p.1.written, (ScopeTemplate.ofCondition (p.2.text?.getD "")).toScope)).reverse.find?
          fun p => p.1 == name) = (entries.reverse.find? fun p => p.1.written == name).map fun p =>
            (p.1.written, (ScopeTemplate.ofCondition (p.2.text?.getD "")).toScope) := by
      rw [← List.map_reverse, List.find?_map]
      rfl
    rw [hentries, Option.getD_some, KeyedList.find?_ofPairs, hfind]
    cases hlast : entries.reverse.find? fun p => p.1.written == name with
    | none => rfl
    | some p =>
      obtain ⟨sql, hsql⟩ := htexts p (List.mem_reverse.mp (List.mem_of_find?_eq_some hlast))
      simp [hsql]
  · cases h

/-- A described resource has exactly the scopes of its conditions. -/
theorem definition_find? {name : String} {described : Value} {e : Entry}
    (h : Configuration.definition name described = .ok e) (scope : String) :
    e.resource.scopes.find? scope = (configuredCondition? described scope).map
      fun sql => (ScopeTemplate.ofCondition sql).toScope := by
  unfold Configuration.definition at h
  split at h
  · next fields hfields =>
    obtain ⟨d, -, h⟩ := bind_eq_ok_iff.mp h
    obtain ⟨scopes, hscopes, h⟩ := bind_eq_ok_iff.mp h
    cases h
    rw [configuredCondition?, hfields]
    exact scopes_find? hscopes scope
  · cases h

/-! ## One invocation -/

/-- The name that a condition refers to its argument by is one that a placeholder can have. -/
theorem isName_argumentName : IsName argumentName.toList := by
  refine ⟨by decide, ?_⟩
  have hword : argumentName.toList.all Text.isWord = true := by decide +kernel
  exact List.all_eq_true.mp hword

/-- An invocation has an argument that the condition does not refer to, or has none although it
does. -/
def Mismatches (sql : String) (argument : Option String) : Prop :=
  ¬ (argument.isSome = true ↔ RefersTo argumentName sql)

/-- What the invocation with a number contributes for a condition: the condition as it is, without
an argument, or the condition in which every reference to the argument has the name of the
invocation, which the argument is bound under. -/
inductive Contributes (index : Nat) (sql : String) : Option String → Condition → Prop
  | unchanged (h : ¬ RefersTo argumentName sql) : Contributes index sql none { sql }
  | moved (argument : String) (h : RefersTo argumentName sql)
    (hgone : ¬ RefersTo argumentName
      (withReferenceRenamed argumentName (invocationSpace index ++ argumentName) sql))
    (hthere : RefersTo (invocationSpace index ++ argumentName)
      (withReferenceRenamed argumentName (invocationSpace index ++ argumentName) sql)) :
    Contributes index sql (some argument)
      { sql := withReferenceRenamed argumentName (invocationSpace index ++ argumentName) sql
        binds := [(invocationSpace index ++ argumentName, .text argument)] }

/-- The scope of a condition takes an argument exactly if the condition refers to it. -/
theorem ofCondition_toScope (sql : String) (argument : Option String) :
    (Mismatches sql argument →
      (ScopeTemplate.ofCondition sql).toScope argument = .error .inapplicable) ∧
    (¬ Mismatches sql argument → (ScopeTemplate.ofCondition sql).toScope argument =
      .ok { sql, binds := argument.toList.map fun a => (argumentName, .text a) }) := by
  have hrefers := hasPlaceholder_iff_refersTo isName_argumentName sql
  unfold Mismatches ScopeTemplate.ofCondition
  by_cases h : RefersTo argumentName sql
  · rw [if_pos (hrefers.mpr h)]
    cases argument <;> simp [h, ScopeTemplate.toScope, ScopeTemplate.accepts,
      ScopeTemplate.bindsWith, KeyedList.put]
  · rw [if_neg (fun hfound => h (hrefers.mp hfound))]
    cases argument <;> simp [h, ScopeTemplate.toScope, ScopeTemplate.accepts,
      ScopeTemplate.bindsWith]

section Invocation

variable {r : Resource} {name sql : String}
  (hscope : r.scopes.find? name = some (ScopeTemplate.ofCondition sql).toScope)

include hscope

/-- An invocation with an argument that the condition does not refer to, or without the one that it
refers to, is refused. -/
theorem scopeCondition_of_mismatches (index : Nat) {argument : Option String}
    (h : Mismatches sql argument) :
    r.scopeCondition index name argument = .error (.inapplicableScope name) := by
  rw [Resource.scopeCondition, hscope]
  simp only [(ofCondition_toScope sql argument).1 h]

/-- An invocation with the argument that the condition refers to, or without one where it refers to
none, contributes to the whole condition. -/
theorem scopeCondition_of_not_mismatches (index : Nat) {argument : Option String}
    (h : ¬ Mismatches sql argument) :
    ∃ c, r.scopeCondition index name argument = .ok c ∧ Contributes index sql argument c := by
  have hrefers : argument.isSome = true ↔ RefersTo argumentName sql := not_not.mp h
  rw [Resource.scopeCondition, hscope]
  simp only [(ofCondition_toScope sql argument).2 h]
  cases argument with
  | none =>
    refine ⟨{ sql }, rfl, .unchanged fun hsql => ?_⟩
    simpa using hrefers.mpr hsql
  | some a =>
    have hsql : RefersTo argumentName sql := hrefers.mp rfl
    have hnew : IsName (invocationSpace index ++ argumentName).toList := by
      rw [String.toList_append]
      exact isName_argumentName.append fun _ => isWord_of_mem_invocationSpace
    have hne : invocationSpace index ++ argumentName ≠ argumentName := by
      intro heq
      have htext := congrArg String.toList heq
      rw [String.toList_append, List.append_left_eq_self, toList_invocationSpace] at htext
      cases htext
    obtain ⟨hrenamed, hgone, hthere⟩ := renamePlaceholder_eq isName_argumentName hnew hne sql
    refine ⟨_, ?_, .moved a hsql hgone (hthere hsql)⟩
    simp [rebind, rebindInto, hrenamed, KeyedList.put, bind, Except.bind]

end Invocation

/-! ## All invocations -/

/-- An invocation has an argument that its configured condition does not refer to, or has none
although it does. -/
def IsMismatched (described : Value) (invocation : String × Option String) : Prop :=
  ∃ sql, configuredCondition? described invocation.1 = some sql ∧ Mismatches sql invocation.2

/-- Conditions are what invocations with the numbers from an index on contribute, each for its own
configured condition. -/
def ContributeInOrder (described : Value) (index : Nat)
    (invocations : List (String × Option String)) (conditions : List Condition) : Prop :=
  conditions.length = invocations.length ∧
    ∀ i invocation, invocations[i]? = some invocation → ∃ sql c,
      configuredCondition? described invocation.1 = some sql ∧ conditions[i]? = some c ∧
        Contributes (index + i) sql invocation.2 c

section Invocations

variable {described : Value} {r : Resource}
  (hscopes : ∀ name, r.scopes.find? name = (configuredCondition? described name).map
    fun sql => (ScopeTemplate.ofCondition sql).toScope)

include hscopes

/-- The first mismatched invocation ends the run; if there is none, all invocations contribute. -/
theorem scopeConditions_configured (index : Nat) {invocations : List (String × Option String)}
    (hconfigured : ∀ i ∈ invocations, ∃ sql, configuredCondition? described i.1 = some sql) :
    (∃ i ∈ invocations, IsMismatched described i ∧
      r.scopeConditions index invocations = .error (.inapplicableScope i.1)) ∨
    (∀ i ∈ invocations, ¬ IsMismatched described i) ∧ ∃ conditions,
      r.scopeConditions index invocations = .ok conditions ∧
        ContributeInOrder described index invocations conditions := by
  induction invocations generalizing index with
  | nil => exact .inr ⟨by simp, [], rfl, rfl, by simp⟩
  | cons first rest ih =>
    obtain ⟨name, argument⟩ := first
    obtain ⟨⟨sql, hsql⟩, hrest⟩ := List.forall_mem_cons.mp hconfigured
    have hscope : r.scopes.find? name = some (ScopeTemplate.ofCondition sql).toScope := by
      rw [hscopes, hsql]
      rfl
    have hmismatched : IsMismatched described (name, argument) ↔ Mismatches sql argument := by
      simp [IsMismatched, hsql]
    by_cases hfirst : Mismatches sql argument
    · refine .inl ⟨(name, argument), List.mem_cons_self, hmismatched.mpr hfirst, ?_⟩
      rw [Resource.scopeConditions, scopeCondition_of_mismatches hscope index hfirst]
      rfl
    · obtain ⟨c, hc, hcontributes⟩ := scopeCondition_of_not_mismatches hscope index hfirst
      obtain ⟨i, hi, hi', herror⟩ | ⟨hnone, conditions, hok, hlength, hothers⟩ :=
        ih (index + 1) hrest
      · refine .inl ⟨i, List.mem_cons_of_mem _ hi, hi', ?_⟩
        rw [Resource.scopeConditions, hc, herror]
        rfl
      · refine .inr ⟨List.forall_mem_cons.mpr ⟨fun h => hfirst (hmismatched.mp h), hnone⟩,
          c :: conditions, ?_, by simp [hlength], ?_⟩
        · rw [Resource.scopeConditions, hc, hok]
          rfl
        · intro i invocation hinvocation
          cases i with
          | zero =>
            obtain rfl : (name, argument) = invocation := by simpa using hinvocation
            exact ⟨sql, c, hsql, rfl, hcontributes⟩
          | succ i =>
            obtain ⟨sql', c', hsql', hc', hcontributes'⟩ := hothers i invocation hinvocation
            rw [Nat.add_right_comm] at hcontributes'
            exact ⟨sql', c', hsql', hc', hcontributes'⟩

end Invocations

/-! ## Bound arguments -/

/-- A name that no condition binds keeps its value when the binds of all are put together. -/
theorem find?_foldl_putAll_of_not_mem {k : String} {conditions : List Condition}
    (h : ∀ c ∈ conditions, k ∉ KeyedList.keys c.binds) (done : Binds) :
    (conditions.foldl (fun binds c => binds.putAll c.binds) done).find? k = done.find? k := by
  induction conditions generalizing done with
  | nil => rfl
  | cons c rest ih =>
    obtain ⟨hc, hrest⟩ := List.forall_mem_cons.mp h
    have hnone : (c.binds.reverse.find? fun p => p.1 == k) = none := by
      rw [List.find?_eq_none]
      rintro p hp hk
      exact hc (List.mem_map.mpr ⟨p, List.mem_reverse.mp hp, by simpa using hk⟩)
    rw [List.foldl_cons, ih hrest, KeyedList.find?_putAll, hnone]
    rfl

/-- An invocation binds at most its argument, under the name of its namespace. -/
theorem Contributes.keys_subset {index : Nat} {sql : String} {argument : Option String}
    {c : Condition} (h : Contributes index sql argument c) {name : String}
    (hname : name ∈ KeyedList.keys c.binds) : name = invocationSpace index ++ argumentName := by
  cases h with
  | unchanged => simp at hname
  | moved => simpa using hname

/-- In the joined condition an argument is found under the name of its invocation. -/
theorem find?_joinConditions {described : Value} {invocations : List (String × Option String)}
    {conditions : List Condition} (h : ContributeInOrder described 0 invocations conditions)
    (keyword : List Condition) {i : Nat} {name argument : String}
    (hi : invocations[i]? = some (name, some argument)) :
    (joinConditions (keyword ++ conditions)).binds.find? (invocationSpace i ++ argumentName) =
      some (.text argument) := by
  obtain ⟨hlength, hall⟩ := h
  obtain ⟨sql, c, -, hc, hcontributes⟩ := hall i _ hi
  rw [Nat.zero_add] at hcontributes
  obtain ⟨hlt, hget⟩ := List.getElem?_eq_some_iff.mp hc
  have hcut : conditions = conditions.take i ++ c :: conditions.drop (i + 1) := by
    rw [← hget, List.getElem_cons_drop, List.take_append_drop]
  have hlater : ∀ c' ∈ conditions.drop (i + 1),
      invocationSpace i ++ argumentName ∉ KeyedList.keys c'.binds := by
    intro c' hc' hname
    obtain ⟨j, hj⟩ := List.mem_iff_getElem?.mp hc'
    rw [List.getElem?_drop] at hj
    obtain ⟨hjlt, -⟩ := List.getElem?_eq_some_iff.mp hj
    obtain ⟨sql', c'', -, hc'', hcontributes'⟩ :=
      hall (i + 1 + j) _ (List.getElem?_eq_getElem (hlength ▸ hjlt))
    obtain rfl : c' = c'' := Option.some.inj (hj.symm.trans hc'')
    have hindex := (invocationSpace_append_inj (hcontributes'.keys_subset hname)).1
    omega
  cases hcontributes with
  | moved argument hrefers hgone hthere =>
    rw [joinConditions, hcut, ← List.append_assoc, List.foldl_append, List.foldl_cons,
      find?_foldl_putAll_of_not_mem hlater, KeyedList.find?_putAll]
    simp

/-! ## The law -/

/-- A resource applies the conditions of a description to a result in a dialect as they are
written. -/
structure AppliesAsWritten (described : Value) (r : Resource) (result : SearchResult)
    (dialect : Dialect) : Prop where
  /-- Every directive has a configured condition. -/
  configured : ∀ d ∈ result.directives, ∃ sql, configuredCondition? described d.name = some sql
  /-- A directive with an argument too many or too few, and nothing else, is refused. -/
  refused_iff : (∃ err, r.whereClause result dialect = .error err) ↔
    ∃ d ∈ result.directives, IsMismatched described (d.name, d.argument)
  refusal : ∀ err, r.whereClause result dialect = .error err →
    ∃ d ∈ result.directives, IsMismatched described (d.name, d.argument) ∧
      err = .inapplicableScope d.name
  /-- Each directive contributes its condition under its number. -/
  applied : ∀ whole, r.whereClause result dialect = .ok whole → ∃ conditions,
    whole = joinConditions (keywordCondition r.table dialect result.filter ++ conditions) ∧
      ContributeInOrder described 0 result.scopeInvocations conditions
  bound : ∀ whole, r.whereClause result dialect = .ok whole → ∀ i name argument,
    result.scopeInvocations[i]? = some (name, some argument) →
      whole.binds.find? (invocationSpace i ++ argumentName) = some (.text argument)

/-- A resource whose scopes are those of a description applies the conditions as they are written.
-/
theorem appliesAsWritten_of_find? {described : Value} {r : Resource}
    (hscopes : ∀ name, r.scopes.find? name = (configuredCondition? described name).map
      fun sql => (ScopeTemplate.ofCondition sql).toScope)
    {result : SearchResult} (hresponds : ∀ d ∈ result.directives, r.respondsTo d.name = true)
    (dialect : Dialect) : AppliesAsWritten described r result dialect := by
  have hconfigured : ∀ d ∈ result.directives,
      ∃ sql, configuredCondition? described d.name = some sql := by
    intro d hd
    have hhas := hresponds d hd
    rw [Resource.respondsTo, KeyedList.has, hscopes, Option.isSome_map] at hhas
    exact Option.isSome_iff_exists.mp hhas
  have hinvocations : ∀ i ∈ result.scopeInvocations,
      ∃ sql, configuredCondition? described i.1 = some sql := by
    intro i hi
    obtain ⟨d, hd, rfl⟩ := List.mem_map.mp hi
    exact hconfigured d hd
  obtain ⟨i, hi, hmismatched, herror⟩ | ⟨hnone, conditions, hok, horder⟩ :=
    scopeConditions_configured hscopes 0 hinvocations
  · obtain ⟨d, hd, rfl⟩ := List.mem_map.mp hi
    have hwhere : r.whereClause result dialect = .error (.inapplicableScope d.name) := by
      rw [Resource.whereClause, herror]
      rfl
    have hnever (whole : Condition) : r.whereClause result dialect ≠ .ok whole := by
      rw [hwhere]
      simp
    constructor
    case configured => exact hconfigured
    case refused_iff => exact ⟨fun _ => ⟨d, hd, hmismatched⟩, fun _ => ⟨_, hwhere⟩⟩
    case refusal =>
      intro err herr
      obtain rfl := Except.error.inj (hwhere.symm.trans herr)
      exact ⟨d, hd, hmismatched, rfl⟩
    case applied => exact fun whole hwhole => absurd hwhole (hnever whole)
    case bound => exact fun whole hwhole => absurd hwhole (hnever whole)
  · have hwhere : r.whereClause result dialect =
        .ok (joinConditions (keywordCondition r.table dialect result.filter ++ conditions)) := by
      rw [Resource.whereClause, hok]
      rfl
    have hmatched : ¬ ∃ d ∈ result.directives, IsMismatched described (d.name, d.argument) := by
      rintro ⟨d, hd, hmismatched⟩
      exact hnone _ (List.mem_map.mpr ⟨d, hd, rfl⟩) hmismatched
    have hnever (err : RunError) : r.whereClause result dialect ≠ .error err := by
      rw [hwhere]
      simp
    constructor
    case configured => exact hconfigured
    case refused_iff =>
      constructor
      · rintro ⟨err, herr⟩
        exact absurd herr (hnever err)
      · exact fun h => absurd h hmatched
    case refusal => exact fun err herr => absurd herr (hnever err)
    case applied =>
      intro whole hwhole
      obtain rfl := Except.ok.inj (hwhere.symm.trans hwhole)
      exact ⟨conditions, rfl, horder⟩
    case bound =>
      intro whole hwhole i name argument hi
      obtain rfl := Except.ok.inj (hwhere.symm.trans hwhole)
      exact find?_joinConditions horder _ hi

/-- Every resource that a file gives was described in it, every term can be interpreted for it, and
it applies the conditions of the description to the result as they are written. -/
theorem configured_scopes_apply_as_written {files : Files} {path : String} {entries : List Entry}
    (h : Configuration.load files path = .ok entries) {e : Entry} (he : e ∈ entries) :
    ∃ described, Describes files path e.dashboard.name described ∧
      Configuration.definition e.dashboard.name described = .ok e ∧
      ∀ (term : Option String) (bound : Option Int), ∃ search,
        Search.start e.resource.respondsTo e.dashboard term bound = .ok search ∧
          ∀ dialect, AppliesAsWritten described e.resource search.result dialect := by
  obtain ⟨name, described, hdescribes, hdefinition⟩ := load_mem h he
  obtain ⟨rfl, policy, hpolicy⟩ := definition_dashboard hdefinition
  refine ⟨described, hdescribes, hdefinition, fun term bound => ?_⟩
  refine ⟨.ofPolicy policy e.resource.respondsTo e.dashboard term bound, ?_, fun dialect => ?_⟩
  · rw [Search.start, hpolicy]
    rfl
  · refine appliesAsWritten_of_find? (definition_find? hdefinition) ?_ dialect
    intro d hd
    obtain ⟨token, -, htoken⟩ := exists_token_of_mem_directives hd
    exact (ofToken_eq_accepted_iff.mp htoken).2.1

/-- A file with two conditions under keys that are written alike. -/
def alikeText : String :=
  "resources:\n customers:\n  scopes:\n   1: 'kind = :value'\n   '1': 'note = ::value OR id = :value'\n"

/-- The file alone. -/
def alikeFiles : Files :=
  { contents := [(Place.child (.start "") "customers.yaml", alikeText.toUTF8)] }

/-- The second condition is the one that the loaded resource applies. -/
theorem later_condition_applies_as_written :
    ∃ e described, Configuration.load alikeFiles "customers.yaml" = .ok [e] ∧
      configuredCondition? described "1" = some "note = ::value OR id = :value" ∧
      ∀ (term : Option String) (bound : Option Int), ∃ search,
        Search.start e.resource.respondsTo e.dashboard term bound = .ok search ∧
          ∀ dialect, AppliesAsWritten described e.resource search.result dialect := by
  have hread : alikeFiles.read? "customers.yaml" = .ok (some alikeText) :=
    read?_alone (by decide +kernel) (by decide +kernel)
  have hlength : (Configuration.ofText "customers.yaml" (some alikeText)).toOption.map
      List.length = some 1 := by
    decide +kernel
  have hconditions : (Yaml.valueOfText alikeText).toOption.map (fun v =>
      (resourceDescriptions v).map fun p => configuredCondition? p.2 "1") =
      some [some "note = ::value OR id = :value"] := by
    decide +kernel
  obtain ⟨e, hload⟩ := exists_load_eq_singleton hread hlength
  obtain ⟨described, ⟨text, v, htext, hvalue, p, hp, -, rfl⟩, -, happlies⟩ :=
    configured_scopes_apply_as_written hload (e := e) List.mem_cons_self
  refine ⟨e, p.2, hload, ?_, happlies⟩
  rw [hread] at htext
  cases htext
  rw [hvalue, Except.toOption, Option.map_some, Option.some.injEq] at hconditions
  have hall := List.mem_map_of_mem (f := fun p => configuredCondition? p.2 "1") hp
  rw [hconditions] at hall
  exact List.mem_singleton.mp hall

end ScopeSearch
