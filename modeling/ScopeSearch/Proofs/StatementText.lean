import ScopeSearch.Proofs.Configuration
import ScopeSearch.Proofs.Interpretation

/-!
# Statements do not carry what was typed

Two searches of one resource that differ in their keywords, in the arguments of their scopes, and
in their pages send the same text of SQL.  The argument follows a condition from where it is made to
where it is sent and looks at its shape, which is its text and the names of its binds:

* **scopes**: a scope that does not look at its argument gives conditions of one shape, and so does
  every scope of a loaded configuration, since its text is fixed and its only bind has a fixed name;
* **renaming**: binds are renamed by their names, so the shape before decides the shape after;
* **keywords**: the text of the keyword filter is made of the table, the attributes and the
  positions of the patterns, never of the patterns;
* **joining**: texts are joined with texts and names with names.
-/

set_option autoImplicit false

namespace ScopeSearch

/-- The text of a condition and the names of its binds: all of it but the values. -/
def Condition.shape (c : Condition) : String × List String :=
  (c.sql, c.binds.keys)

/-- A scope that shows nothing of its argument but whether there is one: it fails for all arguments
or gives conditions of one shape. -/
def IsArgumentBlind (scope : Scope) : Prop :=
  ∀ a b : Option String, a.isNone = b.isNone →
    (scope a).toOption.map Condition.shape = (scope b).toOption.map Condition.shape

/-- All scopes of a resource are blind to their arguments. -/
def Resource.IsArgumentBlind (r : Resource) : Prop :=
  ∀ p ∈ r.scopes, ScopeSearch.IsArgumentBlind p.2

/-- The names of the invoked scopes, each with whether it was given an argument. -/
def SearchResult.invocationShapes (result : SearchResult) : List (String × Bool) :=
  result.scopeInvocations.map fun i => (i.1, i.2.isNone)

/-! ## Conditions of scopes -/

/-- Renaming looks at names: binds with the same names in the same order give the same text and the
same new names. -/
theorem rebindInto_shape (space sql : String) {done done' : Binds}
    {binds binds' : List (String × Value)} (hdone : done.keys = done'.keys)
    (hbinds : KeyedList.keys binds = KeyedList.keys binds') :
    (rebindInto space sql done binds).toOption.map (fun p => (p.1, p.2.keys)) =
      (rebindInto space sql done' binds').toOption.map (fun p => (p.1, p.2.keys)) := by
  induction binds generalizing sql done done' binds' with
  | nil =>
    cases binds' with
    | nil => simp [rebindInto, Except.toOption, hdone]
    | cons p' rest' => simp at hbinds
  | cons p rest ih =>
    cases binds' with
    | nil => simp at hbinds
    | cons p' rest' =>
      obtain ⟨name, v⟩ := p
      obtain ⟨name', v'⟩ := p'
      rw [KeyedList.keys_cons, KeyedList.keys_cons, List.cons.injEq] at hbinds
      obtain ⟨hname, hrest⟩ := hbinds
      dsimp only at hname
      subst hname
      rw [rebindInto, rebindInto]
      apply map_toOption_bind_congr (s := id) rfl
      rintro renamed _ rfl
      apply ih
      · rw [KeyedList.keys_put, KeyedList.keys_put, hdone]
      · exact hrest

/-- An invocation shows nothing of its argument but whether there is one. -/
theorem scopeCondition_shape {r : Resource} (hr : r.IsArgumentBlind) (index : Nat) (name : String)
    {a b : Option String} (hab : a.isNone = b.isNone) :
    (r.scopeCondition index name a).toOption.map Condition.shape =
      (r.scopeCondition index name b).toOption.map Condition.shape := by
  unfold Resource.scopeCondition
  cases hfind : r.scopes.find? name with
  | none => rfl
  | some scope =>
    have hshape := hr _ (KeyedList.mem_of_find? hfind) a b hab
    dsimp only at hshape ⊢
    cases ha : scope a with
    | error e =>
      cases hb : scope b with
      | error e' => cases e <;> cases e' <;> rfl
      | ok c' => simp [ha, hb, Except.toOption] at hshape
    | ok c =>
      cases hb : scope b with
      | error e' => simp [ha, hb, Except.toOption] at hshape
      | ok c' =>
        simp only [ha, hb, Except.toOption, Option.map_some, Option.some.injEq, Condition.shape,
          Prod.mk.injEq] at hshape
        have hrebind := rebindInto_shape (invocationSpace index) c.sql
          (rfl : KeyedList.keys ([] : Binds) = KeyedList.keys ([] : Binds)) hshape.2
        dsimp only
        unfold rebind
        rw [← hshape.1]
        cases hc : rebindInto (invocationSpace index) c.sql [] c.binds <;>
          cases hc' : rebindInto (invocationSpace index) c.sql [] c'.binds <;>
          simp_all [Except.toOption, Condition.shape]

/-- The conditions of invocations are made of the names of the scopes and of which of them have an
argument. -/
theorem scopeConditions_shape {r : Resource} (hr : r.IsArgumentBlind) (index : Nat)
    {i j : List (String × Option String)}
    (hij : (i.map fun p => (p.1, p.2.isNone)) = j.map fun p => (p.1, p.2.isNone)) :
    (r.scopeConditions index i).toOption.map (List.map Condition.shape) =
      (r.scopeConditions index j).toOption.map (List.map Condition.shape) := by
  induction i generalizing index j with
  | nil =>
    cases j with
    | nil => rfl
    | cons q rest' => simp at hij
  | cons p rest ih =>
    cases j with
    | nil => simp at hij
    | cons q rest' =>
      obtain ⟨name, a⟩ := p
      obtain ⟨name', b⟩ := q
      simp only [List.map_cons, List.cons.injEq, Prod.mk.injEq] at hij
      obtain ⟨⟨rfl, hab⟩, hrest⟩ := hij
      rw [Resource.scopeConditions, Resource.scopeConditions]
      apply map_toOption_bind_congr (scopeCondition_shape hr index name hab)
      intro c c' hc
      apply map_toOption_bind_congr (ih (index + 1) hrest)
      intro cs cs' hcs
      simp [pure, Except.pure, Except.toOption, hc, hcs]

/-! ## The whole condition -/

/-- The keyword filter is written out of the table, the attributes and the number of patterns. -/
theorem keywordCondition_shape (table : String) (dialect : Dialect) {f g : KeywordFilter}
    (hunfiltered : f.unfiltered = g.unfiltered) (hattributes : f.attributes = g.attributes)
    (hparameters : f.parameters.length = g.parameters.length) :
    (keywordCondition table dialect f).map Condition.shape =
      (keywordCondition table dialect g).map Condition.shape := by
  have hbinds : KeyedList.keys (keywordBinds f) = KeyedList.keys (keywordBinds g) := by
    apply List.ext_getElem
    · simpa [KeyedList.keys, keywordBinds] using hparameters
    · intro n hf hg
      simp [KeyedList.keys, keywordBinds]
  unfold keywordCondition
  rw [hunfiltered, hattributes]
  split
  · rfl
  · simp only [List.map_cons, List.map_nil, Condition.shape, KeywordFilter.predicate, hunfiltered,
      hattributes, KeyedList.ofPairs, KeyedList.keys_putAll_congr rfl hbinds]

/-- Conditions of the same shapes join to one shape. -/
theorem joinConditions_shape {cs ds : List Condition}
    (h : cs.map Condition.shape = ds.map Condition.shape) :
    (joinConditions cs).shape = (joinConditions ds).shape := by
  have hsql : (cs.map fun c => "(" ++ c.sql ++ ")") = ds.map fun c => "(" ++ c.sql ++ ")" := by
    have := congrArg (List.map fun s : String × List String => "(" ++ s.1 ++ ")") h
    simpa [Condition.shape, Function.comp_def] using this
  have hkeys (b b' : Binds) (hb : b.keys = b'.keys) :
      (cs.foldl (fun binds c => binds.putAll c.binds) b).keys =
        (ds.foldl (fun binds c => binds.putAll c.binds) b').keys := by
    clear hsql
    induction cs generalizing ds b b' with
    | nil =>
      cases ds with
      | nil => exact hb
      | cons d ds => simp at h
    | cons c cs ih =>
      cases ds with
      | nil => simp at h
      | cons d ds =>
        simp only [List.map_cons, List.cons.injEq, Condition.shape, Prod.mk.injEq] at h
        exact ih h.2 _ _ (KeyedList.keys_putAll_congr hb h.1.2)
  simp only [Condition.shape, joinConditions, hsql, hkeys [] [] rfl]

/-- The condition of a search has a shape that depends on the filtered attributes and on the invoked
scopes, but on no keyword and on no argument. -/
theorem whereClause_shape {r : Resource} (hr : r.IsArgumentBlind) (dialect : Dialect)
    {s t : SearchResult} (hs : s.IsInterpretation) (ht : t.IsInterpretation)
    (hunfiltered : s.filter.unfiltered = t.filter.unfiltered)
    (hattributes : s.filter.attributes = t.filter.attributes)
    (hscopes : s.invocationShapes = t.invocationShapes) :
    (r.whereClause s dialect).toOption.map Condition.shape =
      (r.whereClause t dialect).toOption.map Condition.shape := by
  have hparameters : s.filter.parameters.length = t.filter.parameters.length := by
    rw [parameters_length hs, parameters_length ht, hattributes]
  unfold Resource.whereClause
  apply map_toOption_bind_congr (scopeConditions_shape hr 0 hscopes)
  intro cs ds hcs
  have hkeyword := keywordCondition_shape r.table dialect hunfiltered hattributes hparameters
  simp only [pure, Except.pure, Except.toOption, Option.map_some, Option.some.injEq]
  apply joinConditions_shape
  rw [List.map_append, List.map_append, hkeyword, hcs]

/-! ## The statement -/

/-- A run sends the statement that was planned, if there is one, whatever the database makes of
it. -/
theorem run_statements (r : Resource) (db : Database) (result : SearchResult) (limit : Option Int)
    (offset : Int) :
    (r.run db result limit offset).statements =
      (r.planOn db result limit offset).toOption.toList := by
  unfold Resource.run
  cases r.planOn db result limit offset with
  | error e => rfl
  | ok sent => cases hfailure : db.failure <;> simp [Except.toOption]

/-- A statement is planned when the page is allowed and there is a condition. -/
theorem plan_toOption (r : Resource) (result : SearchResult) (dialect : Dialect)
    (limit : Option Int) (offset : Int) :
    (r.plan result dialect limit offset).toOption =
      (checkPagination limit offset).toOption.bind fun _ =>
        (r.whereClause result dialect).toOption.map fun c =>
          r.statement c dialect limit offset := by
  unfold Resource.plan
  cases checkPagination limit offset with
  | error e => rfl
  | ok u => cases r.whereClause result dialect <;> rfl

/-- A statement is written around its condition. -/
theorem statement_sql (r : Resource) (c : Condition) (dialect : Dialect) (limit : Option Int)
    (offset : Int) :
    (r.statement c dialect limit offset).sql =
      "SELECT * FROM " ++ dialect.quoteIdentifier r.table ++
        (if c.sql = "" then "" else " WHERE " ++ c.sql) ++ r.orderClause ++
        (if limit.isSome then " LIMIT :limit OFFSET :offset" else "") :=
  rfl

/-- The text of a statement is made of the text of its condition and of whether there is a limit. -/
theorem statement_sql_congr (r : Resource) {c d : Condition} (dialect : Dialect)
    {limit limit' : Option Int} (offset offset' : Int) (hsql : c.sql = d.sql)
    (hlimit : limit.isNone = limit'.isNone) :
    (r.statement c dialect limit offset).sql = (r.statement d dialect limit' offset').sql := by
  have hsome : limit.isSome = limit'.isSome := by
    cases limit <;> cases limit' <;> simp_all
  rw [statement_sql, statement_sql, hsql, hsome]

/-- What a database is sent: nothing if it cannot be reached, and else what is planned. -/
theorem planOn_toOption (r : Resource) (db : Database) (result : SearchResult)
    (limit : Option Int) (offset : Int) :
    (r.planOn db result limit offset).toOption =
      if db.connectionFailure.isSome then none
      else (r.plan result db.dialect limit offset).toOption := by
  cases hfailure : db.connectionFailure with
  | none =>
    rw [Resource.planOn_of_connected r hfailure]
    rfl
  | some reason =>
    cases hpage : checkPagination limit offset with
    | error e =>
      rw [Resource.planOn_of_unusable r db result hpage]
      rfl
    | ok u =>
      rw [Resource.planOn_of_unreachable r hfailure result hpage]
      rfl

/-- Conditions of one shape on allowed pages are sent as one text, to databases that can both be
reached or both not. -/
theorem run_sql_congr {r : Resource} {s t : SearchResult} {db db' : Database}
    {limit limit' : Option Int} {offset offset' : Int} (hdialect : db.dialect = db'.dialect)
    (hconnection : db.connectionFailure.isSome = db'.connectionFailure.isSome)
    (hlimit : limit.isNone = limit'.isNone)
    (hshape : (r.whereClause s db.dialect).toOption.map Condition.shape =
      (r.whereClause t db.dialect).toOption.map Condition.shape)
    (hpage : checkPagination limit offset = .ok ())
    (hpage' : checkPagination limit' offset' = .ok ()) :
    (r.run db s limit offset).statements.map Statement.sql =
      (r.run db' t limit' offset').statements.map Statement.sql := by
  rw [run_statements, run_statements, planOn_toOption, planOn_toOption, plan_toOption,
    plan_toOption, hpage, hpage', ← hdialect, ← hconnection]
  split
  · rfl
  cases hs : (r.whereClause s db.dialect).toOption with
  | none =>
    cases ht : (r.whereClause t db.dialect).toOption with
    | none => rfl
    | some d => simp [hs, ht] at hshape
  | some c =>
    cases ht : (r.whereClause t db.dialect).toOption with
    | none => simp [hs, ht] at hshape
    | some d =>
      rw [hs, ht, Option.map_some, Option.map_some, Option.some.injEq] at hshape
      have hsql : c.sql = d.sql := congrArg Prod.fst hshape
      simp [Except.toOption, statement_sql_congr r db.dialect offset offset' hsql hlimit]

/-- A run on a page that is refused sends nothing. -/
theorem run_statements_of_refused {r : Resource} {db : Database} {result : SearchResult}
    {limit : Option Int} {offset : Int} (h : checkPagination limit offset ≠ .ok ()) :
    (r.run db result limit offset).statements = [] := by
  rw [run_statements]
  cases hpage : checkPagination limit offset with
  | error e =>
    rw [Resource.planOn_of_unusable r db result hpage]
    rfl
  | ok u => exact absurd hpage h

/-- A run that sends a statement has reached its database. -/
theorem connectionFailure_of_mem {r : Resource} {db : Database} {result : SearchResult}
    {limit : Option Int} {offset : Int} {sent : Statement}
    (h : sent ∈ (r.run db result limit offset).statements) : db.connectionFailure = none := by
  rw [run_statements, planOn_toOption] at h
  cases hfailure : db.connectionFailure with
  | none => rfl
  | some reason =>
    rw [hfailure] at h
    cases h

/-! ## Configured scopes -/

/-- A scope with a fixed text and fixed names of binds shows nothing of its argument. -/
theorem toScope_isArgumentBlind (t : ScopeTemplate) : IsArgumentBlind t.toScope := by
  intro a b hab
  have haccepts : t.accepts a = t.accepts b := by
    cases a <;> cases b <;> simp at hab <;> unfold ScopeTemplate.accepts <;>
      cases t.parameter <;> rfl
  have hkeys : (t.bindsWith a).keys = (t.bindsWith b).keys := by
    unfold ScopeTemplate.bindsWith
    split
    · rfl
    · rfl
    · rw [KeyedList.keys_put, KeyedList.keys_put]
  unfold ScopeTemplate.toScope
  rw [haccepts]
  split
  · cases t.failure with
    | some e => rfl
    | none => simp [Except.toOption, Condition.shape, hkeys]
  · rfl

/-- The scopes of a loaded resource show nothing of their arguments. -/
theorem load_isArgumentBlind {files : Files} {path : String} {entries : List Entry}
    (h : Configuration.load files path = .ok entries) {e : Entry} (he : e ∈ entries) :
    e.resource.IsArgumentBlind := by
  intro p hp
  obtain ⟨name, described, -, hdefinition⟩ := load_mem h he
  obtain ⟨sql, hsql⟩ := definition_scopes_mem hdefinition hp
  rw [hsql]
  exact toScope_isArgumentBlind _

/-! ## The law -/

/-- Loaded resources are blind to the arguments of their scopes.  On a resource that is blind to
them, two interpreted terms with the same filtered attributes and the same scopes, each invoked with
an argument in both or in neither, have conditions of one text and one list of bind names, or have
none.  The statements that are sent for them have one text, as long as both or neither are limited,
whatever the limits, the offsets and the databases of a dialect are; and if both databases or
neither can be reached, a statement is sent for both or for neither. -/
theorem statement_text_independent_of_values :
    (∀ files path entries, Configuration.load files path = .ok entries →
      ∀ e ∈ entries, e.resource.IsArgumentBlind) ∧
    ∀ (r : Resource) (s t : SearchResult), r.IsArgumentBlind →
      s.IsInterpretation → t.IsInterpretation →
      s.filter.unfiltered = t.filter.unfiltered → s.filter.attributes = t.filter.attributes →
      s.invocationShapes = t.invocationShapes →
      (∀ dialect, (r.whereClause s dialect).toOption.map Condition.shape =
        (r.whereClause t dialect).toOption.map Condition.shape) ∧
      ∀ (db db' : Database) (limit limit' : Option Int) (offset offset' : Int),
        db.dialect = db'.dialect → limit.isNone = limit'.isNone →
        (∀ sent ∈ (r.run db s limit offset).statements,
          ∀ sent' ∈ (r.run db' t limit' offset').statements, sent.sql = sent'.sql) ∧
        (checkPagination limit offset = .ok () → checkPagination limit' offset' = .ok () →
          db.connectionFailure.isSome = db'.connectionFailure.isSome →
          (r.run db s limit offset).statements.map Statement.sql =
            (r.run db' t limit' offset').statements.map Statement.sql) := by
  refine ⟨fun files path entries h e he => load_isArgumentBlind h he, ?_⟩
  intro r s t hr hs ht hunfiltered hattributes hscopes
  have hshape (dialect : Dialect) :=
    whereClause_shape hr dialect hs ht hunfiltered hattributes hscopes
  refine ⟨hshape, ?_⟩
  intro db db' limit limit' offset offset' hdialect hlimit
  have hsame (hpage : checkPagination limit offset = .ok ())
      (hpage' : checkPagination limit' offset' = .ok ())
      (hconnection : db.connectionFailure.isSome = db'.connectionFailure.isSome) :=
    run_sql_congr hdialect hconnection hlimit (hshape db.dialect) hpage hpage'
  refine ⟨?_, hsame⟩
  intro sent hsent sent' hsent'
  -- A statement was sent for both, so both pages were allowed.
  have hpage : checkPagination limit offset = .ok () := by
    by_contra hrefused
    simp [run_statements_of_refused hrefused] at hsent
  have hpage' : checkPagination limit' offset' = .ok () := by
    by_contra hrefused
    simp [run_statements_of_refused hrefused] at hsent'
  have hconnection : db.connectionFailure.isSome = db'.connectionFailure.isSome := by
    rw [connectionFailure_of_mem hsent, connectionFailure_of_mem hsent']
  have htexts := hsame hpage hpage' hconnection
  rw [run_statements] at hsent hsent'
  rw [run_statements, run_statements] at htexts
  rw [Option.mem_toList] at hsent hsent'
  rw [hsent, hsent'] at htexts
  simpa using htexts

/-- The text of a file that describes one resource with one scope. -/
def customersText : String :=
  "resources:\n customers:\n  attributes:\n   name: string\n  scopes:\n   kind: 'kind = :value'\n"

/-- The file that describes one resource with one scope. -/
def customersFiles : Files :=
  { contents := [(Place.child (.start "") "customers.yaml", customersText.toUTF8)] }

/-- On the loaded resource, quotes, comments and placeholders that are typed as keywords or as
arguments leave the statement as it is. -/
theorem customers_statement_text :
    ∃ e, Configuration.load customersFiles "customers.yaml" = .ok [e] ∧
      e.resource.IsArgumentBlind ∧
      let s := SearchResult.parse (some "Ann kind:gold") (· == "kind") .unrestricted ["name"] none
      let t := SearchResult.parse (some "\"');-- :limit kind:'):value") (· == "kind") .unrestricted
        ["name"] none
      s.invocationShapes = t.invocationShapes ∧ s.filter.parameters ≠ t.filter.parameters ∧
        ((e.resource.run {} s (some 10) 0).statements.map Statement.sql =
          (e.resource.run {} t (some 500) 20).statements.map Statement.sql) := by
  have hread : customersFiles.read? "customers.yaml" = .ok (some customersText) :=
    read?_alone (by decide +kernel) (by decide +kernel)
  have hlength : (Configuration.ofText "customers.yaml" (some customersText)).toOption.map
      List.length = some 1 := by
    decide +kernel
  obtain ⟨e, he⟩ := exists_load_eq_singleton hread hlength
  have hblind := statement_text_independent_of_values.1 _ _ _ he e (by simp)
  refine ⟨e, he, hblind, ?_⟩
  intro s t
  have hshapes : s.invocationShapes = t.invocationShapes := by decide +kernel
  have hlaw := statement_text_independent_of_values.2 e.resource s t hblind ⟨_, _, _, _, _, rfl⟩
    ⟨_, _, _, _, _, rfl⟩ (by decide +kernel) (by decide +kernel) hshapes
  refine ⟨hshapes, by decide +kernel, ?_⟩
  exact (hlaw.2 {} {} (some 10) (some 500) 0 20 rfl rfl).2 rfl rfl rfl

end ScopeSearch
