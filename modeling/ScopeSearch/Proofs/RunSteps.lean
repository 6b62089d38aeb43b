import ScopeSearch.Resource

/-!
# The steps of a run

A run connects to the database, calls scopes, sends a statement and reports its answer.  These steps
are told by a run in a context, which is what connects, calls, sends and reports.  In the context
that writes the steps down the run ends as it does otherwise: it connects before it calls scopes in
order, and sends and reports the same.
-/

set_option autoImplicit false

namespace ScopeSearch

/-! ## Steps -/

/-- What a run does to the world around it. -/
inductive RunStep where
  /-- A connection was asked for, whether there is one or not. -/
  | connecting
  | called (invocation : String × Option String)
  | sent (statement : Statement)
  | reported (event : Event)

/-- What a run needs of the world around it. -/
structure RunContext (m : Type → Type) where
  /-- Connects to the database, or fails for a reason. -/
  connect : m (Except String Unit)
  /-- Calls a scope, which has a name, with an argument or without one. -/
  call : String → Scope → Option String → m (Except ScopeFailure Condition)
  /-- Sends a statement to the database, which answers with rows or fails for a reason. -/
  send : Statement → m (Except String (List Value))
  report : Event → m Unit

/-- The answer of a database to a connection. -/
def Database.connection (db : Database) : Except String Unit :=
  match db.connectionFailure with
  | some reason => .error reason
  | none => .ok ()

/-- The answer of a database to a statement. -/
def Database.answer (db : Database) : Except String (List Value) :=
  match db.failure with
  | some reason => .error reason
  | none => .ok db.rows

/-- The context of a database in which every step is written down behind those before it. -/
def RunContext.recording (db : Database) : RunContext (StateM (List RunStep)) where
  connect := do
    modify (· ++ [.connecting])
    return db.connection
  call name scope argument := do
    modify (· ++ [.called (name, argument)])
    return scope argument
  send statement := do
    modify (· ++ [.sent statement])
    return db.answer
  report event := modify (· ++ [.reported event])

/-- The error of a run that ends at the failure of a scope. -/
def ScopeFailure.runError (name : String) : ScopeFailure → RunError
  | inapplicable => .inapplicableScope name
  | rejected reason => .rejectedArgument reason
  | storage reason => .database reason
  | raised kind => .raisedByScope kind

namespace Resource

/-- What an invocation makes of the outcome of its scope. -/
def applied (index : Nat) (name : String) :
    Except ScopeFailure Condition → Except RunError Condition
  | .error failure => .error (failure.runError name)
  | .ok c =>
    match rebind (invocationSpace index) c.sql c.binds with
    | .error e => .error (.unusableBind e)
    | .ok (sql, binds) => .ok { sql, binds }

section Context

variable {m : Type → Type} [Monad m] (context : RunContext m) (r : Resource)

/-- The condition of one invocation in a context. -/
def scopeConditionIn (index : Nat) (name : String) (argument : Option String) :
    ExceptT RunError m Condition :=
  match r.scopes.find? name with
  | none => throw (.unknownScope name)
  | some scope => do
    let outcome ← context.call name scope argument
    ExceptT.mk (pure (applied index name outcome))

/-- The conditions of invocations in a context, one after the other. -/
def scopeConditionsIn : Nat → List (String × Option String) → ExceptT RunError m (List Condition)
  | _, [] => return []
  | index, (name, argument) :: rest => do
    let c ← scopeConditionIn context r index name argument
    return c :: (← scopeConditionsIn (index + 1) rest)

/-- The answer to a statement in a context, which is reported if there is one. -/
def answerIn (result : SearchResult) (statement : Statement) :
    ExceptT RunError m (List Value) := do
  match ← context.send statement with
  | .error reason => throw (.database reason)
  | .ok rows =>
    context.report (.searchExecuted r.table rows.length result.scopes)
    return rows

/-- The connection of a run in a context. -/
def connectIn : ExceptT RunError m Unit := do
  match ← context.connect with
  | .error reason => throw (.database reason)
  | .ok () => return ()

/-- A run in a context. -/
def runIn (dialect : Dialect) (result : SearchResult) (limit : Option Int) (offset : Int) :
    ExceptT RunError m (List Value) := do
  ExceptT.mk (pure ((checkPagination limit offset).mapError RunError.pagination))
  connectIn context
  let conditions ← scopeConditionsIn context r 0 result.scopeInvocations
  let c := joinConditions (keywordCondition r.table dialect result.filter ++ conditions)
  answerIn context r result (r.statement c dialect limit offset)

end Context

/-- How a run against a database ends, and the steps that it takes. -/
def recordedRun (r : Resource) (db : Database) (result : SearchResult) (limit : Option Int)
    (offset : Int) : Except RunError (List Value) × List RunStep :=
  ((runIn (.recording db) r db.dialect result limit offset).run.run []).run

/-! ## Calls -/

variable {r : Resource}

/-- The condition of an invocation is the outcome of its scope, moved to its namespace. -/
theorem scopeCondition_eq (index : Nat) (name : String) (argument : Option String) :
    r.scopeCondition index name argument =
      match r.scopes.find? name with
      | none => .error (.unknownScope name)
      | some scope => applied index name (scope argument) := by
  rw [scopeCondition]
  cases r.scopes.find? name with
  | none => rfl
  | some scope =>
    dsimp only
    cases scope argument with
    | error failure => cases failure <;> rfl
    | ok c => rfl

/-- The invocations whose scopes are called, in order, to the first that gives no condition. -/
def reached (r : Resource) : Nat → List (String × Option String) → List (String × Option String)
  | _, [] => []
  | index, invocation :: rest =>
    if r.respondsTo invocation.1 then
      invocation ::
        match r.scopeCondition index invocation.1 invocation.2 with
        | .error _ => []
        | .ok _ => reached r (index + 1) rest
    else []

/-- The scopes are called in the order of their invocations. -/
theorem reached_prefix (index : Nat) (invocations : List (String × Option String)) :
    r.reached index invocations <+: invocations := by
  induction invocations generalizing index with
  | nil => exact List.prefix_rfl
  | cons invocation rest ih =>
    rw [reached]
    split
    · rw [List.prefix_cons_inj]
      split
      · exact List.nil_prefix
      · exact ih (index + 1)
    · exact List.nil_prefix

/-- A computation that can fail, from given steps: how it ends, and the steps behind it. -/
def recorded {α : Type} (x : ExceptT RunError (StateM (List RunStep)) α) (steps : List RunStep) :
    Except RunError α × List RunStep :=
  StateT.run (ExceptT.run x) steps

section Recorded

variable {α β : Type} {x : ExceptT RunError (StateM (List RunStep)) α} {steps steps' : List RunStep}

/-- Behind a computation that succeeds the record goes on with the next one. -/
theorem recorded_bind_of_ok {a : α} (h : recorded x steps = (.ok a, steps'))
    (f : α → ExceptT RunError (StateM (List RunStep)) β) :
    recorded (x >>= f) steps = recorded (f a) steps' := by
  rw [recorded] at h
  rw [recorded, ExceptT.run_bind, StateT.run_bind, h]
  rfl

/-- Behind a computation that fails nothing is recorded. -/
theorem recorded_bind_of_error {e : RunError} (h : recorded x steps = (.error e, steps'))
    (f : α → ExceptT RunError (StateM (List RunStep)) β) :
    recorded (x >>= f) steps = (.error e, steps') := by
  rw [recorded] at h
  rw [recorded, ExceptT.run_bind, StateT.run_bind, h]
  rfl

end Recorded

/-- Applying a scope is recorded as a call if the resource has the scope. -/
theorem recorded_scopeConditionIn (db : Database) (index : Nat) (name : String)
    (argument : Option String) (steps : List RunStep) :
    recorded (scopeConditionIn (.recording db) r index name argument) steps =
      (r.scopeCondition index name argument,
        if r.respondsTo name then steps ++ [.called (name, argument)] else steps) := by
  rw [scopeCondition_eq, scopeConditionIn, respondsTo, KeyedList.has]
  cases r.scopes.find? name with
  | none => rfl
  | some scope => rfl

/-- A scope that gives a condition is one that the resource has. -/
theorem respondsTo_of_scopeCondition {index : Nat} {name : String} {argument : Option String}
    {c : Condition} (h : r.scopeCondition index name argument = .ok c) :
    r.respondsTo name = true := by
  rw [scopeCondition_eq] at h
  rw [respondsTo, KeyedList.has]
  cases hscope : r.scopes.find? name with
  | none => simp [hscope] at h
  | some scope => rfl

/-- Recorded invocations give the conditions that they give otherwise, and are called in order. -/
theorem recorded_scopeConditionsIn (db : Database) (index : Nat)
    (invocations : List (String × Option String)) (steps : List RunStep) :
    recorded (scopeConditionsIn (.recording db) r index invocations) steps =
      (r.scopeConditions index invocations,
        steps ++ (r.reached index invocations).map RunStep.called) := by
  induction invocations generalizing index steps with
  | nil => rw [reached, List.map_nil, List.append_nil]; rfl
  | cons invocation rest ih =>
    obtain ⟨name, argument⟩ := invocation
    have hfirst := recorded_scopeConditionIn (r := r) db index name argument steps
    rw [scopeConditionsIn, scopeConditions, reached]
    cases hc : r.scopeCondition index name argument with
    | error e =>
      rw [hc] at hfirst
      rw [recorded_bind_of_error hfirst]
      split <;> simp [bind, Except.bind]
    | ok c =>
      rw [hc, if_pos (respondsTo_of_scopeCondition hc)] at hfirst
      have hrest := ih (index + 1) (steps ++ [.called (name, argument)])
      rw [recorded_bind_of_ok hfirst, if_pos (respondsTo_of_scopeCondition hc)]
      cases hcs : r.scopeConditions (index + 1) rest with
      | error e =>
        rw [hcs] at hrest
        rw [recorded_bind_of_error hrest, List.append_assoc]
        rfl
      | ok cs =>
        rw [hcs] at hrest
        rw [recorded_bind_of_ok hrest, List.append_assoc]
        rfl

/-- A recorded connection is asked for once, and a failure of it is one of the database. -/
theorem recorded_connectIn (db : Database) (steps : List RunStep) :
    recorded (connectIn (.recording db)) steps =
      match db.connectionFailure with
      | some reason => (.error (.database reason), steps ++ [.connecting])
      | none => (.ok (), steps ++ [.connecting]) := by
  obtain ⟨dialect, connectionFailure, rows, failure⟩ := db
  cases connectionFailure with
  | some reason => rfl
  | none => rfl

/-- A recorded statement is sent, and its answer is reported if there is one. -/
theorem recorded_answerIn (db : Database) (result : SearchResult) (statement : Statement)
    (steps : List RunStep) :
    recorded (answerIn (.recording db) r result statement) steps =
      match db.failure with
      | some reason => (.error (.database reason), steps ++ [.sent statement])
      | none =>
        (.ok db.rows, steps ++ [.sent statement] ++
          [.reported (.searchExecuted r.table db.rows.length result.scopes)]) := by
  obtain ⟨dialect, connectionFailure, rows, failure⟩ := db
  cases failure with
  | some reason => rfl
  | none => rfl

/-- On a page that can be used the statement for the condition is planned, if there is one. -/
theorem plan_of_page {result : SearchResult} {dialect : Dialect} {limit : Option Int} {offset : Int}
    (h : checkPagination limit offset = .ok ()) :
    r.plan result dialect limit offset =
      (r.whereClause result dialect).map fun c => r.statement c dialect limit offset := by
  rw [plan, h]
  cases r.whereClause result dialect <;> rfl

/-- The condition of a statement joins the keyword filter and the conditions of the invocations. -/
theorem whereClause_eq (r : Resource) (result : SearchResult) (dialect : Dialect) :
    r.whereClause result dialect = (r.scopeConditions 0 result.scopeInvocations).map fun cs =>
      joinConditions (keywordCondition r.table dialect result.filter ++ cs) := by
  rw [whereClause]
  cases r.scopeConditions 0 result.scopeInvocations <;> rfl

/-- What a run does in front of its statement: on a page that can be used it asks for a connection,
and over it calls scopes. -/
def preparation (r : Resource) (db : Database) (result : SearchResult) (limit : Option Int)
    (offset : Int) : List RunStep :=
  match checkPagination limit offset, db.connectionFailure with
  | .error _, _ => []
  | .ok (), some _ => [.connecting]
  | .ok (), none => .connecting :: (r.reached 0 result.scopeInvocations).map RunStep.called

/-- A recorded run ends as it does otherwise, and sends and reports the same behind its
preparation. -/
theorem recordedRun_eq (r : Resource) (db : Database) (result : SearchResult) (limit : Option Int)
    (offset : Int) :
    r.recordedRun db result limit offset =
      ((r.run db result limit offset).answer,
        r.preparation db result limit offset ++
          (r.run db result limit offset).statements.map RunStep.sent ++
          (r.run db result limit offset).events.map RunStep.reported) := by
  have hconnection := recorded_connectIn db []
  have hcalls := recorded_scopeConditionsIn (r := r) db 0 result.scopeInvocations [.connecting]
  change recorded (runIn (.recording db) r db.dialect result limit offset) [] = _
  rw [runIn, run, preparation]
  cases hpage : checkPagination limit offset with
  | error e =>
    rw [planOn_of_unusable r db result hpage]
    rfl
  | ok _ =>
    have hfirst : recorded (ExceptT.mk (pure (Except.mapError RunError.pagination (.ok ())))) [] =
      (.ok (), []) := rfl
    rw [recorded_bind_of_ok hfirst]
    cases hfailure : db.connectionFailure with
    | some reason =>
      rw [hfailure] at hconnection
      rw [recorded_bind_of_error hconnection, planOn_of_unreachable r hfailure result hpage]
      rfl
    | none =>
      rw [hfailure] at hconnection
      rw [recorded_bind_of_ok hconnection, planOn_of_connected r hfailure, plan_of_page hpage,
        whereClause_eq, List.nil_append]
      cases hcs : r.scopeConditions 0 result.scopeInvocations with
      | error e =>
        rw [hcs] at hcalls
        rw [recorded_bind_of_error hcalls]
        simp [Except.map]
      | ok cs =>
        rw [hcs] at hcalls
        rw [recorded_bind_of_ok hcalls, recorded_answerIn]
        simp only [Except.map]
        cases db.failure with
        | some reason => simp
        | none => simp

/-- Scopes are called in the order of the invocations, behind the connection. -/
theorem exists_called (r : Resource) (db : Database) (result : SearchResult) (limit : Option Int)
    (offset : Int) :
    ∃ opening called, opening <+: [RunStep.connecting] ∧ called <+: result.scopeInvocations ∧
      r.recordedRun db result limit offset =
        ((r.run db result limit offset).answer,
          opening ++ called.map RunStep.called ++
            (r.run db result limit offset).statements.map RunStep.sent ++
            (r.run db result limit offset).events.map RunStep.reported) := by
  rw [recordedRun_eq, preparation]
  split
  · exact ⟨[], [], List.nil_prefix, List.nil_prefix, rfl⟩
  · exact ⟨[.connecting], [], List.prefix_rfl, List.nil_prefix, rfl⟩
  · exact ⟨[.connecting], _, List.prefix_rfl, reached_prefix 0 result.scopeInvocations, rfl⟩

/-- An event of a run tells the number of the rows that are its answer. -/
theorem mem_events_run (r : Resource) (db : Database) (result : SearchResult) (limit : Option Int)
    (offset : Int) (event : Event) :
    event ∈ (r.run db result limit offset).events ↔
      ∃ rows, (r.run db result limit offset).answer = .ok rows ∧
        event = .searchExecuted r.table rows.length result.scopes := by
  rw [run]
  cases r.planOn db result limit offset with
  | error e => simp
  | ok sent => cases db.failure <;> simp

end Resource

end ScopeSearch
