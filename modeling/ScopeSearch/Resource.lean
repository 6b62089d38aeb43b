import ScopeSearch.Scope
import ScopeSearch.SearchResult

/-!
# Resources

A resource is a table with scopes.  Running an interpreted term against it joins the keyword filter
and the conditions of its scopes into one statement, whose values are all bound and never written
into its text.  Either one statement is sent, or none: a page that cannot be used comes before a
database that cannot be reached, and that before a scope that fails.
-/

set_option autoImplicit false

namespace ScopeSearch

/-- A table with named scopes and an order of its rows. -/
structure Resource where
  table : String
  scopes : Scopes := []
  orderBy : Value := .null

/-- A limit or an offset that cannot be used. -/
inductive PaginationError where
  | negativeLimit
  | negativeOffset
  | offsetWithoutLimit
  deriving DecidableEq

/-- The text of an error. -/
def PaginationError.message : PaginationError → String
  | .negativeLimit => "limit must be non-negative"
  | .negativeOffset => "offset must be non-negative"
  | .offsetWithoutLimit => "offset requires limit"

/-- Why a search was not run. -/
inductive RunError where
  | pagination (e : PaginationError)
  | unknownScope (name : String)
  | inapplicableScope (name : String)
  | rejectedArgument (reason : String)
  | raisedByScope (kind : String)
  | unusableBind (e : Text.ReplacementError)
  | database (reason : String)
  deriving DecidableEq

/-- The text of an error. -/
def RunError.message : RunError → String
  | .pagination e => e.message
  | .unknownScope name => Text.quoted name
  | .inapplicableScope name => "scope " ++ Text.quoted name ++ " cannot be applied"
  | .rejectedArgument reason => reason
  | .raisedByScope kind => kind
  | .unusableBind _ => "bad escape"
  | .database reason => reason

/-- A statement as it is sent: its text and the values of its binds. -/
structure Statement where
  sql : String
  binds : Binds
  deriving Inhabited

/-- A database that cannot be reached for a reason, or answers every statement with the same rows,
or fails it. -/
structure Database where
  dialect : Dialect := .sqlite
  connectionFailure : Option String := none
  rows : List Value := []
  failure : Option String := none

/-- A run: the statements that were sent, what was reported, and the rows. -/
structure Run where
  statements : List Statement := []
  events : List Event := []
  answer : Except RunError (List Value)

/-- Checks a page; the limit is looked at first. -/
def checkPagination (limit : Option Int) (offset : Int) : Except PaginationError Unit :=
  if limit.any (· < 0) then .error .negativeLimit
  else if offset < 0 then .error .negativeOffset
  else if limit.isNone && offset != 0 then .error .offsetWithoutLimit
  else .ok ()

/-- The placeholder of the keyword pattern for an attribute. -/
def keywordPlaceholder (index : Nat) : String :=
  "search_term_" ++ toString index

/-- The namespace of the binds of an invocation. -/
def invocationSpace (index : Nat) : String :=
  "scope_" ++ toString index ++ "_"

/-- The binds of the keyword patterns. -/
def keywordBinds (f : KeywordFilter) : List (String × Value) :=
  f.parameters.mapIdx fun i parameter => (keywordPlaceholder i, .text parameter)

/-- The condition of the keyword filter, if there is one. -/
def keywordCondition (table : String) (dialect : Dialect) (f : KeywordFilter) : List Condition :=
  if f.unfiltered || f.attributes.isEmpty then []
  else
    [{ sql := f.predicate table dialect.quoteIdentifier fun i => ":" ++ keywordPlaceholder i
       binds := KeyedList.ofPairs (keywordBinds f) }]

/-- Conditions joined into one, each in parentheses, with the binds of all. -/
def joinConditions (conditions : List Condition) : Condition :=
  { sql := " AND ".intercalate (conditions.map fun c => "(" ++ c.sql ++ ")")
    binds := conditions.foldl (fun binds c => binds.putAll c.binds) [] }

namespace Resource

/-- The resource has a scope. -/
def respondsTo (r : Resource) (name : String) : Bool :=
  r.scopes.has name

/-- The condition of one invocation, with binds in its own namespace. -/
def scopeCondition (r : Resource) (index : Nat) (name : String) (argument : Option String) :
    Except RunError Condition :=
  match r.scopes.find? name with
  | none => .error (.unknownScope name)
  | some scope =>
    match scope argument with
    | .error .inapplicable => .error (.inapplicableScope name)
    | .error (.rejected reason) => .error (.rejectedArgument reason)
    | .error (.storage reason) => .error (.database reason)
    | .error (.raised kind) => .error (.raisedByScope kind)
    | .ok c =>
      match rebind (invocationSpace index) c.sql c.binds with
      | .error e => .error (.unusableBind e)
      | .ok (sql, binds) => .ok { sql, binds }

/-- The conditions of invocations in order, counted from an index; the first failure ends them. -/
def scopeConditions (r : Resource) :
    Nat → List (String × Option String) → Except RunError (List Condition)
  | _, [] => .ok []
  | index, (name, argument) :: rest => do
    let c ← r.scopeCondition index name argument
    return c :: (← scopeConditions r (index + 1) rest)

/-- The condition that a result amounts to; its text is empty when nothing is filtered. -/
def whereClause (r : Resource) (result : SearchResult) (dialect : Dialect) :
    Except RunError Condition := do
  let conditions ← r.scopeConditions 0 result.scopeInvocations
  return joinConditions (keywordCondition r.table dialect result.filter ++ conditions)

/-- The part of a statement behind its condition. -/
def orderClause (r : Resource) : String :=
  if r.orderBy.isTruthy then " ORDER BY " ++ r.orderBy.written else ""

/-- The binds of a page. -/
def pageBinds (limit : Option Int) (offset : Int) : List (String × Value) :=
  match limit with
  | none => []
  | some n => [("limit", .int n), ("offset", .int offset)]

/-- The statement for a condition and a page. -/
def statement (r : Resource) (c : Condition) (dialect : Dialect) (limit : Option Int)
    (offset : Int) : Statement :=
  { sql := "SELECT * FROM " ++ dialect.quoteIdentifier r.table ++
      (if c.sql = "" then "" else " WHERE " ++ c.sql) ++ r.orderClause ++
      (if limit.isSome then " LIMIT :limit OFFSET :offset" else "")
    binds := c.binds.putAll (pageBinds limit offset) }

/-- The statement that a search sends over a connection, or the reason why it sends none. -/
def plan (r : Resource) (result : SearchResult) (dialect : Dialect) (limit : Option Int)
    (offset : Int) : Except RunError Statement := do
  (checkPagination limit offset).mapError RunError.pagination
  return r.statement (← r.whereClause result dialect) dialect limit offset

/-- The statement that a search sends to a database; where the database cannot be reached, nothing
but the page is looked at. -/
def planOn (r : Resource) (db : Database) (result : SearchResult) (limit : Option Int)
    (offset : Int) : Except RunError Statement :=
  match db.connectionFailure with
  | none => r.plan result db.dialect limit offset
  | some reason => do
    (checkPagination limit offset).mapError RunError.pagination
    throw (.database reason)

/-- Over a connection the statement that is planned is sent. -/
theorem planOn_of_connected (r : Resource) {db : Database} (h : db.connectionFailure = none)
    (result : SearchResult) (limit : Option Int) (offset : Int) :
    r.planOn db result limit offset = r.plan result db.dialect limit offset := by
  simp only [planOn, h]

/-- Without a connection nothing is sent for a page that can be used. -/
theorem planOn_of_unreachable (r : Resource) {db : Database} {reason : String}
    (h : db.connectionFailure = some reason) (result : SearchResult) {limit : Option Int}
    {offset : Int} (hpage : checkPagination limit offset = .ok ()) :
    r.planOn db result limit offset = .error (.database reason) := by
  simp only [planOn, h, hpage]
  rfl

/-- A page that cannot be used comes before everything else. -/
theorem planOn_of_unusable (r : Resource) (db : Database) (result : SearchResult)
    {limit : Option Int} {offset : Int} {e : PaginationError}
    (hpage : checkPagination limit offset = .error e) :
    r.planOn db result limit offset = .error (.pagination e) := by
  rw [planOn, plan, hpage]
  cases db.connectionFailure <;> rfl

/-- Runs a search against a database. -/
def run (r : Resource) (db : Database) (result : SearchResult) (limit : Option Int)
    (offset : Int) : Run :=
  match r.planOn db result limit offset with
  | .error e => { answer := .error e }
  | .ok sent =>
    match db.failure with
    | some reason => { statements := [sent], answer := .error (.database reason) }
    | none =>
      { statements := [sent]
        events := [.searchExecuted r.table db.rows.length result.scopes]
        answer := .ok db.rows }

end Resource

end ScopeSearch
