import ScopeSearch.Bind

/-!
# Scopes

A scope is a named condition of a resource.  It is invoked with an argument or without one, and
either gives a condition with its binds or fails.
-/

set_option autoImplicit false

namespace ScopeSearch

/-- A condition in SQL with the values of its binds. -/
structure Condition where
  sql : String
  binds : Binds := []
  deriving Inhabited

/-- How the invocation of a scope fails. -/
inductive ScopeFailure where
  /-- The scope cannot be applied to what it was given. -/
  | inapplicable
  /-- The scope rejects its argument with a reason. -/
  | rejected (reason : String)
  /-- The scope asks the database, which fails for a reason. -/
  | storage (reason : String)
  /-- The scope fails with an error of another kind. -/
  | raised (kind : String)
  deriving DecidableEq

/-- A scope: an argument or none, to a condition or a failure. -/
abbrev Scope := Option String → Except ScopeFailure Condition

/-- The scopes of a resource by name. -/
abbrev Scopes := KeyedList String Scope

/-- A scope as a fixed text of SQL.  With a parameter it takes one argument, which is bound under
that name after the fixed binds, and which may be left out if the parameter is optional; without a
parameter it takes none. -/
structure ScopeTemplate where
  sql : String
  binds : Option Binds := some []
  parameter : Option String := none
  isOptional : Bool := false
  failure : Option ScopeFailure := none

namespace ScopeTemplate

/-- The binds of an invocation. -/
def bindsWith (t : ScopeTemplate) (argument : Option String) : Binds :=
  match t.binds, t.parameter with
  | none, _ => []
  | some binds, none => binds
  | some binds, some name => binds.put name ((argument.map Value.text).getD .null)

/-- The number of arguments is right. -/
def accepts (t : ScopeTemplate) (argument : Option String) : Bool :=
  match t.parameter, argument with
  | none, none => true
  | none, some _ => false
  | some _, some _ => true
  | some _, none => t.isOptional

/-- The scope that a template describes. -/
def toScope (t : ScopeTemplate) : Scope := fun argument =>
  if t.accepts argument then
    match t.failure with
    | some e => .error e
    | none => .ok { sql := t.sql, binds := t.bindsWith argument }
  else .error .inapplicable

end ScopeTemplate

/-- The name under which a configured condition refers to its argument. -/
def argumentName : String := "value"

/-- The scope of a configured condition: it takes an argument exactly when it refers to one. -/
def ScopeTemplate.ofCondition (sql : String) : ScopeTemplate :=
  if hasPlaceholder argumentName.toList none sql.toList then { sql, parameter := some argumentName }
  else { sql }

end ScopeSearch
