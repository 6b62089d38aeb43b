import ScopeSearch.Policy

/-!
# Dashboards

A dashboard describes a resource: its table, the types of its attributes and the scopes that may be
searched with.  The attributes that hold text are searchable.
-/

set_option autoImplicit false

namespace ScopeSearch

/-- The type of an attribute. -/
inductive FieldType where
  | string
  | email
  | text
  | select
  | number
  | boolean
  | date
  | dateTime
  | belongsTo
  | hasMany
  deriving DecidableEq, Inhabited

namespace FieldType

/-- Attributes of these types hold text that keywords are looked for in. -/
def isSearchable : FieldType → Bool
  | string => true
  | email => true
  | text => true
  | select => true
  | _ => false

/-- The name of a type. -/
def name : FieldType → String
  | string => "String"
  | email => "Email"
  | text => "Text"
  | select => "Select"
  | number => "Number"
  | boolean => "Boolean"
  | date => "Date"
  | dateTime => "DateTime"
  | belongsTo => "BelongsTo"
  | hasMany => "HasMany"

/-- The types under the keys that a configuration names them by. -/
def byKey : List (String × FieldType) :=
  [("string", string), ("email", email), ("text", text), ("select", select), ("number", number),
   ("boolean", boolean), ("date", date), ("datetime", dateTime), ("belongs_to", belongsTo),
   ("has_many", hasMany)]

/-- The type with a key. -/
def ofKey? (key : String) : Option FieldType :=
  KeyedList.find? key byKey

end FieldType

/-- The description of a resource; null scopes are no declaration at all. -/
structure Dashboard where
  name : String
  table : String
  attributes : KeyedList String FieldType := []
  collectionScopes : Value := .null
  deriving Inhabited

namespace Dashboard

/-- The attributes that keywords are looked for in, in order. -/
def searchableAttributes (d : Dashboard) : List String :=
  (d.attributes.filter fun a => a.2.isSearchable).map Prod.fst

/-- The policy of the declared scopes. -/
def scopePolicy (d : Dashboard) : Except DeclarationError ScopePolicy :=
  ScopePolicy.read d.collectionScopes

/-- The declared scopes by group. -/
def scopeGroups (d : Dashboard) : Except DeclarationError (KeyedList String (List String)) :=
  readGroups d.collectionScopes

/-- The dashboard after its policy has been read. -/
def afterPolicy (d : Dashboard) : Dashboard :=
  { d with collectionScopes := d.collectionScopes.afterPolicy }

/-- The dashboard after its policy has been read and then, if there is one, its groups. -/
def afterDescription (d : Dashboard) : Dashboard :=
  match d.scopePolicy with
  | .ok _ => { d with collectionScopes := d.afterPolicy.collectionScopes.afterGroups }
  | .error _ => d.afterPolicy

end Dashboard

end ScopeSearch
