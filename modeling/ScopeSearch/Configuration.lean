import ScopeSearch.Dashboard
import ScopeSearch.Files
import ScopeSearch.Resource
import ScopeSearch.Yaml.Document

/-!
# Configurations of resources

A configuration is a YAML file that describes resources under the key `resources`: for each of them
a table, the types of its attributes, the scopes that may be searched with, and the conditions that
the scopes stand for.  A file that is missing or blank describes none.  Loading checks everything
that a search relies on and stops at the first fault.  An integer that is too long to be written, be
it as a name or in the text of a fault, is a fault of its own.
-/

set_option autoImplicit false

namespace ScopeSearch

/-- A resource with its description. -/
structure Entry where
  dashboard : Dashboard
  resource : Resource

/-- The resource of a description alone: its table without scopes. -/
def Entry.ofDashboard (d : Dashboard) : Entry :=
  { dashboard := d, resource := { table := d.table } }

/-- What is wrong with the description of a resource. -/
inductive DefinitionFault where
  | notMapping
  | attributesNotMapping
  | unknownFieldType (field kind : Value)
  | scopes (e : PolicyError)
  | conditionsNotMapping
  | noCondition (scope : Value)
  | longInteger (e : LongInteger)

/-- What is wrong with a declaration of scopes. -/
def DefinitionFault.ofDeclaration : DeclarationError → DefinitionFault
  | .shape e => scopes e
  | .longInteger e => longInteger e

/-- A fault whose text quotes values. -/
def DefinitionFault.quoting (values : List Value) (fault : DefinitionFault) : DefinitionFault :=
  if values.all Value.isQuotable then fault else longInteger {}

/-- The text of a fault. -/
def DefinitionFault.message : DefinitionFault → String
  | notMapping => "definition must be a mapping"
  | attributesNotMapping => "attributes must be a mapping"
  | unknownFieldType field kind =>
    "unknown field type " ++ kind.quoted ++ " for " ++ field.quoted
  | scopes e => e.message
  | conditionsNotMapping => "scopes must be a mapping"
  | noCondition scope => "scope " ++ scope.quoted ++ " needs a SQL condition"
  | longInteger e => e.message

/-- Why a configuration cannot be used. -/
inductive ConfigurationError where
  /-- The file cannot be read. -/
  | file (e : FileError)
  /-- The file is not YAML. -/
  | malformed (path : String)
  /-- A scalar of the file has no value. -/
  | unreadable (e : Yaml.ReadError)
  /-- The file holds no mapping. -/
  | notMapping (path : String)
  /-- The resources are no mapping. -/
  | resourcesNotMapping (path : String)
  /-- A resource is described wrongly. -/
  | definition (resource : String) (fault : DefinitionFault)
  /-- An integer is too long to be written. -/
  | longInteger (e : LongInteger)

/-- The error for a fault in the description of a resource. -/
def ConfigurationError.ofFault (resource : String) : DefinitionFault → ConfigurationError
  | .longInteger e => longInteger e
  | fault => definition resource fault

/-- The text of an error. -/
def ConfigurationError.message : ConfigurationError → String
  | file e => e.message
  | malformed path => normalPath path ++ ": invalid YAML"
  | unreadable e => e.message
  | notMapping path => normalPath path ++ ": top level must be a mapping"
  | resourcesNotMapping path => path ++ ": 'resources' must be a mapping"
  | definition resource fault =>
    "resource " ++ Text.quoted resource ++ ": " ++ fault.message
  | longInteger e => e.message

namespace Configuration

/-- The type that a configuration gives an attribute, in any case. -/
def fieldType? (kind : String) : Option FieldType :=
  FieldType.ofKey? (Text.lower kind)

/-- The types of attributes, in order. -/
def attributeTypes :
    List (Value × Value) → Except DefinitionFault (List (String × FieldType))
  | [] => .ok []
  | (field, kind) :: rest => do
    let kindText ← kind.write.mapError DefinitionFault.longInteger
    match fieldType? kindText with
    | none => throw (.quoting [kind, field] (.unknownFieldType field kind))
    | some t =>
      let name ← field.write.mapError DefinitionFault.longInteger
      return (name, t) :: (← attributeTypes rest)

/-- The attributes of a description; whatever is false stands for none. -/
def attributes (declared : Value) : Except DefinitionFault (KeyedList String FieldType) :=
  if declared.isTruthy then
    match declared.map? with
    | some entries => (attributeTypes entries).map KeyedList.ofPairs
    | none => .error .attributesNotMapping
  else .ok []

/-- The condition that a value is, which must not be blank. -/
def conditionText? (v : Value) : Option String :=
  v.text?.filter fun s => !Text.isBlankString s

/-- The scopes for conditions, in order. -/
def conditionScopes : List (Value × Value) → Except DefinitionFault (List (String × Scope))
  | [] => .ok []
  | (name, condition) :: rest =>
    match conditionText? condition with
    | none => .error (.quoting [name] (.noCondition name))
    | some sql => do
      let name ← name.write.mapError DefinitionFault.longInteger
      return (name, (ScopeTemplate.ofCondition sql).toScope) :: (← conditionScopes rest)

/-- The scopes of a description. -/
def scopes (declared : Value) : Except DefinitionFault Scopes :=
  match declared, declared.map? with
  | .null, _ => .ok []
  | _, some entries => (conditionScopes entries).map KeyedList.ofPairs
  | _, none => .error .conditionsNotMapping

/-- The name of a table: that of the resource unless it is given. -/
def tableName (name : String) (given : Value) : Except DefinitionFault String :=
  if given.isTruthy then given.write.mapError DefinitionFault.longInteger else .ok name

/-- The dashboard of a description. -/
def dashboard (name : String) (fields : List (Value × Value)) :
    Except DefinitionFault Dashboard := do
  let attributes ← attributes (Value.field "attributes" fields)
  let collectionScopes := Value.field "collection_scopes" fields
  let _ ← (ScopePolicy.read collectionScopes).mapError DefinitionFault.ofDeclaration
  let table ← tableName name (Value.field "table" fields)
  return { name, table, attributes, collectionScopes }

/-- The resource of a description. -/
def definition (name : String) (described : Value) : Except DefinitionFault Entry :=
  match described.map? with
  | some fields => do
    let d ← dashboard name fields
    let scopes ← scopes (Value.field "scopes" fields)
    return { dashboard := d
             resource := { table := d.table, scopes, orderBy := Value.field "order_by" fields } }
  | none => .error .notMapping

/-- The resources of descriptions, in order. -/
def definitions : List (Value × Value) → Except ConfigurationError (List Entry)
  | [] => .ok []
  | (key, described) :: rest => do
    let name ← key.write.mapError ConfigurationError.longInteger
    let entry ← (definition name described).mapError (ConfigurationError.ofFault name)
    return entry :: (← definitions rest)

/-- The resources of a file with a value. -/
def ofValue (path : String) (v : Value) : Except ConfigurationError (List Entry) :=
  match v.map? with
  | some fields =>
    let described := Value.field "resources" fields
    if described.isTruthy then
      match described.map? with
      | some entries => definitions entries
      | none => .error (.resourcesNotMapping path)
    else .ok []
  | none => .error (.notMapping path)

/-- The value of a text, which has to be YAML. -/
def valueOfText (path text : String) : Except ConfigurationError Value :=
  match Yaml.valueOfText text with
  | .ok v => .ok v
  | .error .malformed => .error (.malformed path)
  | .error e => .error (.unreadable e)

/-- The resources of a file, which may be missing. -/
def ofText (path : String) (content : Option String) : Except ConfigurationError (List Entry) :=
  match content with
  | none => .ok []
  | some text =>
    if Text.isBlankString text then .ok []
    else valueOfText path text >>= ofValue path

/-- Loads the resources that the file at a path describes. -/
def load (files : Files) (path : String) : Except ConfigurationError (List Entry) := do
  ofText path (← (files.read? path).mapError ConfigurationError.file)

end Configuration

end ScopeSearch
