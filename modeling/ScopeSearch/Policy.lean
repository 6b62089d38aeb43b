import ScopeSearch.Value.Written

/-!
# Scope policies

A resource declares the scopes that may be searched with in one of several shapes: not at all, as a
collection of entries, or as a mapping of group names to collections.  A declaration is normalized
once into a policy.  No declaration leaves every scope open, entries make an allow-list, and a
declaration without entries closes scope search.
-/

set_option autoImplicit false

namespace ScopeSearch

/-- How a policy decides. -/
inductive PolicyMode where
  | unrestricted
  | allowList
  | disabled
  deriving DecidableEq, Inhabited

namespace PolicyMode

/-- The name of a mode. -/
def name : PolicyMode → String
  | unrestricted => "unrestricted"
  | allowList => "allow_list"
  | disabled => "disabled"

/-- The mode with a name; a name that means nothing restricts nothing. -/
def ofName (s : String) : PolicyMode :=
  if s = allowList.name then allowList
  else if s = disabled.name then disabled
  else unrestricted

end PolicyMode

/-- A normalized declaration of scopes. -/
structure ScopePolicy where
  mode : PolicyMode
  entries : List String := []
  deriving DecidableEq, Inhabited

/-- A declaration, or one of its groups, that is not a collection. -/
structure PolicyError where
  group : Option Value
  kind : String

/-- The text of an error. -/
def PolicyError.message (e : PolicyError) : String :=
  let cause := "collection scopes must be a list, got " ++ e.kind
  match e.group with
  | none => cause
  | some g => "scope group " ++ g.quoted ++ ": " ++ cause

/-- The text of an entry; a member of an enumeration contributes its value. -/
def entryText : Value → String
  | .member v => v.written
  | .textMember s => s
  | v => v.written

/-- The text of an entry can be made. -/
def hasEntryText : Value → Bool
  | .member v => v.isWritable
  | v => v.isWritable

/-- The elements of a collection, the keys of a mapping among them; a text is no collection. -/
def Value.elements? : Value → Option (List Value)
  | list items => some items
  | tuple items => some items
  | set items => some items
  | stream items => some items
  | map entries => some (entries.map Prod.fst)
  | marked _ v => elements? v
  | _ => none

/-- The elements of a collection, or an error that names its kind. -/
def sequenceEntries (group : Option Value) (raw : Value) : Except PolicyError (List Value) :=
  match raw.elements? with
  | some items => .ok items
  | none => .error { group, kind := raw.kind }

/-- The elements of all groups of a mapping, null groups left out. -/
def groupEntries : List (Value × Value) → Except PolicyError (List Value)
  | [] => .ok []
  | (_, .null) :: rest => groupEntries rest
  | (group, values) :: rest => do
    let items ← sequenceEntries (some group) values
    return items ++ (← groupEntries rest)

/-- The declared elements of a declaration, in order. -/
def declaredEntries (raw : Value) : Except PolicyError (List Value) :=
  match raw.map? with
  | some entries => groupEntries entries
  | none => sequenceEntries none raw

/-- The texts of the declared elements, each once. -/
def flatten (raw : Value) : Except PolicyError (List String) := do
  return firstOccurrences ((← declaredEntries raw).map entryText)

namespace ScopePolicy

/-- The policy of a resource without a declaration. -/
def unrestricted : ScopePolicy :=
  { mode := .unrestricted }

/-- The policy of normalized entries. -/
def ofEntries (entries : List String) : ScopePolicy :=
  if entries.isEmpty then { mode := .disabled } else { mode := .allowList, entries }

/-- The policy of a declaration. -/
def ofDeclaration : Value → Except PolicyError ScopePolicy
  | .null => .ok unrestricted
  | raw => (flatten raw).map ofEntries

/-- The policy that allows given entries. -/
def allow (entries : List Value) : Except PolicyError ScopePolicy :=
  ofDeclaration (.list entries)

end ScopePolicy

/-- The group that a plain collection is reported under. -/
def defaultGroup : String := "default"

/-- The entries of the groups of a mapping, each group under the text of its name; a group that is
false has none. -/
def groupsOf : List (Value × Value) → KeyedList String (List String) →
    Except PolicyError (KeyedList String (List String))
  | [], done => .ok done
  | (group, values) :: rest, done => do
    let entries ← if values.isTruthy then flatten values else .ok []
    groupsOf rest (KeyedList.put group.written entries done)

/-- The declared scopes by group. -/
def groups (raw : Value) : Except PolicyError (KeyedList String (List String)) :=
  match raw, raw.map? with
  | .null, _ => .ok []
  | _, some entries => groupsOf entries []
  | _, none => (flatten raw).map fun entries => [(defaultGroup, entries)]

/-! ## Reading within the limit of digits

A declaration is read as above if the texts that this takes can all be made.  The first that cannot
be made ends the reading, also where it would be part of an error. -/

/-- Why a declaration cannot be read. -/
inductive DeclarationError where
  /-- The declaration, or one of its groups, is not a collection. -/
  | shape (e : PolicyError)
  /-- A text cannot be made. -/
  | longInteger (e : LongInteger)

/-- The text of an error. -/
def DeclarationError.message : DeclarationError → String
  | shape e => e.message
  | longInteger e => e.message

/-- The error for a group that is not a collection; its text quotes the group. -/
def DeclarationError.ofShape (e : PolicyError) : DeclarationError :=
  if e.group.all Value.isQuotable then shape e else longInteger {}

/-- The texts of the declared elements, each once, if they can all be made. -/
def readEntries (raw : Value) : Except DeclarationError (List String) := do
  let items ← (declaredEntries raw).mapError DeclarationError.ofShape
  if items.all hasEntryText then return firstOccurrences (items.map entryText)
  else throw (.longInteger {})

/-- The policy of a declaration, if the texts of its elements can be made. -/
def ScopePolicy.read : Value → Except DeclarationError ScopePolicy
  | .null => .ok unrestricted
  | raw => (readEntries raw).map ofEntries

/-- The entries of a group, of which one that is false has none. -/
def readGroup (values : Value) : Except DeclarationError (List String) :=
  if values.isTruthy then readEntries values else .ok []

/-- The entries of the groups of a mapping by the texts of their names, if all texts can be made. -/
def readGroupsOf : List (Value × Value) → KeyedList String (List String) →
    Except DeclarationError (KeyedList String (List String))
  | [], done => .ok done
  | (group, values) :: rest, done => do
    let name ← group.write.mapError DeclarationError.longInteger
    let entries ← readGroup values
    readGroupsOf rest (KeyedList.put name entries done)

/-- The declared scopes by group, if all texts can be made. -/
def readGroups (raw : Value) : Except DeclarationError (KeyedList String (List String)) :=
  match raw, raw.map? with
  | .null, _ => .ok []
  | _, some entries => readGroupsOf entries []
  | _, none => (readEntries raw).map fun entries => [(defaultGroup, entries)]

/-! ## What reading leaves behind

A stream can be read only once.  Reading a declaration takes the streams in it from first to last
and stops at the first fault. -/

namespace Value

/-- What a stream holds after it has been read: nothing. -/
def drained : Value → Value
  | stream _ => stream []
  | v => v

/-- The groups of a mapping after their elements have been read. -/
def drainedGroups : List (Value × Value) → List (Value × Value)
  | [] => []
  | (group, values) :: rest =>
    match values, values.elements? with
    | .null, _ => (group, values) :: drainedGroups rest
    | _, some _ => (group, values.drained) :: drainedGroups rest
    | _, none => (group, values) :: rest

/-- A declaration after its policy has been read. -/
def afterPolicy : Value → Value
  | map entries => map (drainedGroups entries)
  | v => v.drained

/-- The groups of a mapping after their entries have been read group by group. -/
def reportedGroups : List (Value × Value) → List (Value × Value)
  | [] => []
  | (group, values) :: rest =>
    if !group.isWritable then (group, values) :: rest
    else if values.isTruthy then
      match readEntries values with
      | .ok _ => (group, values.afterPolicy) :: reportedGroups rest
      | .error _ => (group, values.afterPolicy) :: rest
    else (group, values) :: reportedGroups rest

/-- A declaration after its groups have been read. -/
def afterGroups : Value → Value
  | map entries => map (reportedGroups entries)
  | v => v.drained

end Value

end ScopeSearch
