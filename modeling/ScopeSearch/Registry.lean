import ScopeSearch.Configuration

/-!
# Registries of resources

A registry holds resources by name.  Resources are registered one by one, and then replace those of
the same name, or loaded from a configuration, and then leave those that are there.
-/

set_option autoImplicit false

namespace ScopeSearch

/-- Resources by name. -/
abbrev Registry := KeyedList String Entry

/-- A name that no resource has. -/
structure UnknownResource where
  name : String
  deriving DecidableEq

/-- The text of an error. -/
def UnknownResource.message (e : UnknownResource) : String :=
  Text.quoted e.name

namespace Registry

/-- Registers a resource under the name in its description. -/
def register (r : Registry) (e : Entry) : Registry :=
  r.put e.dashboard.name e

/-- The resource with a name. -/
def get (r : Registry) (name : String) : Except UnknownResource Entry :=
  match r.find? name with
  | some e => .ok e
  | none => .error ⟨name⟩

/-- The registry after the description of a resource has become another one. -/
def redescribed (r : Registry) (name : String) (change : Dashboard → Dashboard) : Registry :=
  match r.find? name with
  | some e => r.put name { e with dashboard := change e.dashboard }
  | none => r

/-- The names of the resources, sorted by code points. -/
def names (r : Registry) : List String :=
  r.keys.mergeSort fun a b => !decide (b < a)

/-- Registers a resource unless its name is taken. -/
def registerNew (r : Registry) (e : Entry) : Registry :=
  if r.has e.dashboard.name then r else r.register e

/-- Registers loaded resources, the first of a name. -/
def registerLoaded (r : Registry) (entries : List Entry) : Registry :=
  entries.foldl registerNew r

/-- The path that is loaded: the given one unless it is empty, or else the configured one. -/
def source (given : Option String) (configured : String) : String :=
  match given with
  | some path => if path = "" then configured else path
  | none => configured

/-- Registers the resources that the file at a path describes, and reports how many there are. -/
def loadFrom (r : Registry) (files : Files) (path : String) :
    Except ConfigurationError (Registry × Event) := do
  let loaded ← Configuration.load files path
  return (r.registerLoaded loaded, .registryLoaded path loaded.length)

end Registry

end ScopeSearch
