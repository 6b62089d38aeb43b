import ScopeSearch.Log.Record

/-!
# Logging sessions

A session holds the level of the process, the number of places that lines are written to, the level
that is configured, and the trace of the context.  Setting up logging replaces every place by one.
-/

set_option autoImplicit false

namespace ScopeSearch

/-- The logging state of a process. -/
structure Session where
  level : Int := Level.initial
  handlers : Nat := 0
  configuredLevel : String := "INFO"
  trace : Option String := none

/-- A record that is refused because a field of it has a name of its own. -/
structure RefusedField where
  name : String
  deriving DecidableEq

/-- The text of a refusal. -/
def RefusedField.message (e : RefusedField) : String :=
  Text.quoted ("Attempt to overwrite " ++ Text.quoted e.name ++ " in LogRecord")

namespace Session

/-- The name of the level to set up: the given one, or else the configured one. -/
def levelName (s : Session) (given : Option String) : String :=
  match given with
  | some name => if name = "" then s.configuredLevel else name
  | none => s.configuredLevel

/-- Sets up logging; a name that cannot be used leaves everything as it is. -/
def start (s : Session) (given : Option String) : Except Level.Error Session := do
  let level ← Level.ofName (s.levelName given)
  return { s with level, handlers := 1 }

/-- Records of a level are written. -/
def isEnabled (s : Session) (level : Int) : Bool :=
  0 < level && s.level ≤ level

/-- The lines of a record at a time: one for each place, none if it cannot be written. -/
def write (s : Session) (time : String) (r : Record) : List String :=
  if s.isEnabled r.level then
    match r.line s.trace time with
    | .ok line => List.replicate s.handlers line
    | .error _ => []
  else []

/-- The lines of events at a time. -/
def writeEvents (s : Session) (time : String) (events : List Event) : List String :=
  events.flatMap fun e => s.write time (.ofEvent e)

/-- The lines of a new record; a record that would be written must not name fields of its own. -/
def log (s : Session) (time : String) (r : Record) : Except RefusedField (List String) :=
  if s.isEnabled r.level then
    match r.extras.keys.find? Record.refusedNames.contains with
    | some name => .error ⟨name⟩
    | none => .ok (s.write time r)
  else .ok []

end Session

end ScopeSearch
