import ScopeSearch.Event
import ScopeSearch.Json
import ScopeSearch.Log.Level
import ScopeSearch.Log.Template
import ScopeSearch.Redaction

/-!
# Log records and their lines

A record is written as one line of JSON.  The line begins with the trace it belongs to, its logger,
its level, its redacted message and the time; an exception follows, and then every further field of
the record, redacted, whose name is neither reserved nor taken.
-/

set_option autoImplicit false

namespace ScopeSearch

/-- A log record. -/
structure Record where
  logger : String
  level : Int
  message : Value
  arguments : List Value := []
  extras : KeyedList String Value := []
  failure : Option (String × String) := none

/-- Why no text can be made of what stands in the place of an exception. -/
inductive FailureFault where
  /-- It is no collection. -/
  | notCollection
  /-- It has no element at a position. -/
  | tooShort
  /-- It has no entry under a position. -/
  | missing (position : Nat)
  /-- It holds no exception. -/
  | noException
  deriving DecidableEq

/-- A record that cannot be written. -/
inductive LineError where
  /-- Its level has a name that is no text. -/
  | level
  /-- A field hides its message. -/
  | hiddenMessage
  | template (e : TemplateError)
  | failure (e : FailureFault)
  | render (e : Json.RenderError)
  deriving DecidableEq

/-- The text of an error. -/
def LineError.message : LineError → String
  | level => "the name of the level is no text"
  | hiddenMessage => "a field hides the message"
  | template e => e.message
  | failure (.missing position) => toString position
  | failure _ => "no exception"
  | render e => e.message

namespace Record

/-- The names that a record uses for itself. -/
def ownNames : List String :=
  ["name", "msg", "args", "levelname", "levelno", "pathname", "filename", "module", "exc_info",
   "exc_text", "stack_info", "lineno", "funcName", "created", "msecs", "relativeCreated", "thread",
   "threadName", "processName", "process"]

/-- The names that are left out of a line. -/
def reservedNames : List String :=
  ownNames ++ ["message", "taskName"]

/-- The names that no field of a new record may have. -/
def refusedNames : List String :=
  ownNames ++ ["message", "asctime"]

/-- The name of the field that tells the trace. -/
def traceName : String := "trace_id"

/-- The trace of a record without any. -/
def unknownTrace : String := "unknown"

/-- The record of an event. -/
def ofEvent (e : Event) : Record :=
  { logger := e.channel, level := e.level, message := .text e.message, extras := e.fields }

/-! ## Fields of its own

A further field with a name that the record uses for itself takes the place of what is there. -/

/-- The logger of a record. -/
def loggerValue (r : Record) : Value :=
  (r.extras.find? "name").getD (.text r.logger)

/-- The level of a record in lower case. -/
def levelValue (r : Record) : Except LineError Value :=
  match r.extras.find? "levelname" with
  | none => .ok (.text (Level.lowerName r.level))
  | some (.bytes octets) =>
    .ok (.bytes (octets.map fun o => if 65 ≤ o ∧ o ≤ 90 then o + 32 else o))
  | some v => match v.text? with
    | some s => .ok (.text (Text.lower s))
    | none => .error .level

/-- The template of the message of a record. -/
def messageValue (r : Record) : Value :=
  (r.extras.find? "msg").getD r.message

/-- What the message of a record is filled with. -/
def messageArguments (r : Record) : Template.Arguments :=
  match r.extras.find? "args" with
  | none => .ofList r.arguments
  | some v => .ofValue v

/-- The name of the field that hides the message. -/
def messageName : String := "getMessage"

/-- The message of a record, filled with its arguments. -/
def text (r : Record) : Except LineError String :=
  if r.extras.has messageName then .error .hiddenMessage
  else (Template.messageOf r.messageValue r.messageArguments).mapError LineError.template

/-- The text of an exception: its kind, and its reason if there is one. -/
def failureText (failure : String × String) : String :=
  if failure.2 = "" then failure.1 else failure.1 ++ ": " ++ failure.2

/-- The element of a value at a position. -/
def elementAt (position : Nat) (v : Value) : Except FailureFault Value :=
  let elements? : Option (List Value) := match v with
    | .list items => some items
    | .tuple items => some items
    | .bytes octets => some (octets.map fun o => .int o.toNat)
    | v => v.text?.map fun s => s.toList.map fun c => .text (String.singleton c)
  match v.map?, elements? with
  | some entries, _ =>
    match KeyedList.find? (.int position) entries with
    | some v => .ok v
    | none => .error (.missing position)
  | none, some elements =>
    match elements[position]? with
    | some v => .ok v
    | none => .error .tooShort
  | none, none => .error .notCollection

/-- The text of a value in the place of an exception, which has to be three elements: a kind, an
exception and its trace, the latter two null. -/
def failureTextOf (v : Value) : Except FailureFault String := do
  let trace ← elementAt 2 v
  let _ ← elementAt 0 v
  match trace, ← elementAt 1 v with
  | .null, .null => return "NoneType: None"
  | _, _ => throw .noException

/-- The text of the exception of a record, if it has one; a value that is false is none. -/
def failureText? (r : Record) : Except LineError (Option String) :=
  match r.extras.find? "exc_info" with
  | none => .ok (r.failure.map failureText)
  | some v =>
    if v.isTruthy then ((failureTextOf v).map some).mapError LineError.failure else .ok none

/-! ## Lines -/

/-- The trace of a record: its own, or that of the context, or unknown. -/
def trace (r : Record) (context : Option String) : Value :=
  let own := (r.extras.find? traceName).getD .null
  if own.isTruthy then own
  else match context with
    | some s => .text (if s = "" then unknownTrace else s)
    | none => .text unknownTrace

/-- The fields that every line has, and the exception. -/
def leadingFields (r : Record) (context : Option String) (time : String) :
    Except LineError (List (String × Value)) := do
  let level ← r.levelValue
  let message ← r.text
  let failure ← r.failureText?
  return [(traceName, r.trace context), ("logger", r.loggerValue), ("level", level),
      ("msg", .text (redact message)), ("ts_utc", .text time)] ++
    failure.toList.map fun s => ("exc_info", .text s)

/-- The further fields of a record that are not reserved and not among given names. -/
def extraFields (r : Record) (taken : List String) : List (String × Value) :=
  (r.extras.filter fun f => !reservedNames.contains f.1 && !taken.contains f.1).map
    fun f => (f.1, redactValue f.2)

/-- All fields of a line. -/
def fields (r : Record) (context : Option String) (time : String) :
    Except LineError (List (String × Value)) := do
  let leading ← r.leadingFields context time
  return leading ++ r.extraFields (leading.map Prod.fst)

/-- The line of a record, in a context that may have a trace. -/
def line (r : Record) (context : Option String) (time : String) : Except LineError String := do
  let fields ← r.fields context time
  (Json.render (.map (fields.map fun f => (Value.text f.1, f.2)))).mapError LineError.render

end Record

end ScopeSearch
