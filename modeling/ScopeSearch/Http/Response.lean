import ScopeSearch.Event
import ScopeSearch.Http.Request
import ScopeSearch.Resource
import ScopeSearch.Value.Serialized
import ScopeSearch.Value.Written

/-!
# Responses

A response has a status and a body, which is a value or, when the server fails, a plain text.  With
it come the statements that were sent and the events that were reported while it was made.  Not
every value has a form in a response, and those that have too many levels have none.  The streams
among the rows of a database are used up by the response they are put into.
-/

set_option autoImplicit false

namespace ScopeSearch

open Number (Double)

namespace Value

/-- The text that octets hold in UTF-8. -/
def octetsText? (octets : List UInt8) : Option String :=
  String.fromUTF8? (ByteArray.mk octets.toArray)

mutual

/-- The key of an object of a response: a number that is not finite is no key of its own, the
elements of a tuple are joined by commas, and a member of an enumeration is its value. -/
def responseKey? : Value → Option String
  | null => some "None"
  | bool b => some (if b then "true" else "false")
  | int n => some (toString n)
  | float (.finite negative m e) => some (Double.text (.finite negative m e))
  | float _ => some "None"
  | text s => some s
  | textMember s => some s
  | member v => responseKey? v
  | bytes octets => octetsText? octets
  | decimal d => some d.text
  | date d => some d.text
  | dateTime t => some t.shortText
  | uuid u => some u.text
  | tuple items => (responseKeys? items).map (",".intercalate ·)
  | directive d => some d.render
  | filter f => some (filterText f)
  | list _ => none
  | set _ => none
  | map _ => none
  | stream _ => none
  | object _ => none
  | marked _ v => responseKey? v

/-- The keys of the elements of a tuple. -/
def responseKeys? : List Value → Option (List String)
  | [] => some []
  | v :: rest => do
    let key ← responseKey? v
    return key :: (← responseKeys? rest)

end

/-- The number of levels that a field of a response may have. -/
def levelLimit : Nat := 255

/-- The number of levels below a filter that stands as a mapping of its fields. -/
def filterLevels (f : KeywordFilter) : Nat :=
  if f.attributes.isEmpty && f.parameters.isEmpty then 1 else 2

mutual

/-- A value as it stands in a response, within a number of levels: numbers that are not finite are
null, octets are read as UTF-8, and all collections but mappings are lists.  A member of an
enumeration is a level above its value.  An object has no form there. -/
def response? : Nat → Value → Option Value
  | 0, _ => none
  | _ + 1, null => some null
  | _ + 1, bool b => some (bool b)
  | _ + 1, int n => some (int n)
  | _ + 1, float (.finite negative m e) => some (float (.finite negative m e))
  | _ + 1, float _ => some null
  | _ + 1, text s => some (text s)
  | _ + 1, textMember s => some (text s)
  | n + 1, member v => response? n v
  | _ + 1, bytes octets => (octetsText? octets).map text
  | _ + 1, decimal d => some (text d.text)
  | _ + 1, date d => some (text d.text)
  | _ + 1, dateTime t => some (text t.shortText)
  | _ + 1, uuid u => some (text u.text)
  | n + 1, list items => (responses? n items).map list
  | n + 1, tuple items => (responses? n items).map list
  | n + 1, set items => (responses? n items).map list
  | n + 1, stream items => (responses? n items).map list
  | n + 1, map entries => (responseEntries? n entries).map fun es => map (KeyedList.ofPairs es)
  | _ + 1, object _ => none
  | n + 1, directive d => if 1 ≤ n then some (ofDirective d) else none
  | n + 1, filter f => if filterLevels f ≤ n then some (ofFilter f) else none
  | n + 1, marked _ v => response? (n + 1) v

/-- Values as they stand in a response. -/
def responses? : Nat → List Value → Option (List Value)
  | _, [] => some []
  | n, v :: rest => do
    let v ← response? n v
    return v :: (← responses? n rest)

/-- Entries of a mapping as they stand in a response. -/
def responseEntries? : Nat → List (Value × Value) → Option (List (Value × Value))
  | _, [] => some []
  | n, (k, v) :: rest => do
    let key ← k.responseKey?
    let v ← response? n v
    return (text key, v) :: (← responseEntries? n rest)

end

/-! ## What a response leaves behind

A stream gives what it holds only once.  Making a response takes values from first to last, and
stops at the first that has no form there. -/

mutual

/-- What is left of a value after it has been put into a response, and whether it had a form. -/
def spent : Nat → Value → Value × Bool
  | 0, v => (v, false)
  | n + 1, member v =>
    let (v, formed) := spent n v
    (member v, formed)
  | n + 1, list items =>
    let (items, formed) := spentItems n items
    (list items, formed)
  | n + 1, tuple items =>
    let (items, formed) := spentItems n items
    (tuple items, formed)
  | n + 1, set items =>
    let (items, formed) := spentItems n items
    (set items, formed)
  | n + 1, stream items =>
    let (items, formed) := spentStream n items
    (stream items, formed)
  | n + 1, map entries =>
    let (entries, formed) := spentEntries n entries
    (map entries, formed)
  | n + 1, v => (v, (v.response? (n + 1)).isSome)

/-- What is left of values. -/
def spentItems : Nat → List Value → List Value × Bool
  | _, [] => ([], true)
  | n, v :: rest =>
    match spent n v with
    | (v, true) =>
      let (rest, formed) := spentItems n rest
      (v :: rest, formed)
    | (v, false) => (v :: rest, false)

/-- What is left of a stream: what follows the first value without a form. -/
def spentStream : Nat → List Value → List Value × Bool
  | _, [] => ([], true)
  | n, v :: rest => if (spent n v).2 then spentStream n rest else (rest, false)

/-- What is left of the entries of a mapping. -/
def spentEntries : Nat → List (Value × Value) → List (Value × Value) × Bool
  | _, [] => ([], true)
  | n, (k, v) :: rest =>
    match k.responseKey?, spent n v with
    | none, _ => ((k, v) :: rest, false)
    | some _, (v, true) =>
      let (rest, formed) := spentEntries n rest
      ((k, v) :: rest, formed)
    | some _, (v, false) => ((k, v) :: rest, false)

end

end Value

/-- The body of a response. -/
inductive Body where
  | value (v : Value)
  | plain (s : String)

/-- A response. -/
structure Response where
  status : Nat
  body : Body
  total : Option Nat := none
  statements : List Statement := []
  events : List Event := []
  /-- The rows of a database were put into it. -/
  takesRows : Bool := false

namespace Response

/-- A mapping with text keys. -/
def object (fields : List (String × Value)) : Value :=
  .map (fields.map fun f => (.text f.1, f.2))

/-- A response that tells why a request was refused. -/
def refused (status : Nat) (detail : Value) : Response :=
  { status, body := .value (object [("detail", detail)]) }

/-- The path is not served. -/
def notFound : Response :=
  refused 404 (.text "Not Found")

/-- The method is not served. -/
def methodNotAllowed : Response :=
  refused 405 (.text "Method Not Allowed")

/-- The resource is not registered. -/
def unknownResource : Response :=
  refused 404 (.text "unknown_resource")

/-- The parameters of a request are refused. -/
def refusedParameters (ps : List RefusedParameter) : Response :=
  refused 422 (.list (ps.map RefusedParameter.value))

/-- The limit of a page is beyond the greatest one. -/
def limitExceeded (greatest : Int) : Response :=
  refused 400 (.text ("limit must be <= " ++ toString greatest))

/-- The server failed. -/
def failed : Response :=
  { status := 500, body := .plain "Internal Server Error" }

/-- A response of which only the head is sent. -/
def withoutBody (r : Response) : Response :=
  { r with body := .plain "" }

/-- A response with what was sent and reported before it. -/
def after (r : Response) (statements : List Statement) (events : List Event) : Response :=
  { r with statements := statements ++ r.statements, events := events ++ r.events }

/-- An answer with fields; the server fails if one of them has no form. -/
def answer (fields : List (String × Value)) (total : Option Nat) : Response :=
  match fields.mapM fun f => (f.2.response? Value.levelLimit).map fun v => (f.1, v) with
  | some fields => { status := 200, body := .value (object fields), total }
  | none => failed

end Response

/-- A database after its rows have been put into a response. -/
def Database.afterResponse (db : Database) (r : Response) : Database :=
  if r.takesRows then { db with rows := (Value.spentItems (Value.levelLimit - 1) db.rows).1 }
  else db

end ScopeSearch
