import ScopeSearch.Http.Address
import ScopeSearch.KeyedList
import ScopeSearch.Number.Integer
import ScopeSearch.Value

/-!
# Requests

A request has a method, an address and maybe a trace.  Two routes are served: a resource is
searched, or a term is only interpreted for it.  A path with slashes at its end that has a route
without them is moved there.  A search names a page, whose limit and offset are checked before
anything else is looked at.
-/

set_option autoImplicit false

namespace ScopeSearch

/-- A request. -/
structure Request where
  method : String := "GET"
  address : Address
  traceId : Option String := none

/-- A request can be sent: a trace is sent in ASCII only. -/
def Request.isSendable (r : Request) : Bool :=
  r.traceId.all fun s => s.toList.all (·.toNat < 128)

/-- What a path asks for. -/
inductive Route where
  | parse (resource : String)
  | run (resource : String)
  deriving DecidableEq

namespace Route

/-- The last step of a path asks for a term to be interpreted; a line feed may follow the word. -/
def isParseStep (step : List Char) : Bool :=
  step = "parse".toList || step = "parse\n".toList

/-- The route that a path is written for. -/
def match? (path : List Char) : Option Route :=
  match path.splitOn '/' with
  | [[], area, resource] =>
    if area = "search".toList ∧ !resource.isEmpty then some (.run (String.ofList resource))
    else none
  | [[], area, resource, action] =>
    if area = "search".toList ∧ !resource.isEmpty ∧ isParseStep action then
      some (.parse (String.ofList resource))
    else none
  | _ => none

/-- A path without the slashes at its end. -/
def withoutFinalSlashes (path : List Char) : List Char :=
  (path.reverse.dropWhile (· == '/')).reverse

end Route

/-- Where a request leads. -/
inductive Destination where
  /-- The path is served. -/
  | route (r : Route)
  /-- The path is served at another address. -/
  | moved (a : Address)
  /-- The path is not served. -/
  | nowhere

/-- Where an address leads: to the route of its path, or to the address without the slashes at the
end of the path if that has a route. -/
def Destination.ofAddress (a : Address) : Destination :=
  let path := a.requestedPath
  let shorter := Route.withoutFinalSlashes path
  match Route.match? path with
  | some r => .route r
  | none =>
    if shorter ≠ path ∧ (Route.match? shorter).isSome then .moved (a.moved shorter) else .nowhere

/-- Why a parameter is refused. -/
inductive ParameterFault where
  | notInteger (e : Number.IntegerFault)
  | negative
  deriving DecidableEq

/-- The kind of a fault. -/
def ParameterFault.kind : ParameterFault → String
  | notInteger e => e.kind
  | negative => "greater_than_equal"

/-- The text of a fault. -/
def ParameterFault.message : ParameterFault → String
  | notInteger e => e.message
  | negative => "Input should be greater than or equal to 0"

/-- A parameter that is refused. -/
structure RefusedParameter where
  name : String
  fault : ParameterFault
  deriving DecidableEq

/-- A refused parameter in the form of a response. -/
def RefusedParameter.value (p : RefusedParameter) : Value :=
  .list [.text p.fault.kind, .list [.text "query", .text p.name], .text p.fault.message]

/-- A part of the rows of a search. -/
structure Page where
  limit : Int
  offset : Int
  deriving DecidableEq

/-- The limit of a search that names none. -/
def defaultLimit : Int := 50

namespace Request

/-- The value of a parameter; the last of several with one name counts. -/
def parameter? (r : Request) (name : String) : Option String :=
  KeyedList.find? name r.address.parameters.reverse

/-- A count among the parameters. -/
def count (r : Request) (name : String) (default : Int) : Except RefusedParameter Int :=
  match r.parameter? name with
  | none => .ok default
  | some s =>
    match Number.parseInteger s with
    | .error e => .error ⟨name, .notInteger e⟩
    | .ok n => if n < 0 then .error ⟨name, .negative⟩ else .ok n

/-- The page that a request names, or the parameters of it that are refused. -/
def page (r : Request) : Except (List RefusedParameter) Page :=
  match r.count "limit" defaultLimit, r.count "offset" 0 with
  | .ok limit, .ok offset => .ok { limit, offset }
  | .error e, .ok _ => .error [e]
  | .ok _, .error e => .error [e]
  | .error e, .error e' => .error [e, e']

end Request

end ScopeSearch
