import ScopeSearch.Http.Response
import ScopeSearch.Log.Session
import ScopeSearch.Registry
import ScopeSearch.Search
import ScopeSearch.Settings
import ScopeSearch.Value.Serialized

/-!
# The application

The application sets up its log, loads its resources, and then answers requests.  A request for a
search is checked in a fixed order: its page, the greatest limit, the resource, and last what the
search itself may refuse.
-/

set_option autoImplicit false

namespace ScopeSearch

/-- An application that has started. -/
structure Application where
  settings : Settings
  registry : Registry
  session : Session

/-- Why an application does not start. -/
inductive StartError where
  | level (e : Level.Error)
  | configuration (e : ConfigurationError)

namespace Application

/-- Starts an application on files, and what it reports by doing so. -/
def start (settings : Settings) (files : Files) :
    Except StartError (Application × List Event) := do
  let session : Session := { configuredLevel := settings.logLevel }
  let session ← (session.start none).mapError StartError.level
  let (registry, loaded) ←
    (Registry.loadFrom [] files settings.dashboardsPath).mapError StartError.configuration
  return ({ settings, registry, session }, [loaded])

/-- The scopes of a result as they are described in a response. -/
def description (r : SearchResult) : List (String × Value) :=
  [("words", Value.texts r.words), ("scopes", Value.texts r.scopes),
   ("arguments", .list (r.arguments.map Value.ofOption)),
   ("scopes_with_arguments", Value.texts r.scopesWithArguments)]

/-- Groups of scopes as they are described in a response. -/
def groupValue (groups : KeyedList String (List String)) : Value :=
  Response.object (groups.map fun g => (g.1, Value.texts g.2))

/-- The event that reports an answer. -/
def served (endpoint : Endpoint) (resource : String) (count : Nat) (request : Request) : Event :=
  .served endpoint resource count (request.traceId.getD "")

/-- The search that a request asks for. -/
def search (a : Application) (e : Entry) (request : Request) : Except DeclarationError Search :=
  Search.start e.resource.respondsTo e.dashboard (request.parameter? "q")
    (Search.bound none a.settings.maxScopeTokens)

/-- Answers a request to interpret a term. -/
def parse (a : Application) (name : String) (request : Request) : Response :=
  match a.registry.get name with
  | .error _ => .unknownResource
  | .ok e =>
    match a.search e request with
    | .error _ => .failed
    | .ok search =>
      let result := search.result
      match e.dashboard.afterPolicy.scopeGroups with
      | .error _ => Response.failed.after [] search.events
      | .ok groups =>
        let fields := description result ++
          [("filter", Value.ofFilter result.filter), ("scope_groups", groupValue groups)]
        (Response.answer fields none).after []
          (search.events ++ [served .parse name result.scopes.length request])

/-- The response to a search that was not run. -/
def refusal (e : RunError) : Response :=
  match e with
  | .unknownScope _ => .failed
  | .raisedByScope _ => .failed
  | .unusableBind _ => .failed
  | e => .refused 400 (.text e.message)

/-- The response to a search with rows. -/
def rowsResponse (name : String) (request : Request) (page : Page) (result : SearchResult)
    (rows : List Value) : Response :=
  match Value.serializedItems rows with
  | .error _ => .failed
  | .ok items =>
    let fields :=
      [("items", .list items), ("total", .int items.length), ("limit", .int page.limit),
       ("offset", .int page.offset), ("search", Response.object (description result))]
    { Response.answer fields (some items.length) with
      events := [served .run name items.length request], takesRows := true }

/-- Answers a search of a resource for a page that is allowed. -/
def runPage (a : Application) (db : Database) (name : String) (request : Request) (page : Page) :
    Response :=
  match a.registry.get name with
  | .error _ => .unknownResource
  | .ok e =>
    match a.search e request with
    | .error _ => .failed
    | .ok search =>
      let run := e.resource.run db search.result (some page.limit) page.offset
      let response := match run.answer with
        | .error e => refusal e
        | .ok rows => rowsResponse name request page search.result rows
      response.after run.statements (search.events ++ run.events)

/-- Answers a request to search a resource. -/
def run (a : Application) (db : Database) (name : String) (request : Request) : Response :=
  match request.page with
  | .error refused => .refusedParameters refused
  | .ok page =>
    if a.settings.readMaxLimit < page.limit then .limitExceeded a.settings.readMaxLimit
    else a.runPage db name request page

/-- Answers a request on a route. -/
def respondOn (a : Application) (db : Database) (request : Request) : Route → Response
  | .parse name => a.parse name request
  | .run name => a.run db name request

/-- Answers a request on a route if its method, in any case, is served. -/
def respondTo (a : Application) (db : Database) (request : Request) (route : Route) : Response :=
  if request.method.toUpper = "GET" then a.respondOn db request route else .methodNotAllowed

/-- The greatest number of times that a request may be moved. -/
def greatestMoves : Nat := 20

/-- Answers a request where its address leads, which may be to another address a number of times.
The server reports every request that it takes. -/
def respondWithin (a : Application) (db : Database) : Nat → Request → Response
  | moves, request =>
    let response := match Destination.ofAddress request.address, moves with
      | .route route, _ => a.respondTo db request route
      | .moved address, moves + 1 => a.respondWithin db moves { request with address }
      | .moved _, 0 => .notFound
      | .nowhere, _ => .notFound
    response.after [] [.requestTaken]

/-- Answers a request; one for the head alone is answered without a body. -/
def respond (a : Application) (db : Database) (request : Request) : Response :=
  let response := a.respondWithin db greatestMoves request
  if request.method.toUpper = "HEAD" then response.withoutBody else response

/-- Answers requests one after the other. -/
def respondAll (a : Application) : Database → List Request → List Response
  | _, [] => []
  | db, request :: rest =>
    let response := a.respond db request
    response :: a.respondAll (db.afterResponse response) rest

/-- The lines that are written for events at a time. -/
def lines (a : Application) (time : String) (events : List Event) : List String :=
  a.session.writeEvents time events

end Application

end ScopeSearch
