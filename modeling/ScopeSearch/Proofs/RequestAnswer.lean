import Mathlib.Data.List.Forall2
import ScopeSearch.Proofs.SearchAnswer

/-!
# Sequences of requests

A request may be moved a number of times before it is answered, and is answered as the request that
arrives.  Between requests only the rows of the database change, which no check looks at, so the law
of one answer carries over to every answer of a sequence.
-/

set_option autoImplicit false

namespace ScopeSearch

/-! ## Requests where they arrive -/

/-- The request that a request becomes by being moved, and the route it is answered on. -/
def Request.arrival : Nat → Request → Option (Request × Route)
  | moves, request =>
    match Destination.ofAddress request.address, moves with
    | .route route, _ => some (request, route)
    | .moved address, moves + 1 => Request.arrival moves { request with address }
    | .moved _, 0 => none
    | .nowhere, _ => none

/-- The law of an answer: interpreting a term sends nothing, and neither does a request that arrives
nowhere; a search that arrives is answered by the law of searches. -/
def AnswerLaw (a : Application) (dialect : Dialect) (failure : Option String) (request : Request)
    (response : Response) : Prop :=
  match request.arrival Application.greatestMoves with
  | none => response.status = 404 ∧ response.SendsNothing
  | some (_, .parse _) => response.SendsNothing
  | some (arrived, .run name) => SearchLaw a dialect failure name arrived response

/-- What happened before a response is told in order. -/
theorem after_after (r : Response) (reported reported' : List Event) :
    (r.after [] reported).after [] reported' = r.after [] (reported' ++ reported) := by
  simp [Response.after]

/-- A request is answered as the one that it becomes. -/
theorem respondWithin_arrival (a : Application) (db : Database) (moves : Nat) (request : Request) :
    ∃ reported, a.respondWithin db moves request =
      (match request.arrival moves with
        | some (arrived, route) => a.respondTo db arrived route
        | none => Response.notFound).after [] reported := by
  induction moves generalizing request with
  | zero =>
    unfold Application.respondWithin Request.arrival
    cases Destination.ofAddress request.address <;> exact ⟨_, rfl⟩
  | succ moves ih =>
    unfold Application.respondWithin Request.arrival
    cases Destination.ofAddress request.address with
    | route route => exact ⟨_, rfl⟩
    | nowhere => exact ⟨_, rfl⟩
    | moved address =>
      obtain ⟨reported, hreported⟩ := ih { request with address }
      simp only [hreported]
      exact ⟨_, after_after _ _ _⟩

/-- A request arrives with the method it was sent with. -/
theorem arrival_method {moves : Nat} {request arrived : Request} {route : Route}
    (h : request.arrival moves = some (arrived, route)) : arrived.method = request.method := by
  induction moves generalizing request with
  | zero =>
    unfold Request.arrival at h
    cases hdestination : Destination.ofAddress request.address with
    | route route' =>
      rw [hdestination] at h
      cases h
      rfl
    | moved address =>
      rw [hdestination] at h
      cases h
    | nowhere =>
      rw [hdestination] at h
      cases h
  | succ moves ih =>
    unfold Request.arrival at h
    cases hdestination : Destination.ofAddress request.address with
    | route route' =>
      rw [hdestination] at h
      cases h
      rfl
    | moved address =>
      rw [hdestination] at h
      have hmethod := ih h
      exact hmethod
    | nowhere =>
      rw [hdestination] at h
      cases h

/-- An answer from the program itself sends no statement. -/
theorem answer_sendsNothing (fields : List (String × Value)) :
    (Response.answer fields none).SendsNothing := by
  unfold Response.answer
  split <;> exact ⟨rfl, rfl⟩

/-- Parsing a term sends no statement. -/
theorem parse_sendsNothing (a : Application) (name : String) (request : Request) :
    (a.parse name request).SendsNothing := by
  unfold Application.parse
  cases a.registry.get name with
  | error err => exact ⟨rfl, rfl⟩
  | ok e =>
    dsimp only
    cases a.search e request with
    | error err => exact ⟨rfl, rfl⟩
    | ok search =>
      dsimp only
      cases e.dashboard.afterPolicy.scopeGroups with
      | error err => exact ⟨rfl, rfl⟩
      | ok groups => exact answer_sendsNothing _

/-- One answer obeys the law, whatever rows the database holds. -/
theorem respond_law {settings : Settings} {files : Files} {a : Application} {events : List Event}
    (hstart : Application.start settings files = .ok (a, events)) (db : Database)
    {request : Request} (hmethod : request.method = "GET") :
    AnswerLaw a db.dialect db.failure request (a.respond db request) := by
  have hget : request.method.toUpper = "GET" := by
    rw [hmethod]
    decide +kernel
  have hhead : request.method.toUpper ≠ "HEAD" := by
    rw [hget]
    decide
  rw [Application.respond, if_neg hhead]
  obtain ⟨reported, hreported⟩ := respondWithin_arrival a db Application.greatestMoves request
  rw [hreported]
  unfold AnswerLaw
  cases harrival : request.arrival Application.greatestMoves with
  | none => exact ⟨rfl, rfl, rfl⟩
  | some arrival =>
    obtain ⟨arrived, route⟩ := arrival
    have hserved : arrived.method.toUpper = "GET" := by
      rw [arrival_method harrival, hget]
    dsimp only
    rw [Application.respondTo, if_pos hserved]
    cases route with
    | parse name => exact parse_sendsNothing a name arrived
    | run name =>
      exact (run_law hstart db name arrived).after reported

/-! ## Sequences of requests -/

/-- A response leaves the dialect of the database. -/
theorem afterResponse_dialect (db : Database) (r : Response) :
    (db.afterResponse r).dialect = db.dialect := by
  unfold Database.afterResponse
  split <;> rfl

/-- A response leaves whether the statements of the database fail. -/
theorem afterResponse_failure (db : Database) (r : Response) :
    (db.afterResponse r).failure = db.failure := by
  unfold Database.afterResponse
  split <;> rfl

/-- A program that was started has the settings it was started with. -/
theorem settings_of_start {settings : Settings} {files : Files} {a : Application}
    {events : List Event} (h : Application.start settings files = .ok (a, events)) :
    a.settings = settings := by
  obtain ⟨session, -, h⟩ := bind_eq_ok_iff.mp h
  obtain ⟨loaded, -, h⟩ := bind_eq_ok_iff.mp h
  cases h
  rfl

/-- Requests to an application that has started stay within the configured page and send only what
they should.  A request to interpret a term sends nothing.  A request to search a resource sends at
most one statement, which reads the page that was asked for, within the greatest limit; it sends
none if its parameters, its limit, its resource or a scope is refused; and if it is answered, it
has sent exactly one and accounts for every item and for every token of its term. -/
theorem requests_stay_within_the_configured_page {settings : Settings} {files : Files}
    {a : Application} {events : List Event}
    (hstart : Application.start settings files = .ok (a, events)) (db : Database)
    {requests : List Request} (hmethod : ∀ request ∈ requests, request.method = "GET") :
    a.settings.readMaxLimit = settings.readMaxLimit ∧
      List.Forall₂ (AnswerLaw a db.dialect db.failure) requests (a.respondAll db requests) := by
  refine ⟨by rw [settings_of_start hstart], ?_⟩
  induction requests generalizing db with
  | nil => exact .nil
  | cons request rest ih =>
    rw [List.forall_mem_cons] at hmethod
    -- the law asks the database for its dialect and its failure, and an answer leaves both
    have hrest := ih (db.afterResponse (a.respond db request)) hmethod.2
    rw [afterResponse_dialect, afterResponse_failure] at hrest
    exact .cons (respond_law hstart db hmethod.1) hrest

/-- A file with a resource that has a scope without an argument and one with an argument. -/
def ordersText : String :=
  "resources:\n orders:\n  collection_scopes: [open, state]\n  scopes:\n" ++
    "   open: closed = 0\n   state: state = :value\n"

/-- The file alone. -/
def ordersFiles : Files :=
  { contents := [(Place.child (.start "") "orders.yaml", ordersText.toUTF8)] }

/-- The settings of an application that is described by the file. -/
def ordersSettings : Settings :=
  { dashboardsPath := "orders.yaml" }

/-- A request for a path with a query. -/
def requestFor (path query : String) : Request :=
  { address := { path := path.toList, query := query.toList } }

/-- A search, a term to be interpreted, and searches that are refused one after the other for a
limit, a scope without its argument, a limit that is no number, and a resource that is not there. -/
def ordersRequests : List Request :=
  [requestFor "/search/orders/" "q=Ann+scope:open&limit=2&offset=1",
   requestFor "/search/orders/parse" "q=scope:open", requestFor "/search/orders" "limit=101",
   requestFor "/search/orders" "q=scope:state", requestFor "/search/orders" "limit=x",
   requestFor "/search/nobody" ""]

/-- What is said of an answer: its status, how many statements were sent, and its total. -/
def Response.outline (r : Response) : Nat × Nat × Option Nat :=
  (r.status, r.statements.length, r.total)

/-- The outlines of the answers: of the requests the first alone sends a statement. -/
def ordersOutlines : List (Nat × Nat × Option Nat) :=
  [(200, 1, some 1), (200, 0, none), (400, 0, none), (400, 0, none), (422, 0, none),
   (404, 0, none)]

/-- With the files of the orders the program starts, and the requests are answered as outlined. -/
theorem start_ordersFiles :
    ∃ a events, Application.start ordersSettings ordersFiles = .ok (a, events) ∧
      (a.respondAll { rows := [.int 7] } ordersRequests).map Response.outline = ordersOutlines := by
  have hread : ordersFiles.read? "orders.yaml" = .ok (some ordersText) :=
    read?_alone (by decide +kernel) (by decide +kernel)
  have houtlines : ((({ configuredLevel := ordersSettings.logLevel } : Session).start
      none).toOption.bind fun session =>
        (Configuration.ofText "orders.yaml" (some ordersText)).toOption.map fun entries =>
          let registry := Registry.registerLoaded [] entries
          (Application.respondAll { settings := ordersSettings, registry, session }
            { rows := [.int 7] } ordersRequests).map Response.outline) =
      some ordersOutlines := by
    decide +kernel
  obtain ⟨session, hsession, houtlines⟩ := Option.bind_eq_some_iff.mp houtlines
  obtain ⟨entries, hentries, houtlines⟩ := Option.map_eq_some_iff.mp houtlines
  have hload : Configuration.load ordersFiles ordersSettings.dashboardsPath = .ok entries :=
    (load_of_read hread).trans (toOption_eq_some_iff.mp hentries)
  exact ⟨_, _, start_of_load hload (toOption_eq_some_iff.mp hsession), houtlines⟩

/-- The requests are answered by the law, one of them with rows and each of the others without a
statement. -/
theorem orders_requests_stay_within_the_configured_page :
    ∃ a events, Application.start ordersSettings ordersFiles = .ok (a, events) ∧
      (∀ request ∈ ordersRequests, request.method = "GET") ∧
      (a.settings.readMaxLimit = ordersSettings.readMaxLimit ∧
        List.Forall₂ (AnswerLaw a .sqlite none) ordersRequests
          (a.respondAll { rows := [.int 7] } ordersRequests)) ∧
      (a.respondAll { rows := [.int 7] } ordersRequests).map Response.outline = ordersOutlines := by
  obtain ⟨a, events, hstart, houtlines⟩ := start_ordersFiles
  have hmethod : ∀ request ∈ ordersRequests, request.method = "GET" := by
    simp [ordersRequests, requestFor]
  exact ⟨a, events, hstart, hmethod,
    requests_stay_within_the_configured_page hstart { rows := [.int 7] } hmethod, houtlines⟩

end ScopeSearch
