import ScopeSearch.Proofs.ConfiguredScope
import ScopeSearch.Proofs.ParseAnswer
import ScopeSearch.Proofs.RowsAnswer
import ScopeSearch.Proofs.RunSteps
import ScopeSearch.Proofs.StatementText

/-!
# Searches read within the configured page

A request to search a resource is checked in a fixed order: its parameters, the greatest limit, the
resource, and then, while the statement is planned, the scopes.  Each check either ends the request
with nothing sent or hands on a page whose limit and offset are the ones that were asked for.  So a
statement that is sent reads exactly this page, and an answer with rows has sent exactly one.
-/

set_option autoImplicit false

namespace ScopeSearch

/-! ## Pages -/

/-- A count is the one that a request names, the last of several, or else the default. -/
def Request.Asks (request : Request) (name : String) (default n : Int) : Prop :=
  match request.parameter? name with
  | none => n = default
  | some s => Number.parseInteger s = .ok n

/-- A page is the one that a request names, and neither of its counts is negative. -/
structure Request.AsksForPage (request : Request) (page : Page) : Prop where
  limit : request.Asks "limit" defaultLimit page.limit
  offset : request.Asks "offset" 0 page.offset
  limit_nonneg : 0 ≤ page.limit
  offset_nonneg : 0 ≤ page.offset

/-- A number that is read from a request is the one it asks for, and not negative. -/
theorem count_spec {request : Request} {name : String} {default n : Int} (hdefault : 0 ≤ default)
    (h : request.count name default = .ok n) : request.Asks name default n ∧ 0 ≤ n := by
  unfold Request.count at h
  unfold Request.Asks
  cases hparameter : request.parameter? name with
  | none =>
    simp only [hparameter] at h
    cases h
    exact ⟨rfl, hdefault⟩
  | some s =>
    simp only [hparameter] at h
    cases hnumber : Number.parseInteger s with
    | error fault =>
      simp only [hnumber] at h
      cases h
    | ok m =>
      simp only [hnumber] at h
      split at h
      · cases h
      · next hnonneg =>
        cases h
        exact ⟨hnumber, Int.not_lt.mp hnonneg⟩

/-- A page that is read from a request is the one it asks for. -/
theorem page_spec {request : Request} {page : Page} (h : request.page = .ok page) :
    request.AsksForPage page := by
  unfold Request.page at h
  split at h
  · next limit offset hlimit hoffset =>
    cases h
    obtain ⟨hasked, hnonneg⟩ := count_spec (by decide) hlimit
    obtain ⟨hasked', hnonneg'⟩ := count_spec (by decide) hoffset
    exact ⟨hasked, hasked', hnonneg, hnonneg'⟩
  all_goals cases h

/-- A statement reads a page: it ends in the two clauses, and binds the page under their names. -/
structure Statement.Reads (s : Statement) (page : Page) : Prop where
  clauses : ∃ head, s.sql = head ++ " LIMIT :limit OFFSET :offset"
  limit : s.binds.find? "limit" = some (.int page.limit)
  offset : s.binds.find? "offset" = some (.int page.offset)

/-- The statement for a page has the limit and the offset of that page as its last binds. -/
theorem statement_reads (r : Resource) (c : Condition) (dialect : Dialect) (page : Page) :
    (r.statement c dialect (some page.limit) page.offset).Reads page := by
  have hbinds : (r.statement c dialect (some page.limit) page.offset).binds =
      c.binds.putAll [("limit", .int page.limit), ("offset", .int page.offset)] := rfl
  constructor
  case clauses => exact ⟨_, statement_sql r c dialect (some page.limit) page.offset⟩
  case limit =>
    rw [hbinds, KeyedList.find?_putAll]
    rfl
  case offset =>
    rw [hbinds, KeyedList.find?_putAll]
    rfl

/-! ## Runs -/

/-- The page of a request passes the check of a run. -/
theorem checkPagination_of_page {request : Request} {page : Page} (h : request.page = .ok page) :
    checkPagination (some page.limit) page.offset = .ok () := by
  have hasked := page_spec h
  have hlimit := hasked.limit_nonneg
  have hoffset := hasked.offset_nonneg
  unfold checkPagination
  rw [if_neg (by simpa using hlimit), if_neg (by omega), if_neg (by simp)]

/-- The search of a resource of a started application: all tokens are accounted for, and only a
scope that cannot be applied leaves it without a condition. -/
theorem search_of_start {settings : Settings} {files : Files} {a : Application}
    {events : List Event} (hstart : Application.start settings files = .ok (a, events))
    {name : String} {e : Entry} (hget : a.registry.get name = .ok e) (request : Request) :
    ∃ search, a.search e request = .ok search ∧
      search.result.words.length + search.result.scopes.length =
        (termTokens (request.parameter? "q")).length ∧
      ∀ dialect err, e.resource.whereClause search.result dialect = .error err →
        ∃ d ∈ search.result.directives, err = .inapplicableScope d.name := by
  obtain ⟨entries, hload, hmem⟩ := load_of_start hstart
  obtain ⟨_, described, -, hdefinition⟩ := load_mem hload (hmem name e hget)
  obtain ⟨-, policy, hpolicy⟩ := definition_dashboard hdefinition
  let term := request.parameter? "q"
  let bound := Search.bound none a.settings.maxScopeTokens
  let search := Search.ofPolicy policy e.resource.respondsTo e.dashboard term bound
  have hsearch : a.search e request = .ok search := by
    rw [Application.search, Search.start, hpolicy]
    rfl
  refine ⟨search, hsearch, ?_, ?_⟩
  · have hlength := @length_classify policy e.resource.respondsTo term bound
    rw [SearchResult.scopes, List.length_map]
    exact hlength
  · intro dialect err herr
    have hresponds : ∀ d ∈ search.result.directives, e.resource.respondsTo d.name = true := by
      intro d hd
      obtain ⟨token, -, htoken⟩ := exists_token_of_mem_directives hd
      exact (ofToken_eq_accepted_iff.mp htoken).2.1
    have happlies := appliesAsWritten_of_find? (definition_find? hdefinition) hresponds dialect
    obtain ⟨d, hd, -, rfl⟩ := happlies.refusal err herr
    exact ⟨d, hd, rfl⟩

/-! ## Answers to searches -/

namespace Response

/-- Nothing was sent, and no total is reported. -/
def SendsNothing (r : Response) : Prop :=
  r.statements = [] ∧ r.total = none

/-- Exactly one statement was sent, and it reads the page of a request, which is an allowed one. -/
def SendsPage (greatest : Int) (request : Request) (r : Response) : Prop :=
  ∃ page s, request.page = .ok page ∧ page.limit ≤ greatest ∧ r.statements = [s] ∧ s.Reads page

/-- A refusal sends no statement. -/
theorem refused_sendsNothing (status : Nat) (detail : Value) :
    (refused status detail).SendsNothing :=
  ⟨rfl, rfl⟩

end Response

section Page

variable {a : Application} {db : Database} {name : String} {request : Request} {page : Page}
  {e : Entry} {search : Search}

/-- Where the database cannot be reached, a search of a known resource is refused. -/
theorem runPage_of_unreachable (hpage : request.page = .ok page)
    (hget : a.registry.get name = .ok e) (hsearch : a.search e request = .ok search)
    {reason : String} (hfailure : db.connectionFailure = some reason) :
    a.runPage db name request page =
      (Response.refused 400 (.text reason)).after [] search.events := by
  have hallowed := checkPagination_of_page hpage
  have hplan := Resource.planOn_of_unreachable e.resource hfailure search.result hallowed
  unfold Application.runPage Resource.run
  simp only [hget, hsearch, hplan, List.append_nil]
  rfl

/-- A search that gives its resource no condition is refused over a connection. -/
theorem runPage_of_error (hpage : request.page = .ok page) (hget : a.registry.get name = .ok e)
    (hsearch : a.search e request = .ok search) (hconnected : db.connectionFailure = none)
    {err : RunError} (hwhere : e.resource.whereClause search.result db.dialect = .error err) :
    a.runPage db name request page = (Application.refusal err).after [] search.events := by
  have hallowed := checkPagination_of_page hpage
  have hplan : e.resource.planOn db search.result (some page.limit) page.offset = .error err := by
    rw [Resource.planOn_of_connected e.resource hconnected, Resource.plan_of_page hallowed, hwhere]
    rfl
  unfold Application.runPage Resource.run
  simp [hget, hsearch, hplan]

/-- A search with a scope that cannot be applied is refused, over a connection and without one. -/
theorem runPage_of_inapplicable (hpage : request.page = .ok page)
    (hget : a.registry.get name = .ok e) (hsearch : a.search e request = .ok search)
    {scope : String}
    (hwhere : e.resource.whereClause search.result db.dialect = .error (.inapplicableScope scope)) :
    (a.runPage db name request page).status = 400 ∧
      (a.runPage db name request page).SendsNothing := by
  cases hconnected : db.connectionFailure with
  | some reason =>
    rw [runPage_of_unreachable hpage hget hsearch hconnected]
    exact ⟨rfl, rfl, rfl⟩
  | none =>
    rw [runPage_of_error hpage hget hsearch hconnected hwhere]
    exact ⟨rfl, rfl, rfl⟩

/-- One statement is sent for a condition over a connection, whatever the database makes of it. -/
theorem runPage_of_ok (hpage : request.page = .ok page) (hget : a.registry.get name = .ok e)
    (hsearch : a.search e request = .ok search) (hconnected : db.connectionFailure = none)
    {c : Condition} (hwhere : e.resource.whereClause search.result db.dialect = .ok c) :
    ∃ s events response, a.runPage db name request page = response.after [s] events ∧
      s.Reads page ∧
      ((∃ reason, db.failure = some reason ∧ response = .refused 400 (.text reason)) ∨
        response = Application.rowsResponse name request page search.result db.rows) := by
  have hallowed := checkPagination_of_page hpage
  have hplan : e.resource.planOn db search.result (some page.limit) page.offset =
      .ok (e.resource.statement c db.dialect (some page.limit) page.offset) := by
    rw [Resource.planOn_of_connected e.resource hconnected, Resource.plan_of_page hallowed, hwhere]
    rfl
  have hreads := statement_reads e.resource c db.dialect page
  unfold Application.runPage Resource.run
  simp only [hget, hsearch, hplan]
  cases hfailure : db.failure with
  | some reason => exact ⟨_, _, _, rfl, hreads, .inl ⟨reason, rfl, rfl⟩⟩
  | none => exact ⟨_, _, _, rfl, hreads, .inr rfl⟩

end Page

/-- How a request to search a resource ends: refused before anything is sent, stopped after the
statement was sent, or answered with rows. -/
inductive SearchOutcome (greatest : Int) (failure : Option String) (request : Request)
    (response : Response) : Prop
  | refused (hstatus : response.status = 400 ∨ response.status = 404 ∨ response.status = 422)
      (hnothing : response.SendsNothing)
  | stopped (hpage : response.SendsPage greatest request)
      (hstatus : response.status = 500 ∨ response.status = 400 ∧ failure ≠ none)
      (htotal : response.total = none)
  | answered (hpage : response.SendsPage greatest request) (hstatus : response.status = 200)
      (haccounts : response.AccountsFor request)

/-- A search sends no statement, or the one for the page it was asked for. -/
theorem SearchOutcome.statements {greatest : Int} {failure : Option String} {request : Request}
    {response : Response} (h : SearchOutcome greatest failure request response) :
    response.statements = [] ∨ response.SendsPage greatest request := by
  cases h with
  | refused _ hnothing => exact .inl hnothing.1
  | stopped hpage => exact .inr hpage
  | answered hpage => exact .inr hpage

/-- The law of an answer to a request to search a resource. -/
structure SearchLaw (a : Application) (dialect : Dialect) (failure : Option String) (name : String)
    (request : Request) (response : Response) : Prop where
  at_most_one : response.statements.length ≤ 1
  /-- Every statement reads the page that was asked for, and its limit is an allowed one. -/
  within_page : ∀ s ∈ response.statements, ∃ page, request.AsksForPage page ∧
    page.limit ≤ a.settings.readMaxLimit ∧ s.Reads page
  refused_parameters : ∀ refused, request.page = .error refused →
    response.status = 422 ∧ response.SendsNothing
  excessive_limit : ∀ page, request.page = .ok page → a.settings.readMaxLimit < page.limit →
    response.status = 400 ∧ response.SendsNothing
  unknown_resource : ∀ page, request.page = .ok page → page.limit ≤ a.settings.readMaxLimit →
    (∀ e, a.registry.get name ≠ .ok e) → response.status = 404 ∧ response.SendsNothing
  /-- A search that leaves its resource without a condition has a scope that cannot be applied. -/
  inapplicable_scope : ∀ page e search err, request.page = .ok page →
    page.limit ≤ a.settings.readMaxLimit → a.registry.get name = .ok e →
    a.search e request = .ok search → e.resource.whereClause search.result dialect = .error err →
      (∃ d ∈ search.result.directives, err = .inapplicableScope d.name) ∧
        response.status = 400 ∧ response.SendsNothing
  nothing_found : response.status = 422 ∨ response.status = 404 → response.SendsNothing
  /-- No refusal carries a total, and one that comes after a statement is that of a database. -/
  bad_request : response.status = 400 →
    response.total = none ∧ (response.statements ≠ [] → failure ≠ none)
  answered : response.status = 200 →
    (∃ s, response.statements = [s]) ∧ response.AccountsFor request

section Run

variable {settings : Settings} {files : Files} {a : Application} {events : List Event}
  (hstart : Application.start settings files = .ok (a, events))

/-- A request with parameters that are refused is answered with them. -/
theorem run_of_page_error {db : Database} {name : String} {request : Request}
    {refused : List RefusedParameter} (h : request.page = .error refused) :
    a.run db name request = .refusedParameters refused := by
  rw [Application.run, h]

/-- A limit above the greatest one is refused before the resource is looked up. -/
theorem run_of_excessive {db : Database} {name : String} {request : Request} {page : Page}
    (h : request.page = .ok page) (hlimit : a.settings.readMaxLimit < page.limit) :
    a.run db name request = .limitExceeded a.settings.readMaxLimit := by
  rw [Application.run, h]
  exact if_pos hlimit

/-- A request for a page within the limit runs that page. -/
theorem run_of_allowed {db : Database} {name : String} {request : Request} {page : Page}
    (h : request.page = .ok page) (hlimit : page.limit ≤ a.settings.readMaxLimit) :
    a.run db name request = a.runPage db name request page := by
  rw [Application.run, h]
  exact if_neg (Int.not_lt.mpr hlimit)

/-- A page of a resource that is not known is not found. -/
theorem runPage_of_unknown {db : Database} {name : String} {request : Request} {page : Page}
    (h : ∀ e, a.registry.get name ≠ .ok e) :
    a.runPage db name request page = .unknownResource := by
  unfold Application.runPage
  cases hget : a.registry.get name with
  | error err => rfl
  | ok e => exact absurd hget (h e)

include hstart

/-- Over a connection a search of a known resource within the greatest limit is refused for a scope,
or has sent its statement. -/
theorem runPage_outcome {db : Database} {name : String} {request : Request} {page : Page}
    {e : Entry} (hpage : request.page = .ok page) (hlimit : page.limit ≤ a.settings.readMaxLimit)
    (hget : a.registry.get name = .ok e) (hconnected : db.connectionFailure = none) :
    SearchOutcome a.settings.readMaxLimit db.failure request
      (a.runPage db name request page) := by
  obtain ⟨search, hsearch, hlength, hrefusal⟩ := search_of_start hstart hget request
  cases hwhere : e.resource.whereClause search.result db.dialect with
  | error err =>
    obtain ⟨d, -, rfl⟩ := hrefusal db.dialect err hwhere
    obtain ⟨hstatus, hnothing⟩ := runPage_of_inapplicable hpage hget hsearch hwhere
    exact .refused (.inl hstatus) hnothing
  | ok c =>
    obtain ⟨s, reported, response, hrun, hreads, hresponse⟩ :=
      runPage_of_ok hpage hget hsearch hconnected hwhere
    rw [hrun]
    obtain ⟨reason, hfailure, rfl⟩ | rfl := hresponse
    · refine .stopped ⟨page, s, hpage, hlimit, rfl, hreads⟩ (.inr ⟨rfl, ?_⟩) rfl
      rw [hfailure]
      exact Option.some_ne_none reason
    · obtain ⟨hnone, hcases⟩ := rowsResponse_cases name page db.rows hlength
      have hsent : (Response.after (Application.rowsResponse name request page search.result
          db.rows) [s] reported).statements = [s] := by
        rw [Response.after, hnone]
        rfl
      obtain ⟨hstatus, htotal⟩ | ⟨hstatus, haccounts⟩ := hcases
      · exact .stopped ⟨page, s, hpage, hlimit, hsent, hreads⟩ (.inl hstatus) htotal
      · exact .answered ⟨page, s, hpage, hlimit, hsent, hreads⟩ hstatus
          (haccounts.after [s] reported)

/-- A request to search a resource ends in one of the three ways. -/
theorem run_outcome (db : Database) (name : String) (request : Request) :
    SearchOutcome a.settings.readMaxLimit db.failure request (a.run db name request) := by
  cases hpage : request.page with
  | error refused =>
    rw [run_of_page_error hpage]
    exact .refused (.inr (.inr rfl)) (Response.refused_sendsNothing 422 _)
  | ok page =>
    by_cases hlimit : page.limit ≤ a.settings.readMaxLimit
    case neg =>
      rw [run_of_excessive hpage (Int.not_le.mp hlimit)]
      exact .refused (.inl rfl) (Response.refused_sendsNothing 400 _)
    rw [run_of_allowed hpage hlimit]
    cases hget : a.registry.get name with
    | error err =>
      rw [runPage_of_unknown (by simp [hget])]
      exact .refused (.inr (.inl rfl)) (Response.refused_sendsNothing 404 _)
    | ok e =>
      cases hconnected : db.connectionFailure with
      | some reason =>
        obtain ⟨search, hsearch, -, -⟩ := search_of_start hstart hget request
        rw [runPage_of_unreachable hpage hget hsearch hconnected]
        exact .refused (.inl rfl) ⟨rfl, rfl⟩
      | none => exact runPage_outcome hstart hpage hlimit hget hconnected

/-- A request to search a resource is answered by the law. -/
theorem run_law (db : Database) (name : String) (request : Request) :
    SearchLaw a db.dialect db.failure name request (a.run db name request) := by
  have houtcome := run_outcome hstart db name request
  constructor
  case at_most_one =>
    obtain hnone | ⟨page, s, -, -, hsent, -⟩ := houtcome.statements
    · rw [hnone]
      exact Nat.zero_le 1
    · rw [hsent]
      exact Nat.le_refl 1
  case within_page =>
    intro s hs
    obtain hnone | ⟨page, sent, hpage, hlimit, hsent, hreads⟩ := houtcome.statements
    · rw [hnone] at hs
      cases hs
    · rw [hsent, List.mem_singleton] at hs
      exact ⟨page, page_spec hpage, hlimit, hs ▸ hreads⟩
  case refused_parameters =>
    intro refused h
    rw [run_of_page_error h]
    exact ⟨rfl, Response.refused_sendsNothing 422 _⟩
  case excessive_limit =>
    intro page h hlimit
    rw [run_of_excessive h hlimit]
    exact ⟨rfl, Response.refused_sendsNothing 400 _⟩
  case unknown_resource =>
    intro page h hlimit hunknown
    rw [run_of_allowed h hlimit, runPage_of_unknown hunknown]
    exact ⟨rfl, Response.refused_sendsNothing 404 _⟩
  case inapplicable_scope =>
    intro page e search err h hlimit hget hsearch hwhere
    obtain ⟨search', hsearch', -, hrefusal⟩ := search_of_start hstart hget request
    obtain rfl : search' = search := Except.ok.inj (hsearch'.symm.trans hsearch)
    obtain ⟨d, hd, rfl⟩ := hrefusal db.dialect err hwhere
    rw [run_of_allowed h hlimit]
    exact ⟨⟨d, hd, rfl⟩, runPage_of_inapplicable h hget hsearch hwhere⟩
  case nothing_found =>
    intro hstatus
    cases houtcome with
    | refused _ hnothing => exact hnothing
    | stopped _ hstatus' => omega
    | answered _ hstatus' => omega
  case bad_request =>
    intro hstatus
    cases houtcome with
    | refused _ hnothing => exact ⟨hnothing.2, fun hsent => absurd hnothing.1 hsent⟩
    | stopped _ hstatus' htotal =>
      refine ⟨htotal, fun _ => ?_⟩
      obtain hfailed | ⟨-, hfailure⟩ := hstatus'
      · omega
      · exact hfailure
    | answered _ hstatus' => omega
  case answered =>
    intro hstatus
    cases houtcome with
    | refused hstatus' => omega
    | stopped _ hstatus' => omega
    | answered hpage _ haccounts =>
      obtain ⟨page, s, -, -, hsent, -⟩ := hpage
      exact ⟨⟨s, hsent⟩, haccounts⟩

end Run

/-- What happened in front of a response does not change the law of the search. -/
theorem SearchLaw.after {a : Application} {dialect : Dialect} {failure : Option String}
    {name : String} {request : Request} {response : Response}
    (h : SearchLaw a dialect failure name request response) (reported : List Event) :
    SearchLaw a dialect failure name request (response.after [] reported) :=
  { h with
    answered := fun hstatus =>
      ⟨(h.answered hstatus).1, (h.answered hstatus).2.after [] reported⟩ }

end ScopeSearch
