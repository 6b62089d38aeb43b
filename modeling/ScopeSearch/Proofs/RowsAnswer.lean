import ScopeSearch.Application
import ScopeSearch.Proofs.Outcome

/-!
# What an answer with rows shows

Texts and optional texts stand in a response as they are, so the description of a result does.  A
list of rows stands there as a list of as many values.  An answer with rows therefore shows the
number of its items three times, and a description whose words and scopes are together as many as
the tokens of the term.
-/

set_option autoImplicit false

namespace ScopeSearch

/-! ## Values as they stand in a response -/

namespace Value

/-- Elements that are their own response form one that is the same list. -/
theorem responses?_self {n : Nat} {items : List Value} (h : ∀ v ∈ items, v.response? n = some v) :
    responses? n items = some items := by
  induction items with
  | nil => rfl
  | cons v rest ih =>
    rw [List.forall_mem_cons] at h
    simp [responses?, h.1, ih h.2]

/-- A list of texts is its own response. -/
theorem response?_texts (n : Nat) (ss : List String) :
    (texts ss).response? (n + 2) = some (texts ss) := by
  have hitems : ∀ v ∈ ss.map text, v.response? (n + 1) = some v := by
    intro v hv
    obtain ⟨s, -, rfl⟩ := List.mem_map.mp hv
    rfl
  rw [texts, response?, responses?_self hitems]
  rfl

/-- A list of texts that may be missing is its own response. -/
theorem response?_options (n : Nat) (ss : List (Option String)) :
    (list (ss.map ofOption)).response? (n + 2) = some (list (ss.map ofOption)) := by
  have hitems : ∀ v ∈ ss.map ofOption, v.response? (n + 1) = some v := by
    intro v hv
    obtain ⟨s, -, rfl⟩ := List.mem_map.mp hv
    cases s <;> rfl
  rw [response?, responses?_self hitems]
  rfl

/-- A list keeps its length in a response. -/
theorem length_responses? {n : Nat} {items formed : List Value}
    (h : responses? n items = some formed) : formed.length = items.length := by
  induction items generalizing formed with
  | nil =>
    cases h
    rfl
  | cons v rest ih =>
    rw [responses?] at h
    obtain ⟨v', -, h⟩ := Option.bind_eq_some_iff.mp h
    obtain ⟨rest', hrest, h⟩ := Option.bind_eq_some_iff.mp h
    cases h
    rw [List.length_cons, List.length_cons, ih hrest]

/-- The description of a search result is its own response. -/
theorem response?_description (n : Nat) (r : SearchResult) :
    (Response.object (Application.description r)).response? (n + 3) =
      some (Response.object (Application.description r)) := by
  have hentries : responseEntries? (n + 2) ((Application.description r).map fun f =>
      (text f.1, f.2)) = some ((Application.description r).map fun f => (text f.1, f.2)) := by
    simp [Application.description, responseEntries?, responseKey?, response?_texts,
      response?_options]
  rw [Response.object, response?, hentries]
  rfl

end Value

/-! ## Answers with rows -/

/-- The value under a text key of a value, null when there is none. -/
def Value.part (name : String) (v : Value) : Value :=
  Value.field name (v.map?.getD [])

/-- The value under a text key of a body, null when there is none. -/
def Body.part (name : String) : Body → Value
  | .value v => v.part name
  | .plain _ => .null

/-- A body shows as many items as are counted in it and in the total, and as many words and scopes
as the term of a request has tokens. -/
structure Response.AccountsFor (request : Request) (r : Response) : Prop where
  counted : ∃ items, r.body.part "items" = .list items ∧
    r.body.part "total" = .int items.length ∧ r.total = some items.length
  accounted : ∃ words scopes, (r.body.part "search").part "words" = .texts words ∧
    (r.body.part "search").part "scopes" = .texts scopes ∧
    words.length + scopes.length = (termTokens (request.parameter? "q")).length

/-- What happened in front of a response does not change what it accounts for. -/
theorem Response.AccountsFor.after {request : Request} {r : Response} (h : r.AccountsFor request)
    (statements : List Statement) (reported : List Event) :
    (r.after statements reported).AccountsFor request :=
  ⟨h.counted, h.accounted⟩

/-- The fields of an answer with as many items as there are rows, for a page and a result. -/
def rowsFields (page : Page) (result : SearchResult) (items : List Value) : List (String × Value) :=
  [("items", .list items), ("total", .int items.length), ("limit", .int page.limit),
   ("offset", .int page.offset), ("search", Response.object (Application.description result))]

/-- An answer whose words and scopes are all tokens accounts for them and for its items, unless the
server fails. -/
theorem rowsResponse_cases (name : String) {request : Request} (page : Page)
    {result : SearchResult} (rows : List Value)
    (htokens : result.words.length + result.scopes.length =
      (termTokens (request.parameter? "q")).length) :
    let response := Application.rowsResponse name request page result rows
    response.statements = [] ∧
      (response.status = 500 ∧ response.total = none ∨
        response.status = 200 ∧ response.AccountsFor request) := by
  unfold Application.rowsResponse
  cases Value.serializedItems rows with
  | error e => exact ⟨rfl, .inl ⟨rfl, rfl⟩⟩
  | ok items =>
    have hdescription := Value.response?_description 252 result
    cases hitems : Value.responses? 254 items with
    | none =>
      have hanswer : Response.answer (rowsFields page result items) (some items.length) =
          .failed := by
        simp [Response.answer, rowsFields, Value.levelLimit, Value.response?, hitems]
      rw [rowsFields] at hanswer
      dsimp only
      rw [hanswer]
      exact ⟨rfl, .inl ⟨rfl, rfl⟩⟩
    | some formed =>
      have hlength := Value.length_responses? hitems
      have hanswer : Response.answer (rowsFields page result items) (some items.length) =
          { status := 200, body := .value (Response.object (rowsFields page result formed)),
            total := some formed.length } := by
        simp [Response.answer, rowsFields, Value.levelLimit, Value.response?, hitems,
          hdescription, hlength]
      rw [rowsFields] at hanswer
      dsimp only
      rw [hanswer]
      refine ⟨rfl, .inr ⟨rfl, ?_, ?_⟩⟩
      · exact ⟨formed, rfl, rfl, rfl⟩
      · exact ⟨result.words, result.scopes, rfl, rfl, htokens⟩

end ScopeSearch
