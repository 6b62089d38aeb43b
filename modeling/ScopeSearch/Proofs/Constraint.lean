import ScopeSearch.Proofs.Classification
import ScopeSearch.Proofs.Outcome
import ScopeSearch.Proofs.Token
import ScopeSearch.Resource

/-!
# Which terms constrain the rows

Whether a term is blank is asked in three places: where it is cut into tokens, where its filter is
built, and of the result itself.  All three agree, because only a blank term has no tokens.  A
condition of a resource is joined from that of the filter, which is there when it filters and has
attributes, and from one condition for each directive.  Joined conditions are never an empty text
unless there are none.  So every row is selected for a blank term, and for one without directives on
a resource without searchable attributes, but for no other.
-/

set_option autoImplicit false

namespace ScopeSearch

/-! ## Conditions -/

/-- Every condition is put in parentheses, so its text shows. -/
theorem joinConditions_sql_eq_empty_iff {conditions : List Condition} :
    (joinConditions conditions).sql = "" ↔ conditions = [] := by
  constructor
  · intro hempty
    cases conditions with
    | nil => rfl
    | cons c rest =>
      have htext := congrArg String.toList hempty
      cases rest <;> simp [joinConditions] at htext
  · rintro rfl
    rfl

/-- The keyword filter is left out if it does not filter or has nothing to look in. -/
theorem keywordCondition_eq_nil_iff {table : String} {dialect : Dialect} {f : KeywordFilter} :
    keywordCondition table dialect f = [] ↔ f.unfiltered = true ∨ f.attributes = [] := by
  unfold keywordCondition
  split
  · next h => simpa using h
  · next h => simpa using h

/-- Invocations that succeed give one condition each. -/
theorem length_scopeConditions {r : Resource} {index : Nat}
    {invocations : List (String × Option String)} {conditions : List Condition}
    (h : r.scopeConditions index invocations = .ok conditions) :
    conditions.length = invocations.length := by
  induction invocations generalizing index conditions with
  | nil =>
    cases h
    rfl
  | cons invocation rest ih =>
    obtain ⟨name, argument⟩ := invocation
    rw [Resource.scopeConditions] at h
    obtain ⟨c, -, h⟩ := bind_eq_ok_iff.mp h
    obtain ⟨others, hothers, h⟩ := bind_eq_ok_iff.mp h
    cases h
    rw [List.length_cons, List.length_cons, ih hothers]

/-- A condition is empty when the filter gives none and there are no directives. -/
theorem whereClause_sql_eq_empty_iff {r : Resource} {result : SearchResult} {dialect : Dialect}
    {c : Condition} (h : r.whereClause result dialect = .ok c) :
    c.sql = "" ↔
      (result.filter.unfiltered = true ∨ result.filter.attributes = []) ∧
        result.directives = [] := by
  unfold Resource.whereClause at h
  obtain ⟨conditions, hconditions, h⟩ := bind_eq_ok_iff.mp h
  cases h
  have hlength := length_scopeConditions hconditions
  have hnone : conditions = [] ↔ result.directives = [] := by
    rw [← List.length_eq_zero_iff, hlength, SearchResult.scopeInvocations, List.length_map,
      List.length_eq_zero_iff]
  rw [joinConditions_sql_eq_empty_iff, List.append_eq_nil_iff, keywordCondition_eq_nil_iff, hnone]

/-- A statement is that of the empty condition only when its own condition is empty. -/
theorem statement_sql_eq_iff {r : Resource} {c : Condition} {dialect : Dialect}
    {limit : Option Int} {offset : Int} :
    (r.statement c dialect limit offset).sql =
      (r.statement { sql := "" } dialect limit offset).sql ↔ c.sql = "" := by
  constructor
  · intro h
    by_cases hempty : c.sql = ""
    · exact hempty
    · unfold Resource.statement at h
      rw [if_neg hempty, if_pos rfl, String.append_left_inj, String.append_left_inj,
        String.append_right_inj] at h
      simp at h
  · intro h
    unfold Resource.statement
    rw [h]

/-! ## Interpretations -/

section Interpretation

variable {term : Option String} {responds : String → Bool} {policy : ScopePolicy}
  {attributes : List String} {bound : Option Int}

/-- A parsed term is left unfiltered exactly if it is blank. -/
theorem parse_unfiltered :
    (SearchResult.parse term responds policy attributes bound).filter.unfiltered =
      isBlankTerm term := by
  unfold SearchResult.parse SearchResult.ofClassification KeywordFilter.build
  cases hblank : isBlankTerm term <;> simp [KeywordFilter.all]

/-- Words and directives share the tokens, and only a blank term has none. -/
theorem isBlankTerm_iff_nil :
    isBlankTerm term = true ↔
      (classify term policy responds bound).words = [] ∧
        (classify term policy responds bound).directives = [] := by
  have hlength : (classify term policy responds bound).words.length +
      (classify term policy responds bound).directives.length = (termTokens term).length :=
    length_classify term bound
  rw [← termTokens_eq_nil_iff, ← List.length_eq_zero_iff, ← List.length_eq_zero_iff,
    ← List.length_eq_zero_iff]
  omega

end Interpretation

/-- A result is blank when it filters nothing, and when it has neither words nor directives; its
words and directives are as many as the tokens of the term; otherwise every attribute is compared
with the words in lower case.  The condition of a resource for it is empty, and so the statement one
that selects every row, when it is blank or has neither searchable attributes nor directives. -/
theorem only_blank_or_bare_results_select_every_row (term : Option String)
    (responds : String → Bool) (policy : ScopePolicy) (attributes : List String)
    (bound : Option Int) :
    let r := SearchResult.parse term responds policy attributes bound
    (r.isBlank = true ↔ r.filter.unfiltered = true) ∧
      (r.isBlank = true ↔ r.words = [] ∧ r.directives = []) ∧
      r.words.length + r.directives.length = (termTokens term).length ∧
      (r.isBlank = false → r.filter.attributes = attributes ∧
        r.filter.parameters =
          List.replicate attributes.length ("%" ++ Text.lower r.keywordText ++ "%")) ∧
      (∀ (resource : Resource) (dialect : Dialect) (c : Condition),
        resource.whereClause r dialect = .ok c →
          (c.sql = "" ↔ r.isBlank = true ∨ r.filter.attributes = [] ∧ r.directives = [])) ∧
      ∀ (resource : Resource) (dialect : Dialect) (limit : Option Int) (offset : Int)
        (sent : Statement), resource.plan r dialect limit offset = .ok sent →
          (sent.sql = (resource.statement { sql := "" } dialect limit offset).sql ↔
            r.isBlank = true ∨ r.filter.attributes = [] ∧ r.directives = []) := by
  intro r
  have hunfiltered : r.isBlank = true ↔ r.filter.unfiltered = true := by
    rw [parse_unfiltered]
    rfl
  have hnil : r.isBlank = true ↔ r.words = [] ∧ r.directives = [] := isBlankTerm_iff_nil
  have hcondition : ∀ (resource : Resource) (dialect : Dialect) (c : Condition),
      resource.whereClause r dialect = .ok c →
        (c.sql = "" ↔ r.isBlank = true ∨ r.filter.attributes = [] ∧ r.directives = []) := by
    intro resource dialect c hc
    rw [whereClause_sql_eq_empty_iff hc, ← hunfiltered]
    constructor
    · rintro ⟨hblank | hattributes, hdirectives⟩
      · exact .inl hblank
      · exact .inr ⟨hattributes, hdirectives⟩
    · rintro (hblank | ⟨hattributes, hdirectives⟩)
      · exact ⟨.inl hblank, (hnil.mp hblank).2⟩
      · exact ⟨.inr hattributes, hdirectives⟩
  refine ⟨hunfiltered, hnil, length_classify term bound, ?_, hcondition, ?_⟩
  · intro hblank
    have hterm : isBlankTerm term = false := hblank
    have hbuild : r.filter =
        { unfiltered := false
          attributes := attributes
          parameters := attributes.map fun _ => likeParameter r.words } := by
      show KeywordFilter.build term r.words attributes = _
      rw [KeywordFilter.build, hterm]
      rfl
    rw [hbuild]
    exact ⟨rfl, List.map_const'⟩
  · intro resource dialect limit offset sent hsent
    unfold Resource.plan at hsent
    obtain ⟨_, -, hsent⟩ := bind_eq_ok_iff.mp hsent
    obtain ⟨c, hc, hsent⟩ := bind_eq_ok_iff.mp hsent
    cases hsent
    rw [statement_sql_eq_iff]
    exact hcondition resource dialect c hc

/-- A directive alone constrains a resource without searchable attributes. -/
theorem directive_alone_constrains_bare_resource :
    let customers : Resource :=
      { table := "customers"
        scopes := [("active", (ScopeTemplate.ofCondition "lifetime_value > 0").toScope)] }
    let r := SearchResult.parse (some "\u2003scope:active") customers.respondsTo .unrestricted []
      none
    let c : Condition := { sql := "(lifetime_value > 0)" }
    let sent := customers.statement c .sqlite (some 10) 0
    r.isBlank = false ∧ r.filter.attributes = [] ∧ r.filter.parameters = [] ∧
      customers.whereClause r .sqlite = .ok c ∧
      customers.plan r .sqlite (some 10) 0 = .ok sent ∧
      (c.sql = "" ↔ r.isBlank = true ∨ r.filter.attributes = [] ∧ r.directives = []) ∧
      (sent.sql = (customers.statement { sql := "" } .sqlite (some 10) 0).sql ↔
        r.isBlank = true ∨ r.filter.attributes = [] ∧ r.directives = []) := by
  intro customers r c sent
  have hblank : r.isBlank = false := by decide +kernel
  have hinvocations : r.scopeInvocations = [("active", none)] := by decide +kernel
  have hfilter : r.filter = { unfiltered := false, attributes := [], parameters := [] } := by
    decide +kernel
  have hcondition : customers.whereClause r .sqlite = .ok c := by
    unfold Resource.whereClause
    rw [hinvocations, hfilter]
    rfl
  have hplan : customers.plan r .sqlite (some 10) 0 = .ok sent := by
    unfold Resource.plan
    rw [hcondition]
    rfl
  obtain ⟨-, -, -, hparameters, hempty, hall⟩ := only_blank_or_bare_results_select_every_row
    (some "\u2003scope:active") customers.respondsTo .unrestricted [] none
  obtain ⟨hattributes, hnone⟩ := hparameters hblank
  exact ⟨hblank, hattributes, hnone, hcondition, hplan, hempty customers .sqlite c hcondition,
    hall customers .sqlite (some 10) 0 sent hplan⟩

end ScopeSearch
