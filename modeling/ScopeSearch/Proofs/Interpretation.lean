import ScopeSearch.SearchResult

/-!
# Results that a term was interpreted as

A result may be put together by hand, and then its filter need not fit its words.  Here are the laws
of those results that a term was interpreted as.
-/

set_option autoImplicit false

namespace ScopeSearch

/-- A result that some term was interpreted as, under some policy and for some scopes, attributes
and bound. -/
def SearchResult.IsInterpretation (result : SearchResult) : Prop :=
  ∃ term responds policy attributes bound,
    result = SearchResult.parse term responds policy attributes bound

/-- An interpretation has one pattern for each attribute, so its filter is known by its attributes
and by whether it filters. -/
theorem parameters_length {result : SearchResult} (h : result.IsInterpretation) :
    result.filter.parameters.length = result.filter.attributes.length := by
  obtain ⟨term, responds, policy, attributes, bound, rfl⟩ := h
  simp only [SearchResult.parse, SearchResult.ofClassification, KeywordFilter.build]
  split <;> simp [KeywordFilter.all]

/-- An interpretation that filters nothing has no patterns. -/
theorem parameters_eq_nil {result : SearchResult} (h : result.IsInterpretation)
    (hunfiltered : result.filter.unfiltered = true) : result.filter.parameters = [] := by
  obtain ⟨term, responds, policy, attributes, bound, rfl⟩ := h
  simp only [SearchResult.parse, SearchResult.ofClassification, KeywordFilter.build] at *
  split at hunfiltered
  · next hblank => rw [if_pos hblank]; rfl
  · cases hunfiltered

end ScopeSearch
