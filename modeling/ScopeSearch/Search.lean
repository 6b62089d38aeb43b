import ScopeSearch.Dashboard
import ScopeSearch.SearchResult

/-!
# Searches

A search is a term interpreted against one resource and its dashboard.  The bound on the tokens
that may be scopes is given for the search or configured for all of them.
-/

set_option autoImplicit false

namespace ScopeSearch

/-- The bound that a configured number of tokens stands for: none unless it is positive. -/
def configuredBound (tokens : Int) : Option Int :=
  if 0 < tokens then some tokens else none

/-- A search, and what was reported while the term was interpreted. -/
structure Search where
  result : SearchResult
  events : List Event
  deriving DecidableEq

namespace Search

/-- The bound of a search: the given one, or else the configured one. -/
def bound (given : Option Int) (configured : Int) : Option Int :=
  given.orElse fun _ => configuredBound configured

/-- The search of a resource under a policy that is known. -/
def ofPolicy (policy : ScopePolicy) (responds : String → Bool) (dashboard : Dashboard)
    (term : Option String) (bound : Option Int) : Search :=
  let c := classify term policy responds bound
  let result := SearchResult.ofClassification term dashboard.searchableAttributes c
  { result
    events := c.events ++ [.searchParsed dashboard.name result.words.length result.scopes] }

/-- The search of a resource; a declaration that cannot be read is an error. -/
def start (responds : String → Bool) (dashboard : Dashboard) (term : Option String)
    (bound : Option Int) : Except DeclarationError Search :=
  dashboard.scopePolicy.map fun policy => ofPolicy policy responds dashboard term bound

end Search

end ScopeSearch
