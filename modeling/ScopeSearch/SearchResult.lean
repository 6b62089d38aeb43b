import ScopeSearch.Classification

/-!
# Interpreted search terms

The interpretation of a term is its words, its directives and the filter that the words amount to.
It depends on the term, the policy, the scopes of the resource and its searchable attributes, and
on nothing else.
-/

set_option autoImplicit false

namespace ScopeSearch

/-- An interpreted search term. -/
structure SearchResult where
  term : Option String
  words : List String := []
  directives : List Directive := []
  filter : KeywordFilter := .all
  deriving DecidableEq

namespace SearchResult

/-- The names of the scopes. -/
def scopes (r : SearchResult) : List String :=
  r.directives.map Directive.name

/-- The arguments of the scopes. -/
def arguments (r : SearchResult) : List (Option String) :=
  r.directives.map Directive.argument

/-- What was typed for the scopes. -/
def scopesWithArguments (r : SearchResult) : List String :=
  r.directives.map Directive.userInput

/-- The name of the first scope. -/
def scope? (r : SearchResult) : Option String :=
  r.directives.head?.map Directive.name

/-- The scopes with their arguments. -/
def scopeInvocations (r : SearchResult) : List (String × Option String) :=
  r.directives.map fun d => (d.name, d.argument)

/-- The words as one text. -/
def keywordText (r : SearchResult) : String :=
  " ".intercalate r.words

/-- The term is missing or holds blanks alone. -/
def isBlank (r : SearchResult) : Bool :=
  isBlankTerm r.term

/-- The result of a classified term. -/
def ofClassification (term : Option String) (attributes : List String) (c : Classification) :
    SearchResult :=
  { term
    words := c.words
    directives := c.directives
    filter := .build term c.words attributes }

/-- The interpretation of a term. -/
def parse (term : Option String) (responds : String → Bool) (policy : ScopePolicy)
    (attributes : List String) (bound : Option Int) : SearchResult :=
  .ofClassification term attributes (classify term policy responds bound)

end SearchResult

end ScopeSearch
