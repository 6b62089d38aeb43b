import ScopeSearch.Dialect
import ScopeSearch.Text.Blank
import ScopeSearch.Text.LowerCase

/-!
# Keyword filters

The words of a search term that name no scope become one substring pattern, which every searchable
attribute of a resource is compared with.  A blank term filters nothing.
-/

set_option autoImplicit false

namespace ScopeSearch

/-- A filter on attributes: one pattern for each of them, or no filter at all. -/
structure KeywordFilter where
  unfiltered : Bool
  attributes : List String := []
  parameters : List String := []
  deriving DecidableEq, Inhabited

/-- The comparison of one attribute with a placeholder, in lower case. -/
def comparison (quote : String → String) (table column placeholder : String) : String :=
  "lower(" ++ quote table ++ "." ++ quote column ++ ") LIKE " ++ placeholder

/-- The pattern that matches every text with the words in it, in lower case. -/
def likeParameter (words : List String) : String :=
  "%" ++ Text.lower (" ".intercalate words) ++ "%"

/-- A missing term is blank, and so is one of blanks alone. -/
def isBlankTerm : Option String → Bool
  | none => true
  | some term => Text.isBlankString term

namespace KeywordFilter

/-- The filter that keeps everything. -/
def all : KeywordFilter :=
  { unfiltered := true }

/-- The condition of a filter in SQL, empty when everything is kept. -/
def predicate (f : KeywordFilter) (table : String) (quote : String → String)
    (placeholder : Nat → String) : String :=
  if f.unfiltered then ""
  else " OR ".intercalate
    (f.attributes.mapIdx fun i column => comparison quote table column (placeholder i))

/-- The condition of a filter with double quotes and anonymous placeholders. -/
def defaultPredicate (f : KeywordFilter) (table : String) : String :=
  f.predicate table (quoteIdentifierWith '"') fun _ => "?"

/-- The filter for the words of a term. -/
def build (term : Option String) (words attributes : List String) : KeywordFilter :=
  if isBlankTerm term then all
  else
    { unfiltered := false
      attributes := attributes
      parameters := attributes.map fun _ => likeParameter words }

end KeywordFilter

end ScopeSearch
