/-!
# SQL dialects

A database brings its dialect, which says how an identifier is written into a statement.  Three
dialects put it between quotes: they differ in the quote and in whether a percent sign inside is
doubled.
-/

set_option autoImplicit false

namespace ScopeSearch

/-- The dialect of a database. -/
structure Dialect where
  /-- An identifier as it stands in a statement. -/
  quoteIdentifier : String → String

/-- A text with every occurrence of a character written twice. -/
def doubled (c : Char) (s : List Char) : List Char :=
  s.flatMap fun x => if x = c then [x, x] else [x]

/-- An identifier between two quotes, each quote inside it written twice. -/
def quoteIdentifierWith (quote : Char) (identifier : String) : String :=
  String.ofList (quote :: doubled quote identifier.toList ++ [quote])

namespace Dialect

/-- The dialect that puts an identifier between two quotes. -/
def quoting (quote : Char) : Dialect :=
  { quoteIdentifier := quoteIdentifierWith quote }

/-- The dialect that puts an identifier between two quotes, with every percent sign doubled. -/
def quotingFormat (quote : Char) : Dialect :=
  { quoteIdentifier := fun identifier =>
      quoteIdentifierWith quote (String.ofList (doubled '%' identifier.toList)) }

/-- The dialect of SQLite. -/
def sqlite : Dialect := quoting '"'

/-- The dialect of PostgreSQL. -/
def postgresql : Dialect := quotingFormat '"'

/-- The dialect of MySQL. -/
def mysql : Dialect := quotingFormat '\x60'

/-- Writing an identifier brings no colon into a statement. -/
def AddsNoColon (d : Dialect) : Prop :=
  ∀ identifier : String, ':' ∉ identifier.toList → ':' ∉ (d.quoteIdentifier identifier).toList

end Dialect

end ScopeSearch
