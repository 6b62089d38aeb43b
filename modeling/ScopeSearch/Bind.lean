import ScopeSearch.KeyedList
import ScopeSearch.Text.Replacement
import ScopeSearch.Value

/-!
# Bind names

A condition refers to its bind values by placeholders, a colon followed by a name.  Two conditions
may use the same names, so each invocation of a scope renames its binds into a namespace of its own.
A placeholder is recognised where the colon does not follow another colon and the name ends at the
edge of a word.
-/

set_option autoImplicit false

namespace ScopeSearch

/-- The bind values of a statement by name. -/
abbrev Binds := KeyedList String Value

/-- A placeholder of the name stands at a colon that follows `previous` and precedes `rest`. -/
def placeholderHere (name : List Char) (previous : Option Char) (rest : List Char) : Bool :=
  previous != some ':' && name.isPrefixOf rest &&
    Text.isBoundary (some (name.getLast?.getD ':')) (rest.drop name.length).head?

/-- A text whose placeholders of a name are replaced; `previous` is the character in front of the
text, and the next `skip` characters belong to the placeholder that was replaced last. -/
def replacePlaceholder (name replacement : List Char) :
    Option Char → Nat → List Char → List Char
  | _, _, [] => []
  | _, skip + 1, c :: rest => replacePlaceholder name replacement (some c) skip rest
  | previous, 0, c :: rest =>
    if c = ':' ∧ placeholderHere name previous rest then
      replacement ++ replacePlaceholder name replacement (some c) name.length rest
    else c :: replacePlaceholder name replacement (some c) 0 rest

/-- A text refers to a bind value by name. -/
def hasPlaceholder (name : List Char) : Option Char → List Char → Bool
  | _, [] => false
  | previous, c :: rest =>
    (c == ':' && placeholderHere name previous rest) || hasPlaceholder name (some c) rest

/-- A text in which one bind is renamed. -/
def renamePlaceholder (name newName sql : String) : Except Text.ReplacementError String := do
  let parts ← Text.replacementParts (':' :: newName.toList)
  let replacement := Text.expandReplacement parts (':' :: name.toList)
  return String.ofList (replacePlaceholder name.toList replacement none 0 sql.toList)

/-- A condition and its binds, renamed one after the other into the namespace `space`. -/
def rebindInto (space : String) (sql : String) (done : Binds) :
    List (String × Value) → Except Text.ReplacementError (String × Binds)
  | [] => .ok (sql, done)
  | (name, v) :: rest => do
    let newName := space ++ name
    let sql ← renamePlaceholder name newName sql
    rebindInto space sql (KeyedList.put newName v done) rest

/-- A condition and its binds, renamed into the namespace `space`. -/
def rebind (space sql : String) (binds : Binds) : Except Text.ReplacementError (String × Binds) :=
  rebindInto space sql [] binds

end ScopeSearch
