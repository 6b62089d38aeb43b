import ScopeSearch.Directive
import ScopeSearch.Text.Alphanumeric
import ScopeSearch.Text.LowerCase

/-!
# Scope notations

Two notations of a scope are found in a token: `scope:name` or `scope:name(argument)`, where the
leading word may be written in any case, and `name:argument`.  Both are found at the first colon
that follows an ASCII word character and precedes a character other than a line feed; the name is
the whole word in front of that colon and the rest is the remainder of the line.
-/

set_option autoImplicit false

namespace ScopeSearch

/-- The word that introduces the first notation. -/
def scopeWord : String := "scope"

/-- At least one character of the line is left. -/
def lineContinues : List Char → Bool
  | [] => false
  | c :: _ => c != '\n'

/-- The word in front of the first good colon of a text and the rest of its line, where `word` is
the word that ends at the beginning of the text, reversed. -/
def splitAtColon (word : List Char) : List Char → Option (List Char × List Char)
  | [] => none
  | c :: rest =>
    if c = ':' ∧ !word.isEmpty ∧ lineContinues rest then
      some (word.reverse, rest.takeWhile (· ≠ '\n'))
    else if Text.isAsciiWord c then splitAtColon (c :: word) rest
    else splitAtColon [] rest

/-- The word in parentheses at the beginning of a text that follows an opening parenthesis. -/
def callArgument? (s : List Char) : Option (List Char) :=
  let argument := s.takeWhile Text.isAsciiWord
  if !argument.isEmpty ∧ (s.dropWhile Text.isAsciiWord).head? = some ')' then some argument
  else none

/-- The first call in a text: a word, directly followed by a word in parentheses; `word` is the
word that ends at the beginning of the text, reversed. -/
def findCall (word : List Char) : List Char → Option (List Char × List Char)
  | [] => none
  | c :: rest =>
    if c = '(' ∧ !word.isEmpty then
      match callArgument? rest with
      | some argument => some (word.reverse, argument)
      | none => findCall [] rest
    else if Text.isAsciiWord c then findCall (c :: word) rest
    else findCall [] rest

namespace Directive

/-- The directive written as two parts around a colon. -/
def ofParts (left right : String) : Directive :=
  if Text.lower left = scopeWord then
    match findCall [] right.toList with
    | some (name, argument) =>
      { userInput := right, name := String.ofList name, argument := some (String.ofList argument) }
    | none => { userInput := right, name := right }
  else { userInput := wildcard left right, name := left, argument := some right }

/-- The directive that a token would stand for, before any checks. -/
def candidate? (token : String) : Option Directive :=
  (splitAtColon [] token.toList).map fun (left, right) =>
    ofParts (String.ofList left) (String.ofList right)

end Directive

end ScopeSearch
