import ScopeSearch.Number.Numeral
import ScopeSearch.Text.Alphanumeric
import ScopeSearch.Text.Blank

/-!
# Numbers in the digits of any script

A number may be written in the digits of any script, with spaces around it and with single
underscores between its digits.  It is read as if it were written in ASCII.
-/

set_option autoImplicit false

namespace ScopeSearch.Number

/-- A text without the spaces around it and with ASCII digits. -/
def inAscii (s : List Char) : List Char :=
  Text.withAsciiDigits (Text.trim Text.isSpace s)

/-- Each underscore has a digit on either side. -/
def underscoresBetweenDigits (s : List Char) : Bool :=
  (s.zip (s.drop 1)).all (fun (a, b) =>
    (a != '_' || b.isDigit) && (b != '_' || a.isDigit)) &&
  s.head? != some '_' && s.getLast? != some '_'

/-- The greatest number of decimal digits of an integer. -/
def digitLimit : Nat := 4300

/-- The integer that a text writes. -/
def literalInteger? (s : List Char) : Option Int :=
  let (negative, body) := splitSign (inAscii s)
  let digits := body.filter (· ≠ '_')
  if underscoresBetweenDigits body && allDigits 10 digits && digits.length ≤ digitLimit then
    let n : Int := digitsValue 10 digits
    some (if negative then -n else n)
  else none

end ScopeSearch.Number
