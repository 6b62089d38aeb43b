import ScopeSearch.Text.Quoted
import ScopeSearch.Number.Numeral

/-!
# Universally unique identifiers

An identifier of 128 bits, written as 32 hexadecimal digits in groups of 8, 4, 4, 4 and 12.
-/

set_option autoImplicit false

namespace ScopeSearch

/-- An identifier of 128 bits. -/
structure Uuid where
  bits : Nat
  deriving DecidableEq

namespace Uuid

/-- Groups of given sizes, joined by hyphens. -/
def grouped : List Nat → List Char → List Char
  | [], _ => []
  | [n], s => s.take n
  | n :: rest, s => s.take n ++ '-' :: grouped rest (s.drop n)

/-- The text of an identifier. -/
def text (u : Uuid) : String :=
  String.ofList (grouped [8, 4, 4, 4, 12] (Text.hexDigits 32 u.bits))

/-- The identifier with the digits of a text; braces around it and hyphens do not count. -/
def parse? (s : List Char) : Option Uuid :=
  let digits := s.filter fun c => c ≠ '\x7b' ∧ c ≠ '\x7d' ∧ c ≠ '-'
  if digits.length = 32 ∧ Number.allDigits 16 digits then some ⟨Number.digitsValue 16 digits⟩
  else none

end Uuid

end ScopeSearch
