/-!
# Decimal numerals

A numeral is a sign, digits with at most one point among them, and an exponent of ten.  Reading
one gives the exact number that it writes, as a coefficient and a power of ten.
-/

set_option autoImplicit false

namespace ScopeSearch.Number

/-- The number `coefficient * 10 ^ exponent`, negated if `negative`. -/
structure Numeral where
  negative : Bool
  coefficient : Nat
  exponent : Int
  deriving DecidableEq

/-- The value of an ASCII digit of any base up to sixteen. -/
def digitValue? (c : Char) : Option Nat :=
  if '0' ≤ c ∧ c ≤ '9' then some (c.toNat - 48)
  else if 'a' ≤ c ∧ c ≤ 'f' then some (c.toNat - 87)
  else if 'A' ≤ c ∧ c ≤ 'F' then some (c.toNat - 55)
  else none

/-- The number written by digits, most significant first, after the number `n`. -/
def digitsValueFrom (base : Nat) : Nat → List Char → Nat
  | n, [] => n
  | n, c :: rest => digitsValueFrom base (base * n + (digitValue? c).getD 0) rest

/-- The number written by digits, most significant first. -/
def digitsValue (base : Nat) (s : List Char) : Nat :=
  digitsValueFrom base 0 s

/-- Every character is a digit of the base, and there is one. -/
def allDigits (base : Nat) (s : List Char) : Bool :=
  !s.isEmpty && s.all fun c => (digitValue? c).any (· < base)

/-- A leading sign and what follows it. -/
def splitSign : List Char → Bool × List Char
  | '-' :: rest => (true, rest)
  | '+' :: rest => (false, rest)
  | s => (false, s)

/-- The exponent that ends a numeral: nothing, or `e` with an integer. -/
def exponent? : List Char → Option Int
  | [] => some 0
  | c :: rest =>
    let (negative, digits) := splitSign rest
    if (c = 'e' ∨ c = 'E') ∧ allDigits 10 digits then
      let n : Int := digitsValue 10 digits
      some (if negative then -n else n)
    else none

/-- The numeral that is written by a whole text. -/
def Numeral.parse? (s : List Char) : Option Numeral :=
  let (negative, body) := splitSign s
  let whole := body.takeWhile Char.isDigit
  let afterWhole := body.dropWhile Char.isDigit
  let (fraction, tail) := match afterWhole with
    | '.' :: rest => (rest.takeWhile Char.isDigit, rest.dropWhile Char.isDigit)
    | rest => ([], rest)
  if whole.isEmpty && fraction.isEmpty then none
  else (exponent? tail).map fun e =>
    { negative, coefficient := digitsValue 10 (whole ++ fraction), exponent := e - fraction.length }

/-- The decimal digits of a number. -/
def decimalDigits (n : Nat) : List Char :=
  Nat.toDigits 10 n

/-- The number of decimal digits of a number, one for zero. -/
def decimalLength (n : Nat) : Nat :=
  (decimalDigits n).length

end ScopeSearch.Number
