import ScopeSearch.Number.Literal

/-!
# Binary floating-point numbers

The 64-bit format as data: a number is `mantissa * 2 ^ exponent` with a mantissa below `2 ^ 53` and
an exponent from `-1074` to `971`, and the mantissa is at least `2 ^ 52` unless the exponent is the
least one.  Every operation is exact arithmetic followed by one rounding to the nearest number of
the format, a tie going to the even mantissa.
-/

set_option autoImplicit false

namespace ScopeSearch.Number

/-- A number of the 64-bit format; all numbers that are none are one value. -/
inductive Double where
  | nan
  | infinite (negative : Bool)
  | finite (negative : Bool) (mantissa : Nat) (exponent : Int)
  deriving DecidableEq

/-- The quotient rounded to the nearest integer, a tie going to the even one. -/
def roundDiv (num den : Nat) : Nat :=
  let q := num / den
  let r := num % den
  if 2 * r < den ∨ (2 * r = den ∧ q % 2 = 0) then q else q + 1

/-- The ratio `num / den` multiplied by `base ^ e`, as a ratio. -/
def scaleRatio (base num den : Nat) (e : Int) : Nat × Nat :=
  if 0 ≤ e then (num * base.pow e.toNat, den) else (num, den * base.pow (-e).toNat)

namespace Double

/-- The least exponent of the format. -/
def leastExponent : Int := -1074

/-- The greatest exponent of the format. -/
def greatestExponent : Int := 971

/-- Zero with a sign. -/
def zero (negative : Bool) : Double :=
  .finite negative 0 leastExponent

/-- The exponent at which a positive ratio has a mantissa of 53 bits. -/
def ratioExponent (num den : Nat) : Int :=
  let magnitude : Int := (Nat.log2 num : Int) - Nat.log2 den
  let (n, d) := scaleRatio 2 num den (-magnitude)
  if n < d then magnitude - 53 else magnitude - 52

/-- The number nearest to a ratio of natural numbers. -/
def ofRatio (negative : Bool) (num den : Nat) : Double :=
  if num = 0 then zero negative
  else
    let e := max leastExponent (ratioExponent num den)
    let (n, d) := scaleRatio 2 num den (-e)
    let m := roundDiv n d
    let (m, e) := if m = Nat.pow 2 53 then (Nat.pow 2 52, e + 1) else (m, e)
    if greatestExponent < e then .infinite negative else .finite negative m e

/-- The number nearest to `coefficient * 10 ^ exponent`.  Beyond four hundred places on either side
of the point the result is known without computing the power. -/
def ofDecimal (negative : Bool) (coefficient : Nat) (exponent : Int) : Double :=
  if coefficient = 0 then zero negative
  else
    let places : Int := decimalLength coefficient + exponent
    if 400 < places then .infinite negative
    else if places < -400 then zero negative
    else
      let (n, d) := scaleRatio 10 coefficient 1 exponent
      ofRatio negative n d

/-- The number nearest to an integer. -/
def ofInt (n : Int) : Double :=
  ofRatio (n < 0) n.natAbs 1

/-- A finite number as a sign and a ratio of natural numbers. -/
def ratio? : Double → Option (Bool × Nat × Nat)
  | .finite negative m e => some (negative, scaleRatio 2 m 1 e)
  | _ => none

/-- The number with the other sign. -/
def negate : Double → Double
  | .nan => .nan
  | .infinite negative => .infinite !negative
  | .finite negative m e => .finite (!negative) m e

/-- Neither zero is true, and everything else is. -/
def isZero : Double → Bool
  | .finite _ m _ => m == 0
  | _ => false

/-- The sum of two numbers. -/
def add (x y : Double) : Double :=
  match x, y with
  | .nan, _ => .nan
  | _, .nan => .nan
  | .infinite a, .infinite b => if a = b then .infinite a else .nan
  | .infinite a, _ => .infinite a
  | _, .infinite b => .infinite b
  | .finite a m e, .finite b n f =>
    let low := min e f
    let left : Int := m * Int.pow 2 (e - low).toNat
    let right : Int := n * Int.pow 2 (f - low).toNat
    let sum := (if a then -left else left) + (if b then -right else right)
    if sum = 0 then zero (a && b)
    else
      let (num, den) := scaleRatio 2 sum.natAbs 1 low
      ofRatio (sum < 0) num den

/-- The product of two numbers. -/
def mul (x y : Double) : Double :=
  match x, y with
  | .nan, _ => .nan
  | _, .nan => .nan
  | .infinite a, .infinite b => .infinite (a != b)
  | .infinite a, .finite b n _ => if n = 0 then .nan else .infinite (a != b)
  | .finite a m _, .infinite b => if m = 0 then .nan else .infinite (a != b)
  | .finite a m e, .finite b n f =>
    let (num, den) := scaleRatio 2 (m * n) 1 (e + f)
    ofRatio (a != b) num den

/-- The integer part of a finite number, toward zero. -/
def truncate? : Double → Option Int
  | .finite negative m e =>
    let (n, d) := scaleRatio 2 m 1 e
    some (if negative then -((n / d : Nat) : Int) else ((n / d : Nat) : Int))
  | _ => none

/-- The number written by a text in ASCII: a decimal numeral, an infinity or not a number.  Single
underscores may stand between digits. -/
def parseAscii? (s : List Char) : Option Double :=
  let (negative, body) := splitSign s
  let word := String.ofList (body.map Char.toLower)
  if word = "inf" ∨ word = "infinity" then some (.infinite negative)
  else if word = "nan" then some .nan
  else if underscoresBetweenDigits s then
    (Numeral.parse? (s.filter (· ≠ '_'))).map fun n =>
      ofDecimal n.negative n.coefficient n.exponent
  else none

/-- The number written by a text, in the digits of any script and with spaces around it. -/
def parse? (s : List Char) : Option Double :=
  parseAscii? (inAscii s)

/-- The number is neither an infinity nor not a number. -/
def isFinite : Double → Bool
  | .finite _ _ _ => true
  | _ => false

end Double

end ScopeSearch.Number
