import ScopeSearch.Number.Double

/-!
# The shortest decimal of a floating-point number

A finite number is written with the fewest decimal digits that read back as the same number; of
the decimals with that many digits that do, the nearest is taken.  Numbers from `1e-4` up to `1e16`
are written positionally, with `.0` for a whole number, and all others with an exponent of at least
two digits.
-/

set_option autoImplicit false

namespace ScopeSearch.Number

/-- The number `digits * 10 ^ exponent`. -/
structure Scaled where
  digits : Nat
  exponent : Int
  deriving DecidableEq

/-- The exponent of the leading digit of a positive ratio below one, by trying places in turn. -/
def leadingPlaceBelow (num den : Nat) : Nat → Nat → Int
  | 0, place => -(place : Int)
  | fuel + 1, place =>
    if den ≤ num * Nat.pow 10 place then -(place : Int)
    else leadingPlaceBelow num den fuel (place + 1)

/-- The exponent `k` with `10 ^ k ≤ num / den < 10 ^ (k + 1)`; a number of the 64-bit format has
fewer than four hundred places. -/
def leadingPlace (num den : Nat) : Int :=
  if den ≤ num then (decimalLength (num / den) : Int) - 1 else leadingPlaceBelow num den 400 1

/-- The two decimals with the last digit at `10 ^ unit` on either side of a ratio, the nearer
first. -/
def neighbours (num den : Nat) (unit : Int) : List Scaled :=
  let (n, d) := scaleRatio 10 num den (-unit)
  let near := roundDiv n d
  let far := if near = n / d then near + 1 else near - 1
  [⟨near, unit⟩, ⟨far, unit⟩]

/-- The first decimal that reads back as `x`, trying `digits`, `digits + 1`, … digits. -/
def shortestFrom (x : Double) (num den : Nat) (place : Int) : Nat → Nat → Scaled
  | 0, digits => ⟨roundDiv (scaleRatio 10 num den (digits - 1 - place)).1
      (scaleRatio 10 num den (digits - 1 - place)).2, place - digits + 1⟩
  | fuel + 1, digits =>
    match (neighbours num den (place - digits + 1)).find?
        (fun c => Double.ofDecimal false c.digits c.exponent = x) with
    | some c => c
    | none => shortestFrom x num den place fuel (digits + 1)

/-- The shortest decimal of the positive number `mantissa * 2 ^ exponent`. -/
def shortest (mantissa : Nat) (exponent : Int) : Scaled :=
  let (num, den) := scaleRatio 2 mantissa 1 exponent
  shortestFrom (.finite false mantissa exponent) num den (leadingPlace num den) 16 1

/-- The digits of a number without the zeros at its end. -/
def significantDigits (n : Nat) : List Char :=
  ((decimalDigits n).reverse.dropWhile (· = '0')).reverse

/-- An exponent with its sign and at least two digits. -/
def exponentText (e : Int) : List Char :=
  let digits := decimalDigits e.natAbs
  'e' :: (if e < 0 then '-' else '+') :: (if digits.length < 2 then '0' :: digits else digits)

/-- A positive decimal as text. -/
def Scaled.text (x : Scaled) : List Char :=
  let point : Int := decimalLength x.digits + x.exponent
  let digits := significantDigits x.digits
  let size : Int := digits.length
  if -3 ≤ point ∧ point ≤ 16 then
    if point ≤ 0 then '0' :: '.' :: List.replicate (-point).toNat '0' ++ digits
    else if size ≤ point then digits ++ List.replicate (point - size).toNat '0' ++ ['.', '0']
    else digits.take point.toNat ++ '.' :: digits.drop point.toNat
  else
    let body := match digits with
      | [d] => [d]
      | d :: rest => d :: '.' :: rest
      | [] => []
    body ++ exponentText (point - 1)

/-- The text of a number. -/
def Double.text : Double → String
  | .nan => "nan"
  | .infinite negative => if negative then "-inf" else "inf"
  | .finite negative m e =>
    let body := if m = 0 then ['0', '.', '0'] else (shortest m e).text
    String.ofList (if negative then '-' :: body else body)

end ScopeSearch.Number
