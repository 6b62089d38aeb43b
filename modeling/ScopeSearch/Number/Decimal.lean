import ScopeSearch.Number.Double
import ScopeSearch.Text.Blank

/-!
# Decimal numbers

A decimal keeps its coefficient and its exponent apart, so that `1.50` and `1.5` are written
differently.  Its text is positional while the exponent is not positive and the leading digit
stands at most six places after the point; otherwise one digit stands before the point and an
exponent follows.
-/

set_option autoImplicit false

namespace ScopeSearch.Number

/-- A decimal number, an infinity, or a value that is no number. -/
inductive Decimal where
  | nan (negative signaling : Bool) (payload : List Char)
  | infinite (negative : Bool)
  | finite (negative : Bool) (coefficient : Nat) (exponent : Int)
  deriving DecidableEq

/-- A decimal has no floating-point counterpart. -/
inductive ConversionError where
  | signalingNan
  deriving DecidableEq

/-- The text of a failed conversion. -/
def ConversionError.message : ConversionError → String
  | .signalingNan => "cannot convert signaling NaN to float"

namespace Decimal

/-- The payload digits of a value that is no number, without leading zeros. -/
def payload? (s : List Char) : Option (List Char) :=
  if s.all Char.isDigit then some (s.dropWhile (· = '0')) else none

/-- The special value named by a text in lower case. -/
def special? (negative : Bool) (word : List Char) : Option Decimal :=
  if word = "inf".toList ∨ word = "infinity".toList then some (.infinite negative)
  else match word with
    | 's' :: 'n' :: 'a' :: 'n' :: rest => (payload? rest).map (.nan negative true ·)
    | 'n' :: 'a' :: 'n' :: rest => (payload? rest).map (.nan negative false ·)
    | _ => none

/-- The decimal that is written by a text, in the digits of any script; blanks at the ends and
underscores do not count. -/
def parse? (s : List Char) : Option Decimal :=
  let s := Text.withAsciiDigits ((Text.trim Text.isBlank s).filter (· ≠ '_'))
  let (negative, body) := splitSign s
  match special? negative (body.map Char.toLower) with
  | some d => some d
  | none => (Numeral.parse? s).map fun n => .finite n.negative n.coefficient n.exponent

/-- The text of an exponent, with its sign. -/
def exponentSuffix (e : Int) : List Char :=
  if e = 0 then [] else 'E' :: (if e < 0 then '-' else '+') :: decimalDigits e.natAbs

/-- The text of a coefficient and an exponent. -/
def finiteText (coefficient : Nat) (exponent : Int) : List Char :=
  let digits := decimalDigits coefficient
  let leading : Int := exponent + digits.length
  let point : Int := if exponent ≤ 0 ∧ -6 < leading then leading else 1
  let body :=
    if point ≤ 0 then '0' :: '.' :: List.replicate (-point).toNat '0' ++ digits
    else if (digits.length : Int) ≤ point then
      digits ++ List.replicate (point - digits.length).toNat '0'
    else digits.take point.toNat ++ '.' :: digits.drop point.toNat
  body ++ exponentSuffix (leading - point)

/-- The text of a decimal. -/
def text : Decimal → String
  | .nan negative signaling payload =>
    String.ofList ((if negative then ['-'] else []) ++ (if signaling then ['s'] else []) ++
      "NaN".toList ++ payload)
  | .infinite negative => if negative then "-Infinity" else "Infinity"
  | .finite negative coefficient exponent =>
    String.ofList ((if negative then ['-'] else []) ++ finiteText coefficient exponent)

/-- The nearest floating-point number. -/
def toDouble : Decimal → Except ConversionError Double
  | .nan _ true _ => .error .signalingNan
  | .nan _ false _ => .ok .nan
  | .infinite negative => .ok (.infinite negative)
  | .finite negative coefficient exponent => .ok (.ofDecimal negative coefficient exponent)

/-- A zero of either sign. -/
def isZero : Decimal → Bool
  | .finite _ coefficient _ => coefficient == 0
  | _ => false

end Decimal

end ScopeSearch.Number
