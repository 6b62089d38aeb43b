import ScopeSearch.Number.Literal

/-!
# Integers in requests and settings

An integer is written in ASCII digits.  Spaces at the ends and a plus sign do not count; the
information separators, which are blanks in a search term, are no spaces here.  Zeros in front of
the number do not count either, with the underscores among them, and a minus sign may follow them.
Single underscores may join digits, and a point may follow with zeros behind it.
-/

set_option autoImplicit false

namespace ScopeSearch.Number

/-- Why a text is no integer. -/
inductive IntegerFault where
  | malformed
  | tooLong
  deriving DecidableEq

/-- The kind of a fault. -/
def IntegerFault.kind : IntegerFault → String
  | malformed => "int_parsing"
  | tooLong => "int_parsing_size"

/-- The text of a fault. -/
def IntegerFault.message : IntegerFault → String
  | malformed => "Input should be a valid integer, unable to parse string as an integer"
  | tooLong => "Unable to parse input string as an integer, exceeded maximum size"

/-- The integer that a text writes in its normal form: a minus sign or none, and digits without a
zero in front of others. -/
def normalInteger (s : List Char) : Except IntegerFault Int :=
  let negative := s.head? = some '-'
  let body := if negative then s.drop 1 else s
  let digits := body.takeWhile Char.isDigit
  if digits.isEmpty ∨ (digits.head? = some '0' ∧ digits.length ≠ 1) then .error .malformed
  else if digitLimit < digits.length + (if negative then 1 else 0) then .error .tooLong
  else if digits.length ≠ body.length then .error .malformed
  else
    let n : Int := digitsValue 10 digits
    .ok (if negative then -n else n)

/-- A character that begins an integer in its normal form, a zero apart. -/
def isLeading (c : Char) : Bool :=
  c == '-' || ('1' ≤ c && c ≤ '9')

/-- What follows zeros and underscores, the last of which is `last`; that one stays in front of a
point and at the end. -/
def behindZeros (last : Char) : List Char → Option (List Char)
  | [] => some [last]
  | c :: rest =>
    if c = '0' ∨ c = '_' then behindZeros c rest
    else if c = '.' then some (last :: c :: rest)
    else if isLeading c then some (c :: rest)
    else none

/-- A number without the zeros in front of it. -/
def withoutLeadingZeros : List Char → Option (List Char)
  | [] => none
  | c :: rest =>
    if c = '0' then behindZeros c rest else if isLeading c then some (c :: rest) else none

/-- A number without a point that only zeros follow, at least one of them. -/
def withoutZeroFraction (s : List Char) : Option (List Char) :=
  match s.dropWhile (· ≠ '.') with
  | [] => some s
  | _ :: zeros =>
    if !zeros.isEmpty && zeros.all (· == '0') then some (s.takeWhile (· ≠ '.')) else none

/-- Two underscores stand side by side. -/
def hasDoubleJoint : List Char → Bool
  | a :: b :: rest => (a == '_' && b == '_') || hasDoubleJoint (b :: rest)
  | _ => false

/-- A number without the underscores that join its digits. -/
def withoutSingleJoints (s : List Char) : Option (List Char) :=
  if s.head? = some '_' ∨ s.getLast? = some '_' ∨ hasDoubleJoint s then none
  else some (s.filter (· ≠ '_'))

/-- A number without a plus sign, which no minus sign may follow. -/
def withoutPlus : List Char → Option (List Char)
  | '+' :: '-' :: _ => none
  | '+' :: rest => some rest
  | s => some s

/-- The normal form of an integer without spaces around it. -/
def normalForm? (s : List Char) : Option (List Char) :=
  withoutPlus s >>= withoutLeadingZeros >>= withoutZeroFraction >>= withoutSingleJoints

/-- The integer that is written by a text.  One that is too long as it stands is not put into its
normal form. -/
def parseInteger (s : String) : Except IntegerFault Int :=
  let s := Text.trim Text.isSpace s.toList
  match normalInteger s, normalForm? s with
  | .error .tooLong, _ => .error .tooLong
  | _, some s => normalInteger s
  | _, none => .error .malformed

end ScopeSearch.Number
