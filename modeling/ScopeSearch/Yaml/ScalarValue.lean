import ScopeSearch.Text.Base64
import ScopeSearch.Text.LowerCase
import ScopeSearch.Value
import ScopeSearch.Yaml.Cursor
import ScopeSearch.Yaml.Tag

/-!
# The values of YAML scalars

The tag of a scalar says how its text is read.  A tag that was written out may not fit the text,
and then the scalar has no value.
-/

set_option autoImplicit false

namespace ScopeSearch.Yaml

open Number (Double allDigits digitLimit digitsValue inAscii splitSign)

/-- A text without underscores. -/
def withoutJoints (s : String) : String :=
  String.ofList (s.toList.filter (· != '_'))

/-- The letter that may stand behind a zero in front of the digits of a base. -/
def baseLetter? (base : Nat) : Option Char :=
  if base = 2 then some 'b'
  else if base = 8 then some 'o'
  else if base = 16 then some 'x'
  else none

/-- The digits of a base behind a zero and its letter, if these are there. -/
def withoutBaseMark (base : Nat) : List Char → List Char
  | '0' :: c :: rest => if baseLetter? base = some c.toLower then rest else '0' :: c :: rest
  | s => s

/-- The integer that a text writes in a base, in the digits of any script. -/
def integerIn (base : Nat) (s : String) : Read Int :=
  let (negative, body) := splitSign (inAscii s.toList)
  let digits := withoutBaseMark base body
  let count := (digits.takeWhile Char.isDigit).length
  if base = 10 ∧ digitLimit < count then .error (.tooManyDigits count)
  else if allDigits base digits then
    let n : Int := digitsValue base digits
    .ok (if negative then -n else n)
  else .error (.integer base s)

/-- The number that a text writes. -/
def floatOf (s : String) : Read Double :=
  match Double.parse? s.toList with
  | some x => .ok x
  | none => .error (.float s)

/-- The parts of a text between colons. -/
def sixties (s : List Char) : List String :=
  (Tag.colonParts s).map String.ofList

/-- The number with integer digits in base sixty. -/
def integerOfSixties (digits : List Int) : Int :=
  digits.foldl (fun n d => 60 * n + d) 0

/-- The sum of digits, the least first, each multiplied by a power of sixty. -/
def floatOfSixties (place : Nat) (sum : Double) : List Double → Read Double
  | [] => .ok sum
  | d :: rest =>
    let power := Double.ofInt (60 ^ place)
    if power.isFinite then floatOfSixties (place + 1) (sum.add (d.mul power)) rest
    else .error .tooManySixties

/-- An integer. -/
def integerValue (text : String) : Read Int := do
  let s := (withoutJoints text).toList
  if s.isEmpty then throw .emptyNumber
  let (negative, body) := splitSign s
  let n ← match body with
    | [] => throw .emptyNumber
    | '0' :: [] => pure 0
    | '0' :: 'b' :: digits => integerIn 2 (String.ofList digits)
    | '0' :: 'x' :: digits => integerIn 16 (String.ofList digits)
    | '0' :: _ => integerIn 8 (String.ofList body)
    | _ =>
      if body.contains ':' then
        (sixties body).mapM (integerIn 10) |>.map integerOfSixties
      else integerIn 10 (String.ofList body)
  return if negative then -n else n

/-- The sign of a floating-point number, and the rest of its text in lower case. -/
def floatParts (text : String) : Bool × List Char :=
  splitSign (Text.lower (withoutJoints text)).toList

/-- A text that writes the value which is not a number with a point. -/
def isPointedNan (text : String) : Bool :=
  (floatParts text).2 = ".nan".toList

/-- A floating-point number. -/
def floatValue (text : String) : Read Double := do
  if (withoutJoints text).isEmpty then throw .emptyNumber
  let (negative, body) := floatParts text
  let word := String.ofList body
  let x ←
    if word = ".inf" then pure (Double.infinite false)
    else if word = ".nan" then pure Double.nan
    else if body.contains ':' then do
      let digits ← (sixties body).mapM floatOf
      floatOfSixties 0 (Double.zero false) digits.reverse
    else floatOf word
  return if negative then x.negate else x

/-- A truth value. -/
def truthValue (text : String) : Read Bool :=
  let word := Text.lower text
  if ["yes", "true", "on"].contains word then .ok true
  else if ["no", "false", "off"].contains word then .ok false
  else .error (.truth word)

/-- The number that decimal digits write. -/
def wholeNumber (digits : List Char) : Nat :=
  digitsValue 10 digits

/-- A step that fails when a date or a time does not exist. -/
def calendarStep {α : Type} (found : Except CalendarError α) : Read α :=
  found.mapError .calendar

/-- The offset of a timestamp in minutes; an offset of a day or more does not exist. -/
def offsetMinutes : Option Char × List Char × List Char → Read Int
  | (none, _, _) => .ok 0
  | (some sign, hours, minutes) =>
    let distance : Int := wholeNumber hours * 60 + wholeNumber minutes
    let offset := if sign = '-' then -distance else distance
    if distance < 1440 then .ok offset else .error (.calendar (.offset offset))

/-- A date, or a moment if it has a time of day. -/
def timestampValue (text : String) : Read Value :=
  match Tag.timestampParts? (Tag.withoutFinalBreak text.toList) with
  | none => .error .moment
  | some (year, month, day, clock) => do
    let date := Date.ofParts (wholeNumber year) (wholeNumber month) (wholeNumber day)
    match clock with
    | none => return .date (← calendarStep date)
    | some clock =>
      let offset ← clock.offset.mapM offsetMinutes
      let fraction := (clock.fraction ++ List.replicate 6 '0').take 6
      let moment ← calendarStep <| DateTime.ofParts (← calendarStep date) (wholeNumber clock.hour)
        (wholeNumber clock.minute) (wholeNumber clock.second) (wholeNumber fraction) offset
      return .dateTime moment

/-- The value of a scalar with a tag. -/
def scalarValue (tag : Tag) (text : String) : Read Value :=
  match tag with
  | .null => .ok .null
  | .bool => (truthValue text).map .bool
  | .int => (integerValue text).map .int
  | .float => (floatValue text).map .float
  | .timestamp => timestampValue text
  | .text => .ok (.text text)
  | .binary =>
    match Text.base64? text.toList with
    | some octets =>
      if text.toList.all (·.toNat < 128) then .ok (.bytes octets) else .error .malformed
    | none => .error .malformed
  | _ => .error .malformed

end ScopeSearch.Yaml
