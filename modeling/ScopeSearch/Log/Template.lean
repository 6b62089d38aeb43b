import ScopeSearch.Value.Written

/-!
# Message templates

The message of a log record may be a template, in which a percent sign introduces a conversion: an
optional key in parentheses, flags, a width, a precision and a letter.  The letter chooses the form
of the value: its plain form (`s`), its quoted form (`r`, or `a` for ASCII), an integer in base ten,
eight or sixteen (`d`, `o`, `x`), a number with places, an exponent or significant digits (`f`, `e`,
`g`), or a character (`c`).
-/

set_option autoImplicit false

namespace ScopeSearch

open Number (Double decimalDigits decimalLength roundDiv scaleRatio leadingPlace)

/-- A template that cannot be filled. -/
inductive TemplateError where
  /-- The values do not fit the conversions in number or in kind. -/
  | mismatch
  /-- A key that the values do not have. -/
  | missingKey (key : String)
  /-- The text ends within a conversion. -/
  | incomplete
  /-- The text ends within a key. -/
  | incompleteKey
  /-- A letter that is no conversion, and its position. -/
  | unsupported (letter : Char) (position : Nat)
  /-- A value that is no number, for an integer conversion. -/
  | notANumber (decimal : Bool)
  /-- A value that has no floating-point counterpart. -/
  | noFloat (e : Number.ConversionError)
  /-- A number beyond the range of a conversion. -/
  | outOfRange
  /-- A width that is written with too many digits. -/
  | widthTooBig
  /-- A precision that is written with too many digits. -/
  | precisionTooBig
  /-- An integer of more decimal digits than are written. -/
  | tooManyDigits
  /-- A text that would not fit anywhere. -/
  | tooWide
  deriving DecidableEq

/-- The text of an error, for the errors that have one. -/
def TemplateError.message : TemplateError → String
  | .mismatch => "arguments do not match the template"
  | .missingKey key => Text.quoted key
  | .incomplete => "incomplete format"
  | .incompleteKey => "incomplete format key"
  | .unsupported letter position =>
    "unsupported format character '" ++
      String.ofList [if 31 ≤ letter.toNat ∧ letter.toNat ≤ 126 then letter else '?'] ++
      "' (0x" ++ String.ofList (Nat.toDigits 16 letter.toNat) ++ ") at index " ++ toString position
  | .notANumber false => "cannot convert float NaN to integer"
  | .notANumber true => "cannot convert NaN to integer"
  | .noFloat e => e.message
  | .outOfRange => "number out of range"
  | .widthTooBig => "width too big"
  | .precisionTooBig => "precision too big"
  | .tooManyDigits => LongInteger.message {}
  | .tooWide => "text too wide"

namespace Template

/-- What stands between a percent sign and the letter. -/
structure Spec where
  left : Bool := false
  plus : Bool := false
  blank : Bool := false
  alternate : Bool := false
  zero : Bool := false
  width : Nat := 0
  precision : Option Nat := none

/-- What a template is filled with: values that are taken in order, or a single value, whose entries
are taken by key if it is a mapping. -/
inductive Arguments where
  | each (values : List Value)
  | whole (v : Value)

/-- What keys refer to. -/
inductive Table where
  /-- Keys mean nothing. -/
  | absent
  /-- A collection whose elements have positions and no keys. -/
  | keyless
  | keyed (entries : List (Value × Value))

/-- The values that are still to be written, and what keys refer to. -/
structure Supply where
  pending : List Value
  table : Table

/-- The next value. -/
def Supply.next (s : Supply) : Except TemplateError (Value × Supply) :=
  match s.pending with
  | [] => .error .mismatch
  | v :: rest => .ok (v, { s with pending := rest })

/-- No value is left that would have to be written. -/
def Supply.isUsedUp (s : Supply) : Bool :=
  match s.table with
  | .absent => s.pending.isEmpty
  | _ => true

/-- The key of a conversion, after its opening parenthesis; parentheses inside it are balanced. -/
def scanKey : Nat → List Char → List Char → Option (List Char × List Char)
  | _, _, [] => none
  | depth, seen, ')' :: rest =>
    match depth with
    | 0 => some (seen.reverse, rest)
    | d + 1 => scanKey d (')' :: seen) rest
  | depth, seen, c :: rest => scanKey (if c = '(' then depth + 1 else depth) (c :: seen) rest

/-- Sets a flag, if the character is one. -/
def Spec.withFlag? (s : Spec) (c : Char) : Option Spec :=
  if c = '-' then some { s with left := true }
  else if c = '+' then some { s with plus := true }
  else if c = ' ' then some { s with blank := true }
  else if c = '#' then some { s with alternate := true }
  else if c = '0' then some { s with zero := true }
  else none

/-- The flags at the beginning of a text, and what follows them. -/
def scanFlags (s : Spec) : List Char → Spec × List Char
  | [] => (s, [])
  | c :: rest =>
    match s.withFlag? c with
    | some s => scanFlags s rest
    | none => (s, c :: rest)

/-- The range of a count, and the error for one that is written beyond it. -/
structure CountRange where
  least : Int
  greatest : Int
  tooBig : TemplateError

/-- The range of widths. -/
def widthRange : CountRange :=
  { least := -Int.pow 2 63, greatest := Int.pow 2 63 - 1, tooBig := .widthTooBig }

/-- The range of precisions. -/
def precisionRange : CountRange :=
  { least := -Int.pow 2 31, greatest := Int.pow 2 31 - 1, tooBig := .precisionTooBig }

/-- A count that is given as a value. -/
def CountRange.ofValue (range : CountRange) (v : Value) : Except TemplateError Int := do
  let n ← match v with
    | .int n => pure n
    | .bool b => pure (if b then 1 else 0)
    | _ => throw .mismatch
  if range.least ≤ n ∧ n ≤ range.greatest then return n else throw .outOfRange

/-- A count at the beginning of a text: digits, or an asterisk for the next value. -/
def scanCount (range : CountRange) (supply : Supply) (s : List Char) :
    Except TemplateError (Option Int × List Char × Supply) :=
  match s with
  | '*' :: rest => do
    let (v, supply) ← supply.next
    return (some (← range.ofValue v), rest, supply)
  | _ =>
    let digits := s.takeWhile Char.isDigit
    let n : Int := Number.digitsValue 10 digits
    if digits.isEmpty then .ok (none, s, supply)
    else if range.greatest < n then .error range.tooBig
    else .ok (some n, s.dropWhile Char.isDigit, supply)

/-- Sets the width; a negative one puts the text to the left, and the least one has no counterpart
and is none. -/
def Spec.withWidth (spec : Spec) (n : Int) : Spec :=
  { spec with
    width := if n = widthRange.least then 0 else n.natAbs
    left := spec.left || n < 0 }

/-- The width, the precision and the size letter of a conversion. -/
def scanSizes (spec : Spec) (supply : Supply) (s : List Char) :
    Except TemplateError (Spec × List Char × Supply) := do
  let (width, s, supply) ← scanCount widthRange supply s
  let spec := width.elim spec spec.withWidth
  let (spec, s, supply) ← match s with
    | '.' :: rest => do
      let (precision, rest, supply) ← scanCount precisionRange supply rest
      pure ({ spec with precision := some (precision.getD 0).toNat }, rest, supply)
    | _ => pure (spec, s, supply)
  let s := match s with
    | c :: rest => if c = 'h' ∨ c = 'l' ∨ c = 'L' then rest else s
    | [] => []
  return (spec, s, supply)

/-- Fills a text up to the width of a conversion.  Zeros go between `lead`, a sign and the mark of
a base, and the digits; blanks go around the whole. -/
def pad (spec : Spec) (zeros : Bool) (lead body : List Char) : List Char :=
  let missing := spec.width - (lead.length + body.length)
  if spec.left then lead ++ body ++ List.replicate missing ' '
  else if zeros && spec.zero then lead ++ List.replicate missing '0' ++ body
  else List.replicate missing ' ' ++ lead ++ body

/-- The sign of a number. -/
def signText (spec : Spec) (negative : Bool) : List Char :=
  if negative then ['-'] else if spec.plus then ['+'] else if spec.blank then [' '] else []

/-- A number of characters that no text reaches. -/
def sizeLimit : Nat := Nat.pow 2 24

/-- The precision that no integer is written with. -/
def integerPrecisionLimit : Nat := Nat.pow 2 31 - 3

/-- An integer in a base, with a mark of the base in the alternate form. -/
def integerText (spec : Spec) (base : Nat) (mark : List Char) (upper : Bool) (n : Int) :
    Except TemplateError (List Char) :=
  let digits := Nat.toDigits base n.natAbs
  if integerPrecisionLimit ≤ spec.precision.getD 0 then .error .outOfRange
  else if sizeLimit ≤ spec.precision.getD 0 then .error .tooWide
  else if base = 10 ∧ Number.digitLimit < digits.length then .error .tooManyDigits
  else
    let digits := List.replicate (spec.precision.getD 0 - digits.length) '0' ++ digits
    let digits := if upper then digits.map Char.toUpper else digits
    .ok (pad spec true (signText spec (n < 0) ++ if spec.alternate then mark else []) digits)

/-- The integer part of a number. -/
def integerOf : Value → Except TemplateError Int
  | .bool b => .ok (if b then 1 else 0)
  | .int n => .ok n
  | .uuid u => .ok u.bits
  | .float .nan => .error (.notANumber false)
  | .float x => match x.truncate? with
    | some n => .ok n
    | none => .error .outOfRange
  | .decimal (.nan _ _ _) => .error (.notANumber true)
  | .decimal (.infinite _) => .error .outOfRange
  | .decimal (.finite negative coefficient exponent) =>
    let (n, d) := scaleRatio 10 coefficient 1 exponent
    .ok (if negative then -((n / d : Nat) : Int) else ((n / d : Nat) : Int))
  | _ => .error .mismatch

/-- A value that is an integer itself. -/
def indexOf : Value → Except TemplateError Int
  | .bool b => .ok (if b then 1 else 0)
  | .int n => .ok n
  | _ => .error .mismatch

/-- The floating-point number of a value. -/
def doubleOf : Value → Except TemplateError Double
  | .bool b => .ok (.ofInt (if b then 1 else 0))
  | .int n => match Double.ofInt n with
    | .infinite _ => .error .outOfRange
    | x => .ok x
  | .float x => .ok x
  | .decimal d => match d.toDouble with
    | .ok x => .ok x
    | .error e => .error (.noFloat e)
  | _ => .error .mismatch

/-- A number of units of `10 ^ -places` in positional notation. -/
def fixedDigits (units places : Nat) (point : Bool) : List Char :=
  let digits := decimalDigits units
  let digits := List.replicate (places + 1 - digits.length) '0' ++ digits
  let whole := digits.take (digits.length - places)
  whole ++ if places = 0 then (if point then ['.'] else [])
    else '.' :: digits.drop (digits.length - places)

/-- The digits and the exponent of a ratio that is rounded to `places + 1` significant digits. -/
def rounded (num den places : Nat) : Nat × Int :=
  if num = 0 then (0, 0)
  else
    let place := leadingPlace num den
    let (n, d) := scaleRatio 10 num den (places - place)
    let digits := roundDiv n d
    if decimalLength digits = places + 1 then (digits, place)
    else (digits / 10, place + 1)

/-- A mantissa with places and an exponent of at least two digits. -/
def exponentDigits (digits places : Nat) (exponent : Int) (point : Bool) : List Char :=
  fixedDigits digits places point ++ Number.exponentText exponent

/-- A text with a point and without the zeros at its end. -/
def trimZeros (s : List Char) : List Char :=
  if s.contains '.' then
    ((s.reverse.dropWhile (· = '0')).dropWhile (· = '.')).reverse
  else s

/-- A ratio with a number of significant digits, in the shorter of the two notations. -/
def generalDigits (num den significant : Nat) (alternate : Bool) : List Char :=
  let places := max significant 1 - 1
  let (digits, exponent) := rounded num den places
  let tidy := fun s => if alternate then s else trimZeros s
  if -4 ≤ exponent ∧ exponent ≤ places then
    let fraction := (places - exponent).toNat
    let (n, d) := scaleRatio 10 num den fraction
    tidy (fixedDigits (roundDiv n d) fraction alternate)
  else tidy (fixedDigits digits places alternate) ++ Number.exponentText exponent

/-- A number of significant digits that no finite number has. -/
def ampleDigits : Nat := 2000

/-- The precision of a floating-point number in the notation that a letter chooses.  With an
exponent, the greatest one is as good as none, since one digit more than it cannot be counted; and
digits beyond the last one of a number are not written unless the alternate form asks for them. -/
def doublePrecision (spec : Spec) (letter : Char) : Nat :=
  let precision := spec.precision.getD 6
  if letter = 'e' ∧ precisionRange.greatest ≤ precision then 0
  else if letter = 'g' ∧ !spec.alternate then min precision ampleDigits
  else precision

/-- A finite number in the notation that a letter chooses. -/
def doubleDigits (spec : Spec) (letter : Char) (places num den : Nat) : List Char :=
  if letter = 'f' then
    let (n, d) := scaleRatio 10 num den places
    fixedDigits (roundDiv n d) places spec.alternate
  else if letter = 'e' then
    let (digits, exponent) := rounded num den places
    exponentDigits digits places exponent spec.alternate
  else generalDigits num den places spec.alternate

/-- A floating-point number without its sign in the notation that a letter chooses. -/
def doubleBody (spec : Spec) (letter : Char) : Double → Except TemplateError (List Char)
  | .nan => .ok "nan".toList
  | .infinite _ => .ok "inf".toList
  | .finite _ m e =>
    let places := doublePrecision spec letter
    let (num, den) := scaleRatio 2 m 1 e
    if sizeLimit ≤ places then .error .tooWide
    else .ok (doubleDigits spec letter places num den)

/-- A floating-point number in the notation that a letter chooses. -/
def doubleText (spec : Spec) (letter : Char) (x : Double) : Except TemplateError (List Char) := do
  let negative := match x with
    | .finite negative _ _ => negative
    | .infinite negative => negative
    | .nan => false
  let body ← doubleBody spec letter.toLower x
  let body := if letter.isUpper then body.map Char.toUpper else body
  return pad spec true (signText spec negative) body

/-- A text, cut at the precision. -/
def textOf (spec : Spec) (s : List Char) : List Char :=
  pad spec false [] (match spec.precision with
    | none => s
    | some n => s.take n)

/-- A character, given by itself or by its code point. -/
def characterOf : Value → Except TemplateError Char
  | .int n =>
    if 0 ≤ n ∧ n < 0x110000 then .ok (Char.ofNat n.toNat) else .error .outOfRange
  | .bool b => .ok (Char.ofNat (if b then 1 else 0))
  | v => match v.text?.map String.toList with
    | some [c] => .ok c
    | _ => .error .mismatch

/-- The plain form of a value, if it can be made. -/
def plainForm (v : Value) : Except TemplateError String :=
  if v.isWritable then .ok v.written else .error .tooManyDigits

/-- The quoted form of a value, if it can be made. -/
def quotedForm (v : Value) : Except TemplateError String :=
  if v.isQuotable then .ok v.quoted else .error .tooManyDigits

/-- A value in the form that a letter chooses; `position` is the position of the letter. -/
def convert (spec : Spec) (letter : Char) (position : Nat) (v : Value) :
    Except TemplateError (List Char) :=
  if letter = 's' then do
    return textOf spec (← plainForm v).toList
  else if letter = 'r' then do
    return textOf spec (← quotedForm v).toList
  else if letter = 'a' then do
    return textOf spec ((← quotedForm v).toList.flatMap fun c =>
      if c.toNat < 128 then [c] else Text.codePointEscape c.toNat)
  else if letter = 'd' ∨ letter = 'i' ∨ letter = 'u' then do
    integerText spec 10 [] false (← integerOf v)
  else if letter = 'o' then do
    integerText spec 8 ['0', 'o'] false (← indexOf v)
  else if letter = 'x' ∨ letter = 'X' then do
    integerText spec 16 ['0', letter] (letter = 'X') (← indexOf v)
  else if letter = 'e' ∨ letter = 'E' ∨ letter = 'f' ∨ letter = 'F' ∨ letter = 'g' ∨
      letter = 'G' then do
    doubleText spec letter (← doubleOf v)
  else if letter = 'c' then do
    return pad spec false [] [← characterOf v]
  else .error (.unsupported letter position)

/-- A value in the form that a letter chooses, unless it would be too wide. -/
def convertWithin (spec : Spec) (letter : Char) (position : Nat) (v : Value) :
    Except TemplateError (List Char) :=
  if spec.width < sizeLimit then convert spec letter position v
  else do
    let _ ← convert { spec with width := 0 } letter position v
    throw .tooWide

/-- The key at the beginning of a conversion, and the value under it as the next value. -/
def scanKeyed (supply : Supply) (s : List Char) :
    Except TemplateError (List Char × Supply) :=
  match s with
  | '(' :: rest =>
    match supply.table, scanKey 0 [] rest with
    | .absent, _ => .error .mismatch
    | _, none => .error .incompleteKey
    | .keyless, _ => .error .mismatch
    | .keyed entries, some (key, rest) =>
      match Value.field? (String.ofList key) entries with
      | none => .error (.missingKey (String.ofList key))
      | some v => .ok (rest, { supply with pending := [v] })
  | _ => .ok (s, supply)

/-- One conversion that takes a value, after its percent sign: its text, what follows it, and the
values left.  `size` is the length of the template. -/
def valueConversion (size : Nat) (supply : Supply) (s : List Char) :
    Except TemplateError (List Char × List Char × Supply) := do
  let (s, supply) ← scanKeyed supply s
  let (spec, s) := scanFlags {} s
  let (spec, s, supply) ← scanSizes spec supply s
  match s with
  | [] => throw .incomplete
  | letter :: rest =>
    let (v, supply) ← supply.next
    return (← convertWithin spec letter (size - rest.length - 1) v, rest, supply)

/-- One conversion, after its percent sign; a second percent sign stands for one in the text. -/
def conversion (size : Nat) (supply : Supply) (s : List Char) :
    Except TemplateError (List Char × List Char × Supply) :=
  match s with
  | '%' :: rest => .ok (['%'], rest, supply)
  | s => valueConversion size supply s

/-- The text of a template; every conversion takes at least one character, so the length of the
template bounds the number of steps. -/
def fillWithin (size : Nat) : Nat → Supply → List Char → Except TemplateError (List Char)
  | _, supply, [] => if supply.isUsedUp then .ok [] else .error .mismatch
  | 0, _, _ => .error .incomplete
  | steps + 1, supply, '%' :: rest => do
    let (text, rest, supply) ← conversion size supply rest
    return text ++ (← fillWithin size steps supply rest)
  | steps + 1, supply, c :: rest => do
    return c :: (← fillWithin size steps supply rest)

/-- What keys refer to when a template is filled with a single value. -/
def Table.ofValue (v : Value) : Table :=
  match v.bare with
  | .map entries => .keyed entries
  | .list _ => .keyless
  | .bytes _ => .keyless
  | _ => .absent

namespace Arguments

/-- The arguments of a new record: a single mapping that is not empty is the whole of them. -/
def ofList : List Value → Arguments
  | [v] => if v.isTruthy && v.map?.isSome then .whole v else .each [v]
  | values => .each values

/-- The arguments that a value stands for; a value that is false stands for none. -/
def ofValue (v : Value) : Arguments :=
  if v.isTruthy then
    match v with
    | .tuple items => .each items
    | v => .whole v
  else .each []

/-- The supply of arguments, if there are any. -/
def supply? : Arguments → Option Supply
  | .each [] => none
  | .each values => some { pending := values, table := .absent }
  | .whole v => some { pending := [v], table := .ofValue v }

end Arguments

/-- A template filled with arguments; a text without arguments is no template. -/
def fill (template : String) (arguments : Arguments) : Except TemplateError String :=
  match arguments.supply? with
  | none => .ok template
  | some supply =>
    let s := template.toList
    (fillWithin s.length s.length supply s).map String.ofList

/-- The message that a value gives as a template: its plain form, filled with arguments. -/
def messageOf (template : Value) (arguments : Arguments) : Except TemplateError String := do
  fill (← plainForm template) arguments

end Template

end ScopeSearch
