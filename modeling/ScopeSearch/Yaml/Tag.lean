import ScopeSearch.Number.Numeral

/-!
# YAML tags

A tag is the type of a node.  A plain scalar without a tag has the one that its text suggests: the
words for nothing and for truth values, numbers in several bases, dates and times, and the two
indicators of a mapping, for merging and for a default value.  Every other text is text.
-/

set_option autoImplicit false

namespace ScopeSearch.Yaml

/-- The type of a node. -/
inductive Tag where
  | null
  | bool
  | int
  | float
  | binary
  | timestamp
  | text
  | sequence
  | mapping
  | set
  | orderedPairs
  | pairs
  | merge
  | default
  | unknown
  deriving DecidableEq

/-- The space that the names of the tags of the language begin with. -/
def tagSpace : String := "tag:yaml.org,2002:"

namespace Tag

/-- The names of the tags of the language. -/
def names : List (String × Tag) :=
  [("null", null), ("bool", bool), ("int", int), ("float", float), ("binary", binary),
   ("timestamp", timestamp), ("str", text), ("seq", sequence), ("map", mapping), ("set", set),
   ("omap", orderedPairs), ("pairs", pairs)]

/-- The tag with a full name; the tags for merging and for default values cannot be named with
effect. -/
def ofName (name : String) : Tag :=
  ((names.find? fun p => tagSpace ++ p.1 == name).map Prod.snd).getD <|
    if name = tagSpace ++ "merge" then merge
    else if name = tagSpace ++ "value" then default
    else unknown

/-- A text without a leading sign. -/
def unsigned (s : List Char) : List Char :=
  (Number.splitSign s).2

/-- A digit or an underscore. -/
def isDigitOrJoint (c : Char) : Bool :=
  c.isDigit || c == '_'

/-- A digit, and then digits and underscores. -/
def isWhole : List Char → Bool
  | [] => false
  | c :: rest => c.isDigit && rest.all isDigitOrJoint

/-- A number below sixty in one or two digits. -/
def isSixtieth : List Char → Bool
  | [c] => c.isDigit
  | [a, b] => '0' ≤ a && a ≤ '5' && b.isDigit
  | _ => false

/-- The parts of a text between colons. -/
def colonParts (s : List Char) : List (List Char) :=
  s.splitOn ':'

/-- The digits of a whole number in base ten or, with colons, in base sixty. -/
def isWholeOrSixties (s : List Char) : Bool :=
  match colonParts s with
  | [] => false
  | first :: others => isWhole first && others.all isSixtieth

/-- An integer: binary, octal, decimal, hexadecimal or in base sixty. -/
def isInteger (s : List Char) : Bool :=
  match unsigned s with
  | '0' :: 'b' :: digits => !digits.isEmpty && digits.all fun c => c == '0' || c == '1' || c == '_'
  | '0' :: 'x' :: digits =>
    !digits.isEmpty && digits.all fun c => c == '_' || (Number.digitValue? c).isSome
  | '0' :: digits => digits.all fun c => c == '_' || ('0' ≤ c && c ≤ '7')
  | body => isWholeOrSixties body

/-- Nothing, or an exponent of ten with a sign. -/
def isSignedExponent : List Char → Bool
  | [] => true
  | e :: sign :: digits =>
    (e == 'e' || e == 'E') && (sign == '+' || sign == '-') && !digits.isEmpty &&
      digits.all Char.isDigit
  | _ => false

/-- A floating-point number: digits around a point, with an exponent if need be, whole digits in
base sixty in front of the point, an infinity, or not a number. -/
def isFloat (s : List Char) : Bool :=
  let body := unsigned s
  let whole := body.takeWhile (· != '.')
  let fraction := (body.dropWhile (· != '.')).drop 1
  let places := fraction.takeWhile isDigitOrJoint
  let tail := fraction.dropWhile isDigitOrJoint
  if !body.contains '.' then false
  else if whole.isEmpty then
    [".inf", ".Inf", ".INF"].contains (String.ofList body) ||
      [".nan", ".NaN", ".NAN"].contains (String.ofList s) ||
      (s == body && isWhole places && isSignedExponent tail)
  else isWholeOrSixties whole && isSignedExponent tail && (tail.isEmpty || !whole.contains ':')

/-- The time of day and the offset of a timestamp, behind its date. -/
structure Clock where
  hour : List Char
  minute : List Char
  second : List Char
  fraction : List Char
  offset : Option (Option Char × List Char × List Char)

/-- One or two digits at the beginning of a text, and the rest. -/
def oneOrTwoDigits : List Char → Option (List Char × List Char)
  | a :: b :: rest =>
    if a.isDigit && b.isDigit then some ([a, b], rest)
    else if a.isDigit then some ([a], b :: rest) else none
  | [a] => if a.isDigit then some ([a], []) else none
  | [] => none

/-- Two digits behind a character, and the rest. -/
def twoDigitsBehind (mark : Char) : List Char → Option (List Char × List Char)
  | m :: a :: b :: rest => if m == mark && a.isDigit && b.isDigit then some ([a, b], rest) else none
  | _ => none

/-- The offset that ends a timestamp: none, a `Z`, or a sign with hours and maybe minutes. -/
def timestampOffset? (s : List Char) : Option (Option (Option Char × List Char × List Char)) :=
  match s.dropWhile fun c => c == ' ' || c == '\t' with
  | [] => if s.isEmpty then some none else none
  | ['Z'] => some (some (none, [], []))
  | sign :: rest =>
    if sign == '+' || sign == '-' then
      match oneOrTwoDigits rest with
      | some (hours, []) => some (some (some sign, hours, []))
      | some (hours, tail) =>
        match twoDigitsBehind ':' tail with
        | some (minutes, []) => some (some (some sign, hours, minutes))
        | _ => none
      | none => none
    else none

/-- The time of day that ends a timestamp. -/
def timestampClock? (s : List Char) : Option Clock :=
  let isGap := fun (c : Char) => c == ' ' || c == '\t'
  let body := match s with
    | 'T' :: rest => some rest
    | 't' :: rest => some rest
    | c :: rest => if isGap c then some (rest.dropWhile isGap) else none
    | [] => none
  do
    let (hour, rest) ← oneOrTwoDigits (← body)
    let (minute, rest) ← twoDigitsBehind ':' rest
    let (second, rest) ← twoDigitsBehind ':' rest
    let (fraction, rest) := match rest with
      | '.' :: rest => (rest.takeWhile Char.isDigit, rest.dropWhile Char.isDigit)
      | rest => ([], rest)
    let offset ← timestampOffset? rest
    return { hour, minute, second, fraction, offset }

/-- The parts of a timestamp: year, month, day and, if it has one, the time of day. -/
def timestampParts? (s : List Char) : Option (List Char × List Char × List Char × Option Clock) :=
  let year := s.take 4
  match s.drop 4 with
  | '-' :: rest =>
    if year.length = 4 ∧ year.all Char.isDigit then do
      let (month, rest) ← oneOrTwoDigits rest
      match rest with
      | '-' :: rest =>
        let (day, rest) ← oneOrTwoDigits rest
        if rest.isEmpty then return (year, month, day, none)
        else return (year, month, day, some (← timestampClock? rest))
      | _ => none
    else none
  | _ => none

/-- A timestamp; one without a time of day has a month and a day of two digits. -/
def isTimestamp (s : List Char) : Bool :=
  match timestampParts? s with
  | some (_, month, day, none) => month.length == 2 && day.length == 2
  | some (_, _, _, some _) => true
  | none => false

/-- The words that are truth values. -/
def truthWords : List String :=
  ["yes", "Yes", "YES", "no", "No", "NO", "true", "True", "TRUE", "false", "False", "FALSE",
   "on", "On", "ON", "off", "Off", "OFF"]

/-- The words that are nothing. -/
def nullWords : List String :=
  ["", "~", "null", "Null", "NULL"]

/-- A text without the line break that ends it. -/
def withoutFinalBreak (s : List Char) : List Char :=
  if s.getLast? = some '\n' ∧ s.length ≠ 1 then s.dropLast else s

/-- The tag that the text of a scalar suggests. -/
def ofText (text : String) : Tag :=
  let s := withoutFinalBreak text.toList
  let word := String.ofList s
  if truthWords.contains word then bool
  else if isFloat s then float
  else if isInteger s then int
  else if word = "<<" then merge
  else if nullWords.contains word then null
  else if isTimestamp s then timestamp
  else if word = "=" then default
  else Tag.text

end Tag

end ScopeSearch.Yaml
