import ScopeSearch.Number.Numeral

/-!
# Dates and times of day

Dates of the proleptic Gregorian calendar from year 1 to year 9999, and times on them with
microseconds and an optional distance from universal time in minutes.  Their text is the ISO 8601
form; a time may be joined to its date by any character.
-/

set_option autoImplicit false

namespace ScopeSearch

open Number (decimalDigits)

/-- A day of the calendar. -/
structure Date where
  year : Nat
  month : Nat
  day : Nat
  deriving DecidableEq

/-- A moment on a day, at an optional distance from universal time in minutes. -/
structure DateTime where
  date : Date
  hour : Nat
  minute : Nat
  second : Nat
  microsecond : Nat
  offset : Option Int
  deriving DecidableEq

/-- A date or time that does not exist. -/
inductive CalendarError where
  | year (year : Nat)
  | month
  | day
  | hour
  | minute
  | second
  | offset (minutes : Int)
  deriving DecidableEq

/-- The digits of a number, with zeros in front up to a width. -/
def paddedDigits (width n : Nat) : List Char :=
  let digits := decimalDigits n
  List.replicate (width - digits.length) '0' ++ digits

/-- A length of time as a number of days, not necessarily positive, and of seconds of a day. -/
def daysAndSeconds (minutes : Int) : Int × Int :=
  (minutes / 1440, minutes % 1440 * 60)

/-- The named parts of a length of time, as they stand in the quoted form of one. -/
def durationParts (minutes : Int) : String :=
  let (days, seconds) := daysAndSeconds minutes
  let parts := (if days = 0 then [] else ["days=" ++ toString days]) ++
    (if seconds = 0 then [] else ["seconds=" ++ toString seconds])
  "datetime.timedelta(" ++ (if parts.isEmpty then "0" else ", ".intercalate parts) ++ ")"

/-- The text of an error. -/
def CalendarError.message : CalendarError → String
  | .year y => "year " ++ toString y ++ " is out of range"
  | .month => "month must be in 1..12"
  | .day => "day is out of range for month"
  | .hour => "hour must be in 0..23"
  | .minute => "minute must be in 0..59"
  | .second => "second must be in 0..59"
  | .offset minutes =>
    "offset must be a timedelta strictly between -timedelta(hours=24) and timedelta(hours=24), not "
      ++ durationParts minutes ++ "."

namespace Date

/-- A year with a 29th of February. -/
def isLeap (year : Nat) : Bool :=
  year % 4 = 0 && (year % 100 ≠ 0 || year % 400 = 0)

/-- The number of days of a month. -/
def monthLength (year month : Nat) : Nat :=
  match month with
  | 2 => if isLeap year then 29 else 28
  | 4 | 6 | 9 | 11 => 30
  | _ => 31

/-- The day with a year, a month and a day of the month, if there is one. -/
def ofParts (year month day : Nat) : Except CalendarError Date :=
  if year < 1 ∨ 9999 < year then .error (.year year)
  else if month < 1 ∨ 12 < month then .error .month
  else if day < 1 ∨ monthLength year month < day then .error .day
  else .ok ⟨year, month, day⟩

/-- The text of a day. -/
def text (d : Date) : String :=
  String.ofList
    (paddedDigits 4 d.year ++ '-' :: paddedDigits 2 d.month ++ '-' :: paddedDigits 2 d.day)

/-- The number of days before a day, counted from the first day of year 1. -/
def ordinal (d : Date) : Nat :=
  let y := d.year - 1
  let months := (List.range (d.month - 1)).map fun m => monthLength d.year (m + 1)
  y * 365 + y / 4 - y / 100 + y / 400 + months.foldr (· + ·) 0 + d.day

/-- The quoted form of a day. -/
def quoted (d : Date) : String :=
  "datetime.date(" ++
    ", ".intercalate [toString d.year, toString d.month, toString d.day] ++ ")"

end Date

namespace DateTime

/-- The moment with given parts, if there is one; an offset of a day or more is none. -/
def ofParts (date : Date) (hour minute second microsecond : Nat) (offset : Option Int) :
    Except CalendarError DateTime :=
  if 23 < hour then .error .hour
  else if 59 < minute then .error .minute
  else if 59 < second then .error .second
  else .ok ⟨date, hour, minute, second, microsecond, offset⟩

/-- The text of a distance from universal time. -/
def offsetText (minutes : Int) : List Char :=
  (if minutes < 0 then '-' else '+') ::
    paddedDigits 2 (minutes.natAbs / 60) ++ ':' :: paddedDigits 2 (minutes.natAbs % 60)

/-- The text of a moment without its offset, with a character between the day and the time. -/
def localText (separator : Char) (t : DateTime) : String :=
  t.date.text ++ String.ofList (
    separator :: paddedDigits 2 t.hour ++ ':' :: paddedDigits 2 t.minute ++
    ':' :: paddedDigits 2 t.second ++
    (if t.microsecond = 0 then [] else '.' :: paddedDigits 6 t.microsecond))

/-- The text of a moment, with a character between the day and the time. -/
def textWith (separator : Char) (t : DateTime) : String :=
  t.localText separator ++ String.ofList ((t.offset.map offsetText).getD [])

/-- The text of a moment in which the letter `Z` stands for universal time. -/
def shortText (t : DateTime) : String :=
  t.localText 'T' ++ match t.offset with
    | none => ""
    | some 0 => "Z"
    | some minutes => String.ofList (offsetText minutes)

/-- The quoted form of a moment: trailing zeros of the time of day are left out, down to the
minute. -/
def quoted (t : DateTime) : String :=
  let tail :=
    if t.microsecond ≠ 0 then [t.second, t.microsecond]
    else if t.second ≠ 0 then [t.second] else []
  let parts := [t.date.year, t.date.month, t.date.day, t.hour, t.minute] ++ tail
  let zone := match t.offset with
    | none => []
    | some 0 => ["tzinfo=datetime.timezone.utc"]
    | some minutes => ["tzinfo=datetime.timezone(" ++ durationParts minutes ++ ")"]
  "datetime.datetime(" ++ ", ".intercalate (parts.map toString ++ zone) ++ ")"

/-- The number of microseconds from the first day of year 1, at universal time if the moment has an
offset and at local time otherwise. -/
def instant (t : DateTime) : Int :=
  let minutes : Int := (t.date.ordinal * 24 + t.hour) * 60 + t.minute - t.offset.getD 0
  (minutes * 60 + t.second) * 1000000 + t.microsecond

/-- Two moments are the same when both have an offset, or neither, and the instants agree. -/
def same (s t : DateTime) : Bool :=
  s.offset.isSome == t.offset.isSome && s.instant == t.instant

end DateTime

end ScopeSearch
