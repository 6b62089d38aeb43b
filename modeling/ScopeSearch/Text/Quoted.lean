import ScopeSearch.Text.Printable

/-!
# Quoted text

The quoted form of a text is unambiguous and free of control characters.  Single quotes delimit
it, unless the text holds a single quote and no double quote.  A backslash and the chosen quote
are escaped by a backslash; line feed, carriage return and tab have short escapes; every other
character that is not printable is written by its code point in two, four or eight hexadecimal
digits, whichever is the least that holds it.
-/

set_option autoImplicit false

namespace ScopeSearch.Text

/-- The lower-case hexadecimal digit of a number below sixteen. -/
def hexDigit (n : Nat) : Char :=
  if n < 10 then Char.ofNat (48 + n) else Char.ofNat (87 + n)

/-- The last `width` hexadecimal digits of a number. -/
def hexDigits : Nat → Nat → List Char
  | 0, _ => []
  | width + 1, n => hexDigits width (n / 16) ++ [hexDigit (n % 16)]

/-- The quote that delimits a text. -/
def quoteFor (s : List Char) : Char :=
  if s.contains '\'' && !s.contains '"' then '"' else '\''

/-- The escape of a code point in hexadecimal digits. -/
def codePointEscape (n : Nat) : List Char :=
  if n < 0x100 then '\\' :: 'x' :: hexDigits 2 n
  else if n < 0x10000 then '\\' :: 'u' :: hexDigits 4 n
  else '\\' :: 'U' :: hexDigits 8 n

/-- One character inside quotes, where `shown` tells which characters are shown as themselves. -/
def quoteChar (shown : Char → Bool) (quote c : Char) : List Char :=
  if c = quote || c = '\\' then ['\\', c]
  else if c = '\n' then ['\\', 'n']
  else if c = '\r' then ['\\', 'r']
  else if c = '\t' then ['\\', 't']
  else if shown c then [c]
  else codePointEscape c.toNat

/-- A text between quotes. -/
def quoteWith (shown : Char → Bool) (s : List Char) : List Char :=
  let quote := quoteFor s
  quote :: s.flatMap (quoteChar shown quote) ++ [quote]

/-- The quoted form of a text. -/
def quoted (s : String) : String :=
  String.ofList (quoteWith isPrintable s.toList)

/-- The quoted form of a string of octets, marked by a leading `b`; the octets are given as the
characters of the same codes. -/
def quotedOctets (octets : List UInt8) : String :=
  String.ofList
    ('b' :: quoteWith (fun c => isPrintable c && c.toNat < 128)
      (octets.map fun o => Char.ofNat o.toNat))

end ScopeSearch.Text
