import ScopeSearch.Calendar
import ScopeSearch.Number.Literal
import ScopeSearch.Text.Quoted

/-!
# Positions in a YAML text

A cursor stands at a position of a text and knows its line and column.  The end of the text is read
as the character NUL, which no text holds.  Reading ends with an error when the text is not YAML, or
when a scalar of it has no value.

An escape may name half of a pair of surrogates, which is no character, not even together with the
other half.  A cursor knows whether it has met one: a text with one is read to its end, for it may
not be YAML at all, and is then refused.
-/

set_option autoImplicit false

namespace ScopeSearch.Yaml

/-- Why a text has no value. -/
inductive ReadError where
  /-- The text is not a YAML document. -/
  | malformed
  /-- Collections are nested too deeply. -/
  | tooDeep
  /-- An escape names a number that is no code point. -/
  | codePoint (n : Nat)
  /-- An escape names half of a pair of surrogates. -/
  | surrogate
  /-- A scalar is no integer of a base. -/
  | integer (base : Nat) (text : String)
  /-- A scalar is an integer of too many digits. -/
  | tooManyDigits (count : Nat)
  /-- A scalar is no floating-point number. -/
  | float (text : String)
  /-- A power of sixty is beyond the floating-point numbers. -/
  | tooManySixties
  /-- A scalar is no truth value. -/
  | truth (word : String)
  /-- A number has no digits. -/
  | emptyNumber
  /-- A scalar is no date or time. -/
  | moment
  /-- A mapping stands where a date or a time is written. -/
  | momentMapping
  /-- A date or time does not exist. -/
  | calendar (e : CalendarError)
  deriving DecidableEq

/-- The greatest length of the quoted text in an error. -/
def quotedLimit : Nat := 200

/-- The text of an error. -/
def ReadError.message : ReadError → String
  | .malformed => "invalid YAML"
  | .tooDeep => "collections are nested too deeply"
  | .codePoint _ => "chr() arg not in range(0x110000)"
  | .surrogate => "surrogates are no characters"
  | .integer base text =>
    "invalid literal for int() with base " ++ toString base ++ ": " ++
      String.ofList ((Text.quoted text).toList.take quotedLimit)
  | .tooManyDigits count =>
    "Exceeds the limit (" ++ toString Number.digitLimit ++
      " digits) for integer string conversion: value has " ++ toString count ++
      " digits; use sys.set_int_max_str_digits() to increase the limit"
  | .float text => "could not convert string to float: " ++ Text.quoted text
  | .tooManySixties => "number out of range"
  | .truth word => Text.quoted word
  | .emptyNumber => "string index out of range"
  | .moment => "not a timestamp"
  | .momentMapping => "a timestamp is written as a mapping"
  | .calendar e => e.message

/-- The result of reading a part of a text. -/
abbrev Read := Except ReadError

/-- The character that is read at the end of a text. -/
def endMark : Char := Char.ofNat 0

/-- The line separator. -/
def lineSeparator : Char := Char.ofNat 0x2028

/-- The paragraph separator. -/
def paragraphSeparator : Char := Char.ofNat 0x2029

/-- The control character for the next line. -/
def nextLine : Char := Char.ofNat 0x85

/-- The mark that may begin a text. -/
def byteOrderMark : Char := Char.ofNat 0xFEFF

/-- A character that ends a line. -/
def isBreak (c : Char) : Bool :=
  c == '\r' || c == '\n' || c == nextLine || c == lineSeparator || c == paragraphSeparator

/-- The end of a line or of the text. -/
def isLineEnd (c : Char) : Bool :=
  c == endMark || isBreak c

/-- A space, or the end of a line or of the text. -/
def isSpaceOrEnd (c : Char) : Bool :=
  c == ' ' || isLineEnd c

/-- A space, a tab, or the end of a line or of the text. -/
def isGapOrEnd (c : Char) : Bool :=
  c == '\t' || isSpaceOrEnd c

/-- A space or a tab. -/
def isGap (c : Char) : Bool :=
  c == ' ' || c == '\t'

/-- A character of a name. -/
def isNameChar (c : Char) : Bool :=
  c.isAlphanum || c == '-' || c == '_'

/-- A hexadecimal digit. -/
def isHexDigit (c : Char) : Bool :=
  (Number.digitValue? c).isSome

/-- A character that a YAML text may hold. -/
def isAllowed (c : Char) : Bool :=
  let n := c.toNat
  n == 9 || n == 10 || n == 13 || (0x20 ≤ n && n ≤ 0x7E) || n == 0x85 ||
    (0xA0 ≤ n && n ≤ 0xD7FF) || (0xE000 ≤ n && n ≤ 0xFFFD) || 0x10000 ≤ n

/-- A position in a text, and whether an escape in front of it names half of a pair of
surrogates. -/
structure Cursor where
  rest : List Char
  index : Nat := 0
  line : Nat := 0
  column : Nat := 0
  metSurrogate : Bool := false

namespace Cursor

/-- The character at a distance. -/
def peekAt (c : Cursor) (k : Nat) : Char :=
  c.rest.getD k endMark

/-- The character at the cursor. -/
def peek (c : Cursor) : Char :=
  c.peekAt 0

/-- The position behind one character. -/
def advance (c : Cursor) : Cursor :=
  match c.rest with
  | [] => c
  | x :: rest =>
    if x = '\n' ∨ x = nextLine ∨ x = lineSeparator ∨ x = paragraphSeparator ∨
        (x = '\r' ∧ rest.head? ≠ some '\n') then
      { c with rest, index := c.index + 1, line := c.line + 1, column := 0 }
    else if x = byteOrderMark then { c with rest, index := c.index + 1 }
    else { c with rest, index := c.index + 1, column := c.column + 1 }

/-- The position behind a number of characters. -/
def advanceBy : Nat → Cursor → Cursor
  | 0, c => c
  | n + 1, c => advanceBy n c.advance

/-- The characters up to the first that fails `p`, and the position behind them. -/
def takeWhile (c : Cursor) (p : Char → Bool) : List Char × Cursor :=
  let taken := c.rest.takeWhile p
  (taken, c.advanceBy taken.length)

/-- The position behind the characters up to the first that fails `p`. -/
def skipWhile (c : Cursor) (p : Char → Bool) : Cursor :=
  (c.takeWhile p).2

/-- The position behind the spaces at the cursor. -/
def skipSpaces (c : Cursor) : Cursor :=
  c.skipWhile (· == ' ')

/-- The position behind the spaces at the cursor, as long as it is in front of a column. -/
def skipSpacesTo (column : Nat) (c : Cursor) : Cursor :=
  let spaces := (c.rest.takeWhile (· == ' ')).length
  c.advanceBy (min spaces (column - c.column))

/-- The position at the end of a comment, if one begins at the cursor. -/
def skipComment (c : Cursor) : Cursor :=
  if c.peek = '#' then c.skipWhile fun x => !isLineEnd x else c

/-- The line break at the cursor in its normal form, if there is one, and the position behind
it. -/
def lineBreak (c : Cursor) : List Char × Cursor :=
  let x := c.peek
  if x = '\r' ∧ c.peekAt 1 = '\n' then (['\n'], c.advanceBy 2)
  else if x = '\r' ∨ x = '\n' ∨ x = nextLine then (['\n'], c.advance)
  else if x = lineSeparator ∨ x = paragraphSeparator then ([x], c.advance)
  else ([], c)

/-- A mark of three characters stands at the cursor, followed by a gap or an end. -/
def atMark (c : Cursor) (mark : List Char) : Bool :=
  mark.isPrefixOf c.rest && isGapOrEnd (c.peekAt 3)

/-- A document begins or ends at the cursor. -/
def atDocumentMark (c : Cursor) : Bool :=
  c.atMark ['-', '-', '-'] || c.atMark ['.', '.', '.']

/-- The rest of a line that may hold only a comment. -/
def ignoredLine (c : Cursor) : Read Cursor :=
  let c := c.skipSpaces.skipComment
  if isLineEnd c.peek then .ok c.lineBreak.2 else .error .malformed

end Cursor

end ScopeSearch.Yaml
