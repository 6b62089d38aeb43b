import ScopeSearch.Yaml.Cursor

/-!
# YAML scalars

A scalar is written plainly, between quotes, or as an indented block.  Line breaks inside plain and
quoted scalars fold into spaces; a block keeps them or folds them, and its end is clipped, stripped
or kept.  Every loop over the text takes at least one character at each step, so the length of the
text that is left bounds the number of steps.
-/

set_option autoImplicit false

namespace ScopeSearch.Yaml

namespace Cursor

/-- The line breaks inside a quoted scalar at the cursor, with the gaps around them left out. -/
def quotedBreaks : Nat → Cursor → Read (List Char × Cursor)
  | 0, _ => .error .malformed
  | steps + 1, c =>
    if c.atDocumentMark then .error .malformed
    else
      let c := c.skipWhile isGap
      if isBreak c.peek then do
        let (first, c) := c.lineBreak
        let (rest, c) ← quotedBreaks steps c
        return (first ++ rest, c)
      else .ok ([], c)

/-- A line break followed by further ones: one alone is a space, others are kept. -/
def foldedBreaks (first rest : List Char) : List Char :=
  (if first ≠ ['\n'] then first else if rest.isEmpty then [' '] else []) ++ rest

/-- The gap inside a quoted scalar at the cursor. -/
def quotedGap (c : Cursor) : Read (List Char × Cursor) :=
  let (gap, c) := c.takeWhile isGap
  if c.peek = endMark then .error .malformed
  else if isBreak c.peek then do
    let (first, c) := c.lineBreak
    let (rest, c) ← quotedBreaks (c.rest.length + 1) c
    return (foldedBreaks first rest, c)
  else .ok (gap, c)

/-- The character that an escape of one letter stands for. -/
def escapedChar? (c : Char) : Option Char :=
  let table : List (Char × Nat) :=
    [('0', 0), ('a', 7), ('b', 8), ('t', 9), ('\t', 9), ('n', 10), ('v', 11), ('f', 12),
     ('r', 13), ('e', 0x1B), (' ', 0x20), ('"', 0x22), ('\\', 0x5C), ('/', 0x2F), ('N', 0x85),
     ('_', 0xA0), ('L', 0x2028), ('P', 0x2029)]
  (table.find? (·.1 == c)).map fun p => Char.ofNat p.2

/-- The number of digits that follow the letter of an escape by code point. -/
def escapeWidth? (c : Char) : Option Nat :=
  if c = 'x' then some 2
  else if c = 'u' then some 4
  else if c = 'U' then some 8
  else none

/-- The character whose code point hexadecimal digits at the cursor name.  The replacement character
takes the place of a surrogate, which is none. -/
def escapedCodePoint (width : Nat) (c : Cursor) : Read (List Char × Cursor) :=
  let digits := c.rest.take width
  if digits.length = width ∧ digits.all isHexDigit then
    let n := Number.digitsValue 16 digits
    let after := c.advanceBy width
    if 0x110000 ≤ n then .error (.codePoint n)
    else if 0xD800 ≤ n ∧ n < 0xE000 then
      .ok ([Char.ofNat 0xFFFD], { after with metSurrogate := true })
    else .ok ([Char.ofNat n], after)
  else .error .malformed

/-- What an escape stands for, behind its backslash. -/
def escapeSequence (c : Cursor) : Read (List Char × Cursor) :=
  let x := c.peek
  match escapedChar? x, escapeWidth? x with
  | some e, _ => .ok ([e], c.advance)
  | none, some width => c.advance.escapedCodePoint width
  | none, none =>
    if isBreak x then
      let after := c.lineBreak.2
      quotedBreaks (after.rest.length + 1) after
    else .error .malformed

/-- A character inside a quoted scalar that stands for itself. -/
def isQuotedChar (c : Char) : Bool :=
  c != '\'' && c != '"' && c != '\\' && !isGapOrEnd c

/-- The part of a quoted scalar at the cursor up to a gap or the closing quote. -/
def quotedWord (double : Bool) : Nat → Cursor → Read (List Char × Cursor)
  | 0, _ => .error .malformed
  | steps + 1, c => do
    let (plain, c) := c.takeWhile isQuotedChar
    let x := c.peek
    if !double && x == '\'' && c.peekAt 1 == '\'' then
      let (rest, c) ← quotedWord double steps (c.advanceBy 2)
      return (plain ++ '\'' :: rest, c)
    else if (double && x == '\'') || (!double && (x == '"' || x == '\\')) then
      let (rest, c) ← quotedWord double steps c.advance
      return (plain ++ x :: rest, c)
    else if double && x == '\\' then
      let (escaped, c) ← c.advance.escapeSequence
      let (rest, c) ← quotedWord double steps c
      return (plain ++ escaped ++ rest, c)
    else return (plain, c)

/-- The gaps and words of a quoted scalar at the cursor, and the position behind its quote. -/
def quotedTail (double : Bool) : Nat → Cursor → Read (List Char × Cursor)
  | 0, _ => .error .malformed
  | steps + 1, c =>
    if c.peek = (if double then '"' else '\'') then .ok ([], c.advance)
    else do
      let (gap, c) ← c.quotedGap
      let (word, c) ← quotedWord double (c.rest.length + 1) c
      let (rest, c) ← quotedTail double steps c
      return (gap ++ word ++ rest, c)

/-- The quoted scalar at the cursor. -/
def quotedScalar (c : Cursor) : Read (String × Cursor) := do
  let double := c.peek == '"'
  let c := c.advance
  let (word, c) ← quotedWord double (c.rest.length + 1) c
  let (rest, c) ← quotedTail double (c.rest.length + 1) c
  return (String.ofList (word ++ rest), c)

/-- The line breaks inside a plain scalar at the cursor, with the spaces around them left out, or
nothing where a document mark follows. -/
def plainBreaks : Nat → Cursor → Option (List Char) × Cursor
  | 0, c => (none, c)
  | steps + 1, c =>
    let c := c.skipSpaces
    if isBreak c.peek then
      let (first, c) := c.lineBreak
      if c.atDocumentMark then (none, c)
      else
        let (rest, c) := plainBreaks steps c
        (rest.map (first ++ ·), c)
    else (some [], c)

/-- The gap inside a plain scalar, nothing where the scalar ends; whether a line ended in it, and
the position behind it. -/
def plainGap (c : Cursor) : List Char × Bool × Cursor :=
  let (spaces, c) := c.takeWhile (· == ' ')
  if isBreak c.peek then
    let (first, c) := c.lineBreak
    if c.atDocumentMark then ([], true, c)
    else
      let (rest, c) := plainBreaks (c.rest.length + 1) c
      match rest with
      | some rest => (foldedBreaks first rest, true, c)
      | none => ([], true, c)
  else (spaces, false, c)

/-- A character that ends a plain scalar inside a flow collection. -/
def isFlowIndicator (c : Char) : Bool :=
  c == ',' || c == '[' || c == ']' || c == '\x7b' || c == '\x7d'

/-- The number of characters of a text up to the end of a word of a plain scalar. -/
def plainWordLength (inFlow : Bool) : List Char → Nat
  | [] => 0
  | c :: rest =>
    let next := rest.headD endMark
    if isGapOrEnd c || (c == ':' && (isGapOrEnd next || (inFlow && isFlowIndicator next))) ||
        (inFlow && (c == '?' || isFlowIndicator c)) then 0
    else 1 + plainWordLength inFlow rest

/-- The plain scalar at the cursor that continues after a gap; whether a line ended behind its last
word, and the position behind it. -/
def plainTail (inFlow : Bool) (indent : Int) (gap : List Char) (lineEnded : Bool) :
    Nat → Cursor → List Char × Bool × Cursor
  | 0, c => ([], lineEnded, c)
  | steps + 1, c =>
    let length := plainWordLength inFlow c.rest
    if c.peek = '#' ∨ length = 0 then ([], lineEnded, c)
    else
      let word := c.rest.take length
      let (nextGap, lineEnded, c) := (c.advanceBy length).plainGap
      if nextGap.isEmpty || c.peek == '#' || (!inFlow && c.column < indent) then
        (gap ++ word, lineEnded, c)
      else
        let (rest, lineEnded, c) := plainTail inFlow indent nextGap lineEnded steps c
        (gap ++ word ++ rest, lineEnded, c)

/-- The plain scalar at the cursor inside a collection at an indentation; whether a line ended
behind it. -/
def plainScalar (inFlow : Bool) (indent : Int) (c : Cursor) : String × Bool × Cursor :=
  let (text, lineEnded, c) := plainTail inFlow (indent + 1) [] false (c.rest.length + 1) c
  (String.ofList text, lineEnded, c)

/-- What becomes of the line breaks at the end of a block. -/
inductive Chomping where
  | clip
  | strip
  | keep
  deriving DecidableEq

/-- The chomping that an indicator chooses. -/
def chomping? (c : Char) : Option Chomping :=
  if c = '+' then some .keep else if c = '-' then some .strip else none

/-- The indentation that an indicator chooses. -/
def increment? (c : Char) : Option Nat :=
  if c.isDigit then Number.digitValue? c else none

/-- The indicators of a block scalar at the cursor, in either order. -/
def blockIndicators (c : Cursor) : Read ((Chomping × Option Nat) × Cursor) :=
  let (chomping, increment, c) := match chomping? c.peek, increment? c.peek with
    | some chomping, _ =>
      let c := c.advance
      match increment? c.peek with
      | some n => (chomping, some n, c.advance)
      | none => (chomping, none, c)
    | none, some n =>
      let c := c.advance
      match chomping? c.peek with
      | some chomping => (chomping, some n, c.advance)
      | none => (.clip, some n, c)
    | none, none => (.clip, none, c)
  if increment = some 0 ∨ !isSpaceOrEnd c.peek then .error .malformed
  else .ok ((chomping, increment), c)

/-- The line breaks in front of a block scalar, the greatest indentation among them, and the
position behind them. -/
def blockIndentation : Nat → Cursor → List Char × Nat × Cursor
  | 0, c => ([], 0, c)
  | steps + 1, c =>
    let c := c.skipSpaces
    let here := c.column
    if isBreak c.peek then
      let (first, c) := c.lineBreak
      let (rest, deepest, c) := blockIndentation steps c
      (first ++ rest, max here deepest, c)
    else ([], here, c)

/-- The line breaks between the lines of a block scalar at an indentation. -/
def blockBreaks (indent : Nat) : Nat → Cursor → List Char × Cursor
  | 0, c => ([], c)
  | steps + 1, c =>
    let c := c.skipSpacesTo indent
    if isBreak c.peek then
      let (first, c) := c.lineBreak
      let (rest, c) := blockBreaks indent steps c
      (first ++ rest, c)
    else ([], c)

/-- A line of a block scalar continues at the cursor. -/
def atBlockLine (c : Cursor) (indent : Nat) : Bool :=
  c.column == indent && c.peek != endMark

/-- What stands between two lines of a block scalar: a single line break between lines that do not
begin with a gap folds into a space. -/
def lineJoint (folded : Bool) (lineBreak breaks : List Char) (first second : Char) : List Char :=
  if folded && lineBreak == ['\n'] && !isGap first && !isGap second then
    if breaks.isEmpty then [' '] else []
  else lineBreak

/-- The end of a block scalar behind its last line. -/
def blockEnd (chomping : Chomping) (lineBreak breaks : List Char) : List Char :=
  match chomping with
  | .strip => []
  | .clip => lineBreak
  | .keep => lineBreak ++ breaks

/-- The lines of a block scalar at the cursor, after line breaks. -/
def blockLines (folded : Bool) (chomping : Chomping) (indent : Nat) (breaks : List Char) :
    Nat → Cursor → List Char × Cursor
  | 0, c => ([], c)
  | steps + 1, c =>
    let first := c.peek
    let (line, c) := c.takeWhile fun x => !isLineEnd x
    let (lineBreak, c) := c.lineBreak
    let (nextBreaks, c) := blockBreaks indent (c.rest.length + 1) c
    if c.atBlockLine indent then
      let joint := lineJoint folded lineBreak nextBreaks first c.peek
      let (rest, c) := blockLines folded chomping indent nextBreaks steps c
      (breaks ++ line ++ joint ++ rest, c)
    else (breaks ++ line ++ blockEnd chomping lineBreak nextBreaks, c)

/-- The block scalar at the cursor inside a collection at an indentation. -/
def blockScalar (indent : Int) (c : Cursor) : Read (String × Cursor) := do
  let folded := c.peek == '>'
  let ((chomping, increment), c) ← c.advance.blockIndicators
  let c ← c.ignoredLine
  let least := (max (indent + 1) 1).toNat
  let (breaks, column, c) := match increment with
    | some n =>
      let column := least + n - 1
      let (breaks, c) := blockBreaks column (c.rest.length + 1) c
      (breaks, column, c)
    | none =>
      let (breaks, deepest, c) := blockIndentation (c.rest.length + 1) c
      (breaks, max least deepest, c)
  let (text, c) :=
    if c.atBlockLine column then blockLines folded chomping column breaks (c.rest.length + 1) c
    else (blockEnd chomping [] breaks, c)
  return (String.ofList text, c)

end Cursor

end ScopeSearch.Yaml
