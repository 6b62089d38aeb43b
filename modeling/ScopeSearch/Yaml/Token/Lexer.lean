import ScopeSearch.Yaml.Scalar
import ScopeSearch.Yaml.Token

/-!
# From YAML text to tokens

The tokens of a text are found from left to right.  Indentation opens and closes block collections.
A scalar or a collection turns out to be the key of a mapping only when a colon follows it, so
every place where a key may begin is remembered until then, and the tokens of the key are put in
there afterwards.

A fault ends the tokens.  Those in front of every place where a key may still begin are known by
then, and what is made of them comes before the fault.
-/

set_option autoImplicit false

namespace ScopeSearch.Yaml

/-- A place where a key without an indicator may begin: the number of tokens in front of it, its
position, and whether a colon has to follow. -/
structure KeyPlace where
  tokens : Nat
  index : Nat
  line : Nat
  column : Nat
  isRequired : Bool

/-- The tokens of a text as far as they are known, the fault that ends them, if there is one, and
whether an escape in them names half of a pair of surrogates. -/
structure TokenList where
  known : List Token
  fault : Option ReadError := none
  metSurrogate : Bool := false

/-- The state of the search for tokens: those found, the depth of flow collections, the
indentations of the block collections around the cursor, and the places where keys may begin by
depth. -/
structure Lexer where
  cursor : Cursor
  tokens : Array Token := #[]
  depth : Nat := 0
  indent : Int := -1
  outerIndents : List Int := []
  allowsKey : Bool := true
  keyPlaces : List (Nat × KeyPlace) := []

namespace Lexer

/-- The greatest length of a key without an indicator. -/
def keyLimit : Nat := 1024

/-- A further token. -/
def emit (l : Lexer) (t : Token) : Lexer :=
  { l with tokens := l.tokens.push t }

/-- A token at an earlier place. -/
def insertAt (l : Lexer) (place : Nat) (t : Token) : Lexer :=
  { l with tokens := l.tokens.insertIdxIfInBounds place t }

/-- The state at another position. -/
def moveTo (l : Lexer) (c : Cursor) : Lexer :=
  { l with cursor := c }

/-- The state behind one character. -/
def advance (l : Lexer) : Lexer :=
  l.moveTo l.cursor.advance

/-- The cursor is inside a flow collection. -/
def inFlow (l : Lexer) : Bool :=
  l.depth != 0

/-- Where a key at the present depth may begin. -/
def keyPlace? (l : Lexer) : Option KeyPlace :=
  (l.keyPlaces.find? (·.1 == l.depth)).map Prod.snd

/-- Forgets where a key at the present depth may begin. -/
def dropKeyPlace (l : Lexer) : Lexer :=
  { l with keyPlaces := l.keyPlaces.filter (·.1 != l.depth) }

/-- Gives up the key at the present depth, unless a colon has to follow it. -/
def abandonKey (l : Lexer) : Read Lexer :=
  if l.keyPlace?.any KeyPlace.isRequired then .error .malformed else .ok l.dropKeyPlace

/-- Remembers that a key may begin at the cursor. -/
def saveKey (l : Lexer) : Read Lexer :=
  if l.allowsKey then do
    let l ← l.abandonKey
    let c := l.cursor
    let place : KeyPlace :=
      { tokens := l.tokens.size, index := c.index, line := c.line, column := c.column,
        isRequired := !l.inFlow && l.indent == c.column }
    return { l with keyPlaces := (l.depth, place) :: l.keyPlaces }
  else .ok l

/-- A key cannot end at a position any more: it is on another line or too long. -/
def isStale (c : Cursor) (place : KeyPlace) : Bool :=
  place.line != c.line || keyLimit < c.index - place.index

/-- Forgets the places whose keys cannot end at the cursor any more. -/
def dropStaleKeys (l : Lexer) : Read Lexer :=
  if l.keyPlaces.any fun p => isStale l.cursor p.2 && p.2.isRequired then .error .malformed
  else .ok { l with keyPlaces := l.keyPlaces.filter fun p => !isStale l.cursor p.2 }

/-- Closes the block collections that are indented further than a column. -/
def unwindTo (l : Lexer) (column : Int) : List Int → Lexer
  | [] => l
  | outer :: rest =>
    if l.inFlow || l.indent ≤ column then l
    else unwindTo ({ l with indent := outer, outerIndents := rest }.emit .blockEnd) column rest

/-- Closes the block collections that are indented further than a column. -/
def unwind (l : Lexer) (column : Int) : Lexer :=
  l.unwindTo column l.outerIndents

/-- Opens a block collection at a column, unless one is open there; `place` is the number of tokens
in front of it. -/
def openBlock (l : Lexer) (column place : Nat) (t : Token) : Lexer :=
  if l.indent < column then
    { l with indent := column, outerIndents := l.indent :: l.outerIndents }.insertAt place t
  else l

/-- The position of the next token: behind blanks, comments and line breaks.  A key may begin on a
new line of a block collection. -/
def skipToToken : Nat → Lexer → Lexer
  | 0, l => l
  | steps + 1, l =>
    let c := l.cursor.skipSpaces.skipComment
    if isBreak c.peek then
      skipToToken steps { l with cursor := c.lineBreak.2, allowsKey := l.allowsKey || !l.inFlow }
    else l.moveTo c

/-- A token that closes all block collections: a directive or a document mark. -/
def documentToken (l : Lexer) (found : Read (Token × Cursor)) : Read Lexer := do
  let l ← (l.unwind (-1)).abandonKey
  let (t, c) ← found
  return { l with allowsKey := false, cursor := c }.emit t

/-- The beginning of a flow collection, which may begin a key. -/
def openFlow (l : Lexer) (t : Token) : Read Lexer := do
  let l ← l.saveKey
  return { l with depth := l.depth + 1, allowsKey := true }.advance.emit t

/-- The end of a flow collection. -/
def closeFlow (l : Lexer) (t : Token) : Read Lexer := do
  let l ← l.abandonKey
  return { l with depth := l.depth - 1, allowsKey := false }.advance.emit t

/-- A comma between entries of a flow collection. -/
def flowEntry (l : Lexer) : Read Lexer := do
  let l ← l.abandonKey
  return { l with allowsKey := true }.advance.emit .flowEntry

/-- The indicator of an element or a key; in a block it may open a collection. -/
def blockIndicator (l : Lexer) (opening t : Token) (allowsKey : Bool) : Read Lexer := do
  if !l.inFlow && !l.allowsKey then throw .malformed
  let l := if l.inFlow then l else l.openBlock l.cursor.column l.tokens.size opening
  let l ← l.abandonKey
  return { l with allowsKey }.advance.emit t

/-- A colon behind a key without an indicator. -/
def valueOfKey (l : Lexer) (place : KeyPlace) : Lexer :=
  let l := l.dropKeyPlace.insertAt place.tokens .key
  let l := if l.inFlow then l else l.openBlock place.column place.tokens .blockMappingStart
  { l with allowsKey := false }.advance.emit .value

/-- A colon. -/
def valueIndicator (l : Lexer) : Read Lexer :=
  match l.keyPlace? with
  | some place => .ok (l.valueOfKey place)
  | none => l.blockIndicator .blockMappingStart .value (!l.inFlow)

/-- A token that may be a key or begin one. -/
def nodeToken (l : Lexer) (found : Read (Token × Cursor)) : Read Lexer := do
  let l ← l.saveKey
  let (t, c) ← found
  return { l with allowsKey := false, cursor := c }.emit t

/-- A plain scalar; a key may follow it on a new line. -/
def plainToken (l : Lexer) : Read Lexer := do
  let l ← l.saveKey
  let (text, lineEnded, c) := l.cursor.plainScalar l.inFlow l.indent
  return { l with allowsKey := lineEnded, cursor := c }.emit (.scalar text true)

/-- A block scalar; a key may follow it. -/
def blockToken (l : Lexer) : Read Lexer := do
  let l ← l.abandonKey
  let (text, c) ← l.cursor.blockScalar l.indent
  return { l with allowsKey := true, cursor := c }.emit (.scalar text false)

/-- A plain scalar begins at the cursor. -/
def atPlain (l : Lexer) : Bool :=
  let x := l.cursor.peek
  let indicators := "-?:,[]\x7b\x7d#&*!|>'\"%@\x60".toList
  (!isGapOrEnd x && !indicators.contains x) ||
    (!isGapOrEnd (l.cursor.peekAt 1) && (x == '-' || (!l.inFlow && (x == '?' || x == ':'))))

/-- The token at the cursor, which is not at the end of the text. -/
def token (l : Lexer) : Read Lexer :=
  let c := l.cursor
  let x := c.peek
  let gapFollows := isGapOrEnd (c.peekAt 1)
  let atLineStart := c.column == 0
  if x == '%' && atLineStart then
    l.documentToken (c.documentDirective.map fun (d, c) => (.directive d, c))
  else if atLineStart && c.atMark ['-', '-', '-'] then
    l.documentToken (.ok (.documentStart, c.advanceBy 3))
  else if atLineStart && c.atMark ['.', '.', '.'] then
    l.documentToken (.ok (.documentEnd, c.advanceBy 3))
  else if x == '[' then l.openFlow .flowSequenceStart
  else if x == '\x7b' then l.openFlow .flowMappingStart
  else if x == ']' then l.closeFlow .flowSequenceEnd
  else if x == '\x7d' then l.closeFlow .flowMappingEnd
  else if x == ',' then l.flowEntry
  else if x == '-' && gapFollows then l.blockIndicator .blockSequenceStart .blockEntry true
  else if x == '?' && (l.inFlow || gapFollows) then
    l.blockIndicator .blockMappingStart .key (!l.inFlow)
  else if x == ':' && (l.inFlow || gapFollows) then l.valueIndicator
  else if x == '*' then l.nodeToken (c.name.map fun (s, c) => (.alias s, c))
  else if x == '&' then l.nodeToken (c.name.map fun (s, c) => (.anchor s, c))
  else if x == '!' then l.nodeToken (c.tagMark.map fun (t, c) => (.tag t, c))
  else if (x == '|' || x == '>') && !l.inFlow then l.blockToken
  else if x == '\'' || x == '"' then
    l.nodeToken (c.quotedScalar.map fun (s, c) => (.scalar s false, c))
  else if l.atPlain then l.plainToken
  else .error .malformed

/-- The number of tokens that no further token is put in front of. -/
def knownCount (l : Lexer) : Nat :=
  (l.keyPlaces.filter fun p => !isStale l.cursor p.2).foldl (fun n p => min n p.2.tokens)
    l.tokens.size

/-- The tokens that are known when a fault is met. -/
def stop (l : Lexer) (e : ReadError) : TokenList :=
  { known := l.tokens.toList.take l.knownCount, fault := some e }

/-- The state in front of the next token. -/
def approach (l : Lexer) : Read Lexer := do
  let l ← (skipToToken (l.cursor.rest.length + 1) l).dropStaleKeys
  return l.unwind l.cursor.column

/-- The state behind the last token. -/
def finish (l : Lexer) : Read Lexer :=
  (l.unwind (-1)).abandonKey

/-- The tokens of the text from the cursor on; every token takes at least one character, so the
length of the text bounds the number of steps. -/
def run : Nat → Lexer → TokenList
  | 0, l => l.stop .malformed
  | steps + 1, l =>
    match l.approach with
    | .error e => l.stop e
    | .ok next =>
      if next.cursor.rest.isEmpty then
        match next.finish with
        | .ok l => { known := l.tokens.toList, metSurrogate := l.cursor.metSurrogate }
        | .error e => l.stop e
      else
        match next.token with
        | .ok l => run steps l
        | .error e => l.stop e

end Lexer

/-- The tokens of a text. -/
def TokenList.ofText (s : String) : TokenList :=
  let text := s.toList
  if text.all isAllowed then
    let text := if text.head? = some byteOrderMark then text.drop 1 else text
    Lexer.run (text.length + 1) { cursor := { rest := text } }
  else { known := [], fault := some .malformed }

end ScopeSearch.Yaml
