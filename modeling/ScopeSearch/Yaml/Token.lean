import ScopeSearch.Yaml.Cursor

/-!
# YAML tokens

A YAML text is a sequence of tokens.  Indentation shows in the tokens that open and close the
collections of the block style.
-/

set_option autoImplicit false

namespace ScopeSearch.Yaml

/-- A tag as it is written: a handle, if it has one, and a suffix. -/
structure TagMark where
  handle : Option String
  suffix : String
  deriving DecidableEq

/-- A directive in front of a document. -/
inductive DocumentDirective where
  | version (major minor : Nat)
  | tagSpace (handle space : String)
  | other (name : String)
  deriving DecidableEq

/-- A token. -/
inductive Token where
  | directive (d : DocumentDirective)
  | documentStart
  | documentEnd
  | blockSequenceStart
  | blockMappingStart
  | blockEnd
  | flowSequenceStart
  | flowSequenceEnd
  | flowMappingStart
  | flowMappingEnd
  | blockEntry
  | flowEntry
  | key
  | value
  | alias (name : String)
  | anchor (name : String)
  | tag (mark : TagMark)
  | scalar (text : String) (isPlain : Bool)
  deriving DecidableEq

namespace Cursor

/-- A name, as in an alias or an anchor, behind its indicator. -/
def name (c : Cursor) : Read (String × Cursor) :=
  let (taken, after) := c.advance.takeWhile isNameChar
  let x := after.peek
  if taken.isEmpty then .error .malformed
  else if isGapOrEnd x || ['?', ':', ',', ']', '\x7d', '%', '@', '\x60'].contains x then
    .ok (String.ofList taken, after)
  else .error .malformed

/-- A character of a tag beside letters, digits and escapes. -/
def isTagChar (c : Char) : Bool :=
  c.isAlphanum || "-;/?:@&=+$,_.!~*'()[]".toList.contains c

/-- The octets of escapes by percent signs at the cursor. -/
def tagEscapes : Nat → Cursor → Read (List UInt8 × Cursor)
  | 0, c => .ok ([], c)
  | steps + 1, c =>
    if c.peek = '%' then
      let digits := [c.peekAt 1, c.peekAt 2]
      if digits.all isHexDigit then do
        let (octets, c) ← tagEscapes steps (c.advanceBy 3)
        return (UInt8.ofNat (Number.digitsValue 16 digits) :: octets, c)
      else .error .malformed
    else .ok ([], c)

/-- The characters of a tag at the cursor, with escapes read as octets of UTF-8. -/
def tagChars : Nat → Cursor → Read (List Char × Cursor)
  | 0, c => .ok ([], c)
  | steps + 1, c =>
    if c.peek = '%' then do
      let (octets, after) ← tagEscapes c.rest.length c
      match String.fromUTF8? (ByteArray.mk octets.toArray) with
      | some s =>
        let (rest, c) ← tagChars steps after
        return (s.toList ++ rest, c)
      | none => throw .malformed
    else if isTagChar c.peek && !c.rest.isEmpty then do
      let (rest, after) ← tagChars steps c.advance
      return (c.peek :: rest, after)
    else .ok ([], c)

/-- The text of a tag, which is not empty. -/
def tagText (c : Cursor) : Read (String × Cursor) := do
  let (taken, after) ← tagChars c.rest.length c
  if taken.isEmpty then throw .malformed
  return (String.ofList taken, after)

/-- The handle of a tag: an exclamation mark, or a name between two. -/
def tagHandle (c : Cursor) : Read (String × Cursor) :=
  if c.peek ≠ '!' then .error .malformed
  else if c.peekAt 1 = ' ' then .ok ("!", c.advance)
  else
    let (taken, after) := c.advance.takeWhile isNameChar
    if after.peek = '!' then .ok (String.ofList ('!' :: taken ++ ['!']), after.advance)
    else .error .malformed

/-- A tag has a handle with a second exclamation mark. -/
def hasHandle (c : Cursor) : Bool :=
  ((c.rest.drop 1).takeWhile fun x => !isSpaceOrEnd x).contains '!'

/-- The mark of a tag at the cursor. -/
def tagMark (c : Cursor) : Read (TagMark × Cursor) := do
  let x := c.peekAt 1
  let (mark, c) ←
    if x = '<' then do
      let (suffix, c) ← (c.advanceBy 2).tagText
      if c.peek ≠ '>' then throw .malformed
      pure (TagMark.mk none suffix, c.advance)
    else if isGapOrEnd x then pure (TagMark.mk none "!", c.advance)
    else do
      let (handle, c) ← if c.hasHandle then c.tagHandle else pure ("!", c.advance)
      let (suffix, c) ← c.tagText
      pure (TagMark.mk (some handle) suffix, c)
  if isSpaceOrEnd c.peek then return (mark, c) else throw .malformed

/-- A number of a version. -/
def versionNumber (c : Cursor) : Read (Nat × Cursor) :=
  let (digits, after) := c.takeWhile Char.isDigit
  if digits.isEmpty then .error .malformed else .ok (Number.digitsValue 10 digits, after)

/-- The value of a version directive. -/
def versionValue (c : Cursor) : Read (DocumentDirective × Cursor) := do
  let (major, c) ← c.skipSpaces.versionNumber
  if c.peek ≠ '.' then throw .malformed
  let (minor, c) ← c.advance.versionNumber
  if isSpaceOrEnd c.peek then return (.version major minor, c) else throw .malformed

/-- The value of a directive that gives a handle a meaning. -/
def tagSpaceValue (c : Cursor) : Read (DocumentDirective × Cursor) := do
  let (handle, c) ← c.skipSpaces.tagHandle
  if c.peek ≠ ' ' then throw .malformed
  let (space, c) ← c.skipSpaces.tagText
  if isSpaceOrEnd c.peek then return (.tagSpace handle space, c) else throw .malformed

/-- A directive at the cursor. -/
def documentDirective (c : Cursor) : Read (DocumentDirective × Cursor) := do
  let (taken, c) := c.advance.takeWhile isNameChar
  if taken.isEmpty || !isSpaceOrEnd c.peek then throw .malformed
  let name := String.ofList taken
  let (d, c) ←
    if name = "YAML" then c.versionValue
    else if name = "TAG" then c.tagSpaceValue
    else pure (DocumentDirective.other name, c.skipWhile fun x => !isLineEnd x)
  return (d, ← c.ignoredLine)

end Cursor

end ScopeSearch.Yaml
