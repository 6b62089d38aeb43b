import ScopeSearch.Number.Double
import ScopeSearch.Text.Identifier

/-!
# Replacement texts

The text that takes the place of a match may hold escapes, each introduced by a backslash: the
control characters by a letter, a character by its code in octal digits, and the match itself by
its group number zero.  A match has no other groups, and a group that is asked for by an identifier
is another mistake than one that is asked for by anything else.
-/

set_option autoImplicit false

namespace ScopeSearch.Text

/-- A replacement text that cannot be used. -/
inductive ReplacementError where
  /-- An escape that means nothing. -/
  | malformed
  /-- A group that is asked for by a name. -/
  | unknownGroup
  deriving DecidableEq

/-- A part of a replacement text. -/
inductive ReplacementPart where
  | character (c : Char)
  | wholeMatch
  deriving DecidableEq

/-- The character that a letter or a backslash stands for after a backslash. -/
def escapedCharacter? (c : Char) : Option Char :=
  if c = 'a' then some (Char.ofNat 7)
  else if c = 'b' then some (Char.ofNat 8)
  else if c = 'f' then some (Char.ofNat 12)
  else if c = 'n' then some '\n'
  else if c = 'r' then some '\r'
  else if c = 't' then some '\t'
  else if c = 'v' then some (Char.ofNat 11)
  else if c = '\\' then some '\\'
  else none

/-- A digit below eight. -/
def isOctal (c : Char) : Bool :=
  '0' ≤ c && c ≤ '7'

/-- The part that a group reference stands for. -/
def groupPart (name : List Char) : Except ReplacementError ReplacementPart :=
  if isIdentifier name then .error .unknownGroup
  else if Number.literalInteger? name = some 0 then .ok .wholeMatch
  else .error .malformed

/-- The part that is written after a backslash, and the rest of the text.  A lone backslash right
behind a reference to a group is noticed before the reference is looked at. -/
def escapedPart (c : Char) (rest : List Char) :
    Except ReplacementError (List ReplacementPart × List Char) :=
  if c = 'g' then
    match rest with
    | '<' :: afterOpen =>
      let name := afterOpen.takeWhile (· ≠ '>')
      match afterOpen.dropWhile (· ≠ '>') with
      | _ :: afterName => do
        if name.isEmpty || afterName == ['\\'] then throw .malformed
        return ([← groupPart name], afterName)
      | [] => .error .malformed
    | _ => .error .malformed
  else if c = '0' then
    let octal := (rest.take 2).takeWhile isOctal
    .ok ([.character (Char.ofNat (Number.digitsValue 8 octal))], rest.drop octal.length)
  else if c.isDigit then
    let octal := (c :: rest.take 2).takeWhile isOctal
    if octal.length = 3 ∧ Number.digitsValue 8 octal < 256 then
      .ok ([.character (Char.ofNat (Number.digitsValue 8 octal))], rest.drop 2)
    else .error .malformed
  else match escapedCharacter? c with
    | some x => .ok ([.character x], rest)
    | none =>
      if c.isAlpha then .error .malformed
      else .ok ([.character '\\', .character c], rest)

/-- The parts of a replacement text; every escape takes at least one character, so the length of
the text bounds the number of steps. -/
def replacementPartsWithin : Nat → List Char → Except ReplacementError (List ReplacementPart)
  | _, [] => .ok []
  | 0, _ => .error .malformed
  | steps + 1, '\\' :: rest =>
    match rest with
    | [] => .error .malformed
    | c :: tail => do
      let (parts, tail) ← escapedPart c tail
      return parts ++ (← replacementPartsWithin steps tail)
  | steps + 1, c :: rest => do
    return .character c :: (← replacementPartsWithin steps rest)

/-- The parts of a replacement text. -/
def replacementParts (s : List Char) : Except ReplacementError (List ReplacementPart) :=
  replacementPartsWithin s.length s

/-- The text that takes the place of a match. -/
def expandReplacement (parts : List ReplacementPart) (found : List Char) : List Char :=
  parts.flatMap fun
    | .character c => [c]
    | .wholeMatch => found

end ScopeSearch.Text
