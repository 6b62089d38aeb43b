import ScopeSearch.Text.Ranges

/-!
# Blank characters and whitespace-delimited tokens

A search term is cut into tokens at blanks.  Blanks are the separators of every script, the ASCII
control characters that move the print position, and the four ASCII information separators.
-/

set_option autoImplicit false

namespace ScopeSearch.Text

/-- The code points of blanks. -/
def blankRanges : List (Nat × Nat) :=
  [(9, 13), (28, 32), (133, 133), (160, 160), (5760, 5760), (8192, 8202), (8232, 8233),
   (8239, 8239), (8287, 8287), (12288, 12288)]

/-- A character that separates tokens. -/
def isBlank (c : Char) : Bool :=
  inRanges c.toNat blankRanges

/-- A blank around a number: the information separators are none. -/
def isSpace (c : Char) : Bool :=
  isBlank c && !(28 ≤ c.toNat && c.toNat ≤ 31)

/-- A text without any character other than blanks. -/
def isBlankText (s : List Char) : Bool :=
  s.all isBlank

/-- A token begins at the first character. -/
def startsToken : List Char → Bool
  | [] => false
  | c :: _ => !isBlank c

/-- Puts a character in front of the first token. -/
def extendFirst (c : Char) : List (List Char) → List (List Char)
  | [] => [[c]]
  | t :: rest => (c :: t) :: rest

/-- The maximal runs of characters that are not blank, in order. -/
def tokens : List Char → List (List Char)
  | [] => []
  | c :: rest =>
    if isBlank c then tokens rest
    else if startsToken rest then extendFirst c (tokens rest)
    else [c] :: tokens rest

/-- A text without the characters of a class at either end. -/
def trim (p : Char → Bool) (s : List Char) : List Char :=
  ((s.dropWhile p).reverse.dropWhile p).reverse

/-- The tokens of a text. -/
def split (s : String) : List String :=
  (tokens s.toList).map String.ofList

/-- A text without any character other than blanks. -/
def isBlankString (s : String) : Bool :=
  isBlankText s.toList

end ScopeSearch.Text
