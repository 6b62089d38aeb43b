import ScopeSearch.Text.LowerCase
import ScopeSearch.Text.Quoted

/-!
# Log levels

A level is a number; six of them have names.  A level is chosen by name in any case, and a name that
means nothing chooses the level of ordinary operation.
-/

set_option autoImplicit false

namespace ScopeSearch

namespace Level

/-- The level of a process that has not chosen one. -/
def initial : Int := 30

/-- The level that an unknown name chooses. -/
def fallback : Int := 20

/-- The names of levels, in capitals. -/
def named : List (Int × String) :=
  [(50, "CRITICAL"), (40, "ERROR"), (30, "WARNING"), (20, "INFO"), (10, "DEBUG"), (0, "NOTSET")]

/-- The levels that can be chosen by name. -/
def byName : List (String × Int) :=
  [("CRITICAL", 50), ("FATAL", 50), ("ERROR", 40), ("WARNING", 30), ("WARN", 30), ("INFO", 20),
   ("DEBUG", 10), ("NOTSET", 0)]

/-- The name of a level, in capitals where it has one of its own. -/
def name (level : Int) : String :=
  match named.find? (·.1 == level) with
  | some (_, s) => s
  | none => "Level " ++ toString level

/-- The name of a level in lower case. -/
def lowerName (level : Int) : String :=
  Text.lower (name level)

/-- A name that stands for something other than a level. -/
inductive Error where
  /-- The name of the default format of messages. -/
  | format
  /-- The name of the table of styles. -/
  | styles
  deriving DecidableEq

/-- The default format of messages. -/
def basicFormat : String := "%(levelname)s:%(name)s:%(message)s"

/-- The text of an error. -/
def Error.message : Error → String
  | .format => "Unknown level: " ++ Text.quoted basicFormat
  | .styles => "Level not an integer or a valid string"

/-- The capitals of a character, where they are in the ASCII alphabet; any other character is left,
as it cannot be part of the name of a level. -/
def capitals (c : Char) : List Char :=
  if c = 'ı' then ['I']
  else if c = 'ſ' then ['S']
  else if c = 'ß' then ['S', 'S']
  else if c = 'ﬀ' then ['F', 'F']
  else if c = 'ﬁ' then ['F', 'I']
  else if c = 'ﬂ' then ['F', 'L']
  else if c = 'ﬃ' then ['F', 'F', 'I']
  else if c = 'ﬄ' then ['F', 'F', 'L']
  else if c = 'ﬅ' ∨ c = 'ﬆ' then ['S', 'T']
  else [c.toUpper]

/-- The level that a name chooses. -/
def ofName (s : String) : Except Error Int :=
  let key := String.ofList (s.toList.flatMap capitals)
  if key = "BASIC_FORMAT" then .error .format
  else if key = "_STYLES" then .error .styles
  else match byName.find? (·.1 == key) with
    | some (_, level) => .ok level
    | none => .ok fallback

end Level

end ScopeSearch
