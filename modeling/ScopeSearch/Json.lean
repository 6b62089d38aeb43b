import ScopeSearch.Value.Written

/-!
# JSON texts

Values as JSON on one line, with a blank after every comma and colon.  Quotes, backslashes and
control characters are escaped and all other characters stand for themselves.  Numbers that are not
finite are written as words.  A value of a kind that JSON does not have becomes its plain text; a
key of such a kind is an error, and so is an integer that is too long to be written.
-/

set_option autoImplicit false

namespace ScopeSearch

namespace Json

/-- A value that JSON has no text for. -/
inductive RenderError where
  /-- A key is of a kind that JSON does not have. -/
  | key (kind : String)
  /-- A text cannot be made. -/
  | longInteger (e : LongInteger)
  deriving DecidableEq

/-- The text of an error. -/
def RenderError.message : RenderError → String
  | key kind => "a mapping has a key of kind " ++ kind
  | longInteger e => e.message

/-- The short escape of a character, if it has one. -/
def shortEscape? (c : Char) : Option Char :=
  if c = '"' then some '"'
  else if c = '\\' then some '\\'
  else if c = '\n' then some 'n'
  else if c = '\r' then some 'r'
  else if c = '\t' then some 't'
  else if c = Char.ofNat 8 then some 'b'
  else if c = Char.ofNat 12 then some 'f'
  else none

/-- One character inside a JSON string. -/
def escapeChar (c : Char) : List Char :=
  match shortEscape? c with
  | some e => ['\\', e]
  | none => if c.toNat < 0x20 then '\\' :: 'u' :: Text.hexDigits 4 c.toNat else [c]

/-- A JSON string. -/
def quoteChars (s : List Char) : List Char :=
  '"' :: s.flatMap escapeChar ++ ['"']

/-- A JSON string. -/
def quote (s : String) : String :=
  String.ofList (quoteChars s.toList)

/-- A number in JSON. -/
def number : Number.Double → String
  | .nan => "NaN"
  | .infinite negative => if negative then "-Infinity" else "Infinity"
  | x => x.text

/-- A truth value in JSON. -/
def truth (b : Bool) : String :=
  if b then "true" else "false"

/-- An integer in JSON, if it is not too long. -/
def integer (n : Int) : Except RenderError String :=
  if Value.isShort n then .ok (toString n) else .error (.longInteger {})

/-- The text of a key. -/
def keyText : Value → Except RenderError String
  | .text s => .ok s
  | .textMember s => .ok s
  | .float x => .ok (number x)
  | .bool b => .ok (truth b)
  | .null => .ok "null"
  | .int n => integer n
  | v => .error (.key v.kind)

/-- Parts in square brackets. -/
def arrayText (parts : List String) : String :=
  "[" ++ ", ".intercalate parts ++ "]"

/-- A field of an object. -/
def fieldText (key value : String) : String :=
  quote key ++ ": " ++ value

/-- Fields in braces. -/
def objectText (fields : List String) : String :=
  "\x7b" ++ ", ".intercalate fields ++ "\x7d"

mutual

/-- A value in JSON. -/
def render : Value → Except RenderError String
  | .null => .ok "null"
  | .bool b => .ok (truth b)
  | .int n => integer n
  | .float x => .ok (number x)
  | .text s => .ok (quote s)
  | .textMember s => .ok (quote s)
  | .list items => (renderItems items).map arrayText
  | .tuple items => (renderItems items).map arrayText
  | .map entries => (renderEntries entries).map objectText
  | .marked _ v => render v
  | v => (v.write.map quote).mapError RenderError.longInteger

/-- The elements of an array in JSON. -/
def renderItems : List Value → Except RenderError (List String)
  | [] => .ok []
  | v :: rest => do
    let v ← render v
    return v :: (← renderItems rest)

/-- The fields of an object in JSON. -/
def renderEntries : List (Value × Value) → Except RenderError (List String)
  | [] => .ok []
  | (k, v) :: rest => do
    let k ← keyText k
    let v ← render v
    return fieldText k v :: (← renderEntries rest)

end

end Json

end ScopeSearch
