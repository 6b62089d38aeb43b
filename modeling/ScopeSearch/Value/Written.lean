import ScopeSearch.Number.Literal
import ScopeSearch.Text.Quoted
import ScopeSearch.Value

/-!
# The written forms of values

A value has a quoted form, which tells its kind, and a plain form, which is the text that a person
reads.  The two agree except on texts, on numbers and moments with a kind of their own, on members
of enumerations and on directives.

A form is a text whatever the value is.  A form is only made, though, of a value whose integers have
no more digits than a text of an integer may have; of any other value making it fails.
-/

set_option autoImplicit false

namespace ScopeSearch

namespace Value

/-- The quoted form of a truth value. -/
def boolText (b : Bool) : String :=
  if b then "True" else "False"

/-- Parts joined by commas. -/
def joined (parts : List String) : String :=
  ", ".intercalate parts

/-- Parts in parentheses; a single part keeps a comma. -/
def tupleText (parts : List String) : String :=
  match parts with
  | [part] => "(" ++ part ++ ",)"
  | _ => "(" ++ joined parts ++ ")"

/-- Parts in braces; the empty set has a name. -/
def setText (parts : List String) : String :=
  if parts.isEmpty then "set()" else "\x7b" ++ joined parts ++ "\x7d"

/-- The quoted form of an optional text. -/
def optionText : Option String → String
  | none => "None"
  | some s => Text.quoted s

/-- The quoted form of a directive. -/
def directiveText (d : Directive) : String :=
  "ScopeDirective(user_input=" ++ Text.quoted d.userInput ++ ", name=" ++ Text.quoted d.name ++
    ", argument=" ++ optionText d.argument ++ ")"

/-- The quoted form of a filter. -/
def filterText (f : KeywordFilter) : String :=
  "FilterSpec(unfiltered=" ++ boolText f.unfiltered ++
    ", attributes=" ++ tupleText (f.attributes.map Text.quoted) ++
    ", parameters=" ++ tupleText (f.parameters.map Text.quoted) ++ ")"

/-- What stands for a collection inside itself. -/
def ellipsis : Value → String
  | tuple _ => "(...)"
  | map _ => "\x7b...\x7d"
  | _ => "[...]"

mutual

/-- The quoted form of a value inside collections with given marks. -/
def quotedWithin (around : List Mark) : Value → String
  | null => "None"
  | bool b => boolText b
  | int n => toString n
  | float x => x.text
  | text s => Text.quoted s
  | bytes octets => Text.quotedOctets octets
  | decimal d => "Decimal('" ++ d.text ++ "')"
  | date d => d.quoted
  | dateTime t => t.quoted
  | uuid u => "UUID('" ++ u.text ++ "')"
  | list items => "[" ++ joined (quotedItems around items) ++ "]"
  | tuple items => tupleText (quotedItems around items)
  | set items => setText (quotedItems around items)
  | stream _ => "<generator>"
  | map entries => "\x7b" ++ joined (quotedEntries around entries) ++ "\x7d"
  | member v => "<E.MEMBER: " ++ quotedWithin around v ++ ">"
  | textMember s => "<S.MEMBER: " ++ Text.quoted s ++ ">"
  | object s => s
  | directive d => directiveText d
  | filter f => filterText f
  | marked mark v =>
    if around.contains mark then ellipsis v else quotedWithin (mark :: around) v

/-- The quoted forms of values inside collections. -/
def quotedItems (around : List Mark) : List Value → List String
  | [] => []
  | v :: rest => quotedWithin around v :: quotedItems around rest

/-- The quoted forms of the entries of a mapping inside collections. -/
def quotedEntries (around : List Mark) : List (Value × Value) → List String
  | [] => []
  | (k, v) :: rest =>
    (quotedWithin around k ++ ": " ++ quotedWithin around v) :: quotedEntries around rest

end

/-- The quoted form of a value. -/
def quoted (v : Value) : String :=
  quotedWithin [] v

/-- The plain form of a value. -/
def written : Value → String
  | text s => s
  | decimal d => d.text
  | date d => d.text
  | dateTime t => t.textWith ' '
  | uuid u => u.text
  | member _ => "E.MEMBER"
  | textMember _ => "S.MEMBER"
  | directive d => d.render
  | v => v.quoted

/-! ## The limit of digits -/

/-- An integer has no more digits than its text may have. -/
def isShort (n : Int) : Bool :=
  n.natAbs < Nat.pow 10 Number.digitLimit

mutual

/-- The quoted form of a value inside collections with given marks can be made. -/
def quotableWithin (around : List Mark) : Value → Bool
  | int n => isShort n
  | list items => quotableItems around items
  | tuple items => quotableItems around items
  | set items => quotableItems around items
  | map entries => quotableEntries around entries
  | member v => quotableWithin around v
  | marked mark v => around.contains mark || quotableWithin (mark :: around) v
  | _ => true

/-- The quoted forms of values inside collections can be made. -/
def quotableItems (around : List Mark) : List Value → Bool
  | [] => true
  | v :: rest => quotableWithin around v && quotableItems around rest

/-- The quoted forms of the entries of a mapping inside collections can be made. -/
def quotableEntries (around : List Mark) : List (Value × Value) → Bool
  | [] => true
  | (k, v) :: rest =>
    quotableWithin around k && quotableWithin around v && quotableEntries around rest

end

/-- The quoted form of a value can be made. -/
def isQuotable (v : Value) : Bool :=
  quotableWithin [] v

/-- The plain form of a value can be made. -/
def isWritable : Value → Bool
  | member _ => true
  | v => v.isQuotable

end Value

/-- An integer has more digits than its text may have. -/
structure LongInteger where
  deriving DecidableEq

/-- The text of the error. -/
def LongInteger.message (_ : LongInteger) : String :=
  "Exceeds the limit (" ++ toString Number.digitLimit ++
    " digits) for integer string conversion; use sys.set_int_max_str_digits() to increase the limit"

/-- The plain form of a value, if it can be made. -/
def Value.write (v : Value) : Except LongInteger String :=
  if v.isWritable then .ok v.written else .error {}

/-- What is made is the plain form. -/
theorem Value.write_eq_ok_iff {v : Value} {s : String} :
    v.write = .ok s ↔ v.isWritable = true ∧ v.written = s := by
  unfold Value.write
  split <;> simp [*]

end ScopeSearch
