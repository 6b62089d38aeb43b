import ScopeSearch.Calendar
import ScopeSearch.Directive
import ScopeSearch.KeyedList
import ScopeSearch.KeywordFilter
import ScopeSearch.Number.Decimal
import ScopeSearch.Number.Shortest
import ScopeSearch.Uuid

/-!
# Values

Declarations of scopes, rows of a table and extra fields of a log record hold values of many kinds.
Beside the kinds of a configuration file there are members of enumerations, one-shot streams and
objects of which only the text is known.

Two values are the same key of a mapping when they denote the same number, the same text, the same
moment, and so on: `1`, `true` and `1.0` are one key.  A member of a text enumeration is the same
key as its text.  A member of any other enumeration, a stream, an object and a value that is not a
number are the same as nothing else.

A collection may hold itself.  Such a value is unrolled as far as it is looked at, and its
collections carry marks: two parts with the same mark are the same collection.
-/

set_option autoImplicit false

namespace ScopeSearch

open Number (Double Decimal)

/-- What tells a collection from others: its number, and a number of the part of it that is
meant. -/
abbrev Mark := Nat × Nat

/-- A value of a declaration, a row or a log record. -/
inductive Value where
  | null
  | bool (b : Bool)
  | int (n : Int)
  | float (x : Double)
  | text (s : String)
  | bytes (octets : List UInt8)
  | decimal (d : Decimal)
  | date (d : Date)
  | dateTime (t : DateTime)
  | uuid (u : Uuid)
  | list (items : List Value)
  | tuple (items : List Value)
  | set (items : List Value)
  | stream (items : List Value)
  | map (entries : List (Value × Value))
  | member (value : Value)
  | textMember (s : String)
  | object (s : String)
  | directive (d : Directive)
  | filter (f : KeywordFilter)
  /-- A collection that may hold itself, unrolled. -/
  | marked (mark : Mark) (collection : Value)
  deriving Inhabited

namespace Value

/-- The name of the kind of a value. -/
def kind : Value → String
  | null => "NoneType"
  | bool _ => "bool"
  | int _ => "int"
  | float _ => "float"
  | text _ => "str"
  | bytes _ => "bytes"
  | decimal _ => "Decimal"
  | date _ => "date"
  | dateTime _ => "datetime"
  | uuid _ => "UUID"
  | list _ => "list"
  | tuple _ => "tuple"
  | set _ => "set"
  | stream _ => "generator"
  | map _ => "dict"
  | member _ => "E"
  | textMember _ => "S"
  | object _ => "Text"
  | directive _ => "ScopeDirective"
  | filter _ => "FilterSpec"
  | marked _ v => kind v

/-- A value without its mark. -/
def bare : Value → Value
  | marked _ v => bare v
  | v => v

mutual

/-- A value inside collections with given marks holds one of them again. -/
def recursWithin (around : List Mark) : Value → Bool
  | list items => anyRecursWithin around items
  | tuple items => anyRecursWithin around items
  | map entries => anyEntryRecursWithin around entries
  | marked mark v => around.contains mark || recursWithin (mark :: around) v
  | _ => false

/-- One of the values inside collections holds one of these again. -/
def anyRecursWithin (around : List Mark) : List Value → Bool
  | [] => false
  | v :: rest => recursWithin around v || anyRecursWithin around rest

/-- The value of one of the entries inside collections holds one of these again. -/
def anyEntryRecursWithin (around : List Mark) : List (Value × Value) → Bool
  | [] => false
  | (_, v) :: rest => recursWithin around v || anyEntryRecursWithin around rest

end

/-- A collection holds itself; such a value has no end. -/
def isEndless (v : Value) : Bool :=
  recursWithin [] v

/-- Zero, the empty text and the empty collections are false, and so are null and `false`;
everything else is true. -/
def isTruthy : Value → Bool
  | null => false
  | bool b => b
  | int n => n != 0
  | float x => !x.isZero
  | text s => s != ""
  | bytes octets => !octets.isEmpty
  | decimal d => !d.isZero
  | list items => !items.isEmpty
  | tuple items => !items.isEmpty
  | set items => !items.isEmpty
  | map entries => !entries.isEmpty
  | textMember s => s != ""
  | marked _ v => isTruthy v
  | _ => true

/-- The text that a value is, if it is one. -/
def text? : Value → Option String
  | text s => some s
  | textMember s => some s
  | _ => none

/-- The entries of a mapping. -/
def map? : Value → Option (List (Value × Value))
  | map entries => some entries
  | marked _ v => map? v
  | _ => none

/-- A finite number as a sign and a ratio of natural numbers. -/
def ratio? : Value → Option (Bool × Nat × Nat)
  | bool b => some (false, if b then 1 else 0, 1)
  | int n => some (n < 0, n.natAbs, 1)
  | float x => x.ratio?
  | decimal (.finite negative coefficient exponent) =>
    some (negative, Number.scaleRatio 10 coefficient 1 exponent)
  | _ => none

/-- The sign of an infinite number. -/
def infinite? : Value → Option Bool
  | float (.infinite negative) => some negative
  | decimal (.infinite negative) => some negative
  | _ => none

/-- Two finite numbers are equal. -/
def sameRatio (x y : Bool × Nat × Nat) : Bool :=
  x.2.1 * y.2.2 == y.2.1 * x.2.2 && (x.1 == y.1 || x.2.1 == 0)

/-- Two values without parts are the same key. -/
def sameScalar (v w : Value) : Bool :=
  match v.ratio?, w.ratio? with
  | some x, some y => sameRatio x y
  | some _, none => false
  | none, some _ => false
  | none, none =>
    match v.infinite?, w.infinite? with
    | some a, some b => a == b
    | some _, none => false
    | none, some _ => false
    | none, none =>
      match v.text?, w.text? with
      | some s, some t => s == t
      | some _, none => false
      | none, some _ => false
      | none, none =>
        match v, w with
        | null, null => true
        | bytes a, bytes b => a == b
        | date a, date b => a == b
        | dateTime a, dateTime b => a.same b
        | uuid a, uuid b => a == b
        | directive a, directive b => a == b
        | filter a, filter b => a == b
        | _, _ => false

mutual

/-- Two values are the same key. -/
def sameKey : Value → Value → Bool
  | tuple xs, tuple ys => sameKeys xs ys
  | v, w => sameScalar v w

/-- Two lists of values are the same key, element by element. -/
def sameKeys : List Value → List Value → Bool
  | [], [] => true
  | x :: xs, y :: ys => sameKey x y && sameKeys xs ys
  | _, _ => false

end

/-- Values are compared as the keys of mappings. -/
instance : BEq Value := ⟨sameKey⟩

mutual

/-- A value that can be a key: collections other than tuples of keys cannot, and neither can a
signaling decimal that is not a number. -/
def isKey : Value → Bool
  | list _ => false
  | tuple items => areKeys items
  | set _ => false
  | map _ => false
  | marked _ _ => false
  | decimal (.nan _ signaling _) => !signaling
  | _ => true

/-- All of the values can be keys. -/
def areKeys : List Value → Bool
  | [] => true
  | v :: rest => isKey v && areKeys rest

end

/-- The value under a text key of a mapping. -/
def field? (name : String) (entries : List (Value × Value)) : Option Value :=
  KeyedList.find? (text name) entries

/-- The value under a text key of a mapping, null when there is none. -/
def field (name : String) (entries : List (Value × Value)) : Value :=
  (field? name entries).getD null

end Value

end ScopeSearch
