import ScopeSearch.Value

/-!
# Values ready for a response

A response holds texts, numbers, lists and mappings.  Decimals become floating-point numbers;
dates, moments and identifiers become texts; tuples become lists; directives and filters become
mappings of their fields.  Everything else stays as it is.
-/

set_option autoImplicit false

namespace ScopeSearch

namespace Value

/-- Texts as one value. -/
def texts (ss : List String) : Value :=
  list (ss.map text)

/-- An optional text as a value. -/
def ofOption : Option String → Value
  | none => null
  | some s => text s

/-- The fields of a directive. -/
def ofDirective (d : Directive) : Value :=
  map [(text "user_input", text d.userInput), (text "name", text d.name),
    (text "argument", ofOption d.argument)]

/-- The fields of a filter. -/
def ofFilter (f : KeywordFilter) : Value :=
  map [(text "unfiltered", bool f.unfiltered), (text "attributes", texts f.attributes),
    (text "parameters", texts f.parameters)]

mutual

/-- A value in the form that responses have. -/
def serialized : Value → Except Number.ConversionError Value
  | decimal d => d.toDouble.map float
  | date d => .ok (text d.text)
  | dateTime t => .ok (text (t.textWith 'T'))
  | uuid u => .ok (text u.text)
  | directive d => .ok (ofDirective d)
  | filter f => .ok (ofFilter f)
  | list items => (serializedItems items).map list
  | tuple items => (serializedItems items).map list
  | map entries => (serializedEntries entries).map map
  | marked _ v => serialized v
  | v => .ok v

/-- Values in the form that responses have. -/
def serializedItems : List Value → Except Number.ConversionError (List Value)
  | [] => .ok []
  | v :: rest => do
    let v ← serialized v
    return v :: (← serializedItems rest)

/-- Entries of a mapping in the form that responses have; keys stay as they are. -/
def serializedEntries :
    List (Value × Value) → Except Number.ConversionError (List (Value × Value))
  | [] => .ok []
  | (k, v) :: rest => do
    let v ← serialized v
    return (k, v) :: (← serializedEntries rest)

end

end Value

end ScopeSearch
