/-!
# Keyed lists

A keyed list holds one value for each of its keys, in the order in which the keys were first put.
Putting a key again replaces its value and keeps its position.
-/

set_option autoImplicit false

namespace ScopeSearch

/-- Pairs of keys and values. -/
abbrev KeyedList (κ ν : Type) := List (κ × ν)

namespace KeyedList

variable {κ ν : Type} [BEq κ]

/-- The value under a key. -/
def find? (k : κ) : KeyedList κ ν → Option ν
  | [] => none
  | (k', v) :: rest => if k' == k then some v else find? k rest

/-- A value under a key: in place of the one there, or else at the end. -/
def put (k : κ) (v : ν) : KeyedList κ ν → KeyedList κ ν
  | [] => [(k, v)]
  | (k', v') :: rest => if k' == k then (k', v) :: rest else (k', v') :: put k v rest

/-- Puts pairs one after the other. -/
def putAll (l : KeyedList κ ν) (pairs : List (κ × ν)) : KeyedList κ ν :=
  pairs.foldl (fun l p => l.put p.1 p.2) l

/-- The keyed list of pairs, the last value of a key winning. -/
def ofPairs (pairs : List (κ × ν)) : KeyedList κ ν :=
  putAll [] pairs

/-- The keys, in order. -/
def keys (l : KeyedList κ ν) : List κ :=
  l.map Prod.fst

/-- A key is present. -/
def has (l : KeyedList κ ν) (k : κ) : Bool :=
  (l.find? k).isSome

end KeyedList

/-- Each element once, where it first stands. -/
def firstOccurrences {α : Type} [BEq α] (xs : List α) : List α :=
  xs.foldl (fun seen x => if seen.contains x then seen else seen ++ [x]) []

end ScopeSearch
