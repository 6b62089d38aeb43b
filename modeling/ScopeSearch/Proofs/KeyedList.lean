import Mathlib.Data.List.Nodup
import ScopeSearch.KeyedList

/-!
# Laws of keyed lists

The keys of a keyed list decide alone where a value is put: two lists with the same keys have the
same keys after the same keys have been put into both.  Putting keys that are all new appends them,
a key that occurs once is found with the value it was put with, and of several values for one key
the last one is found.
-/

set_option autoImplicit false

namespace ScopeSearch

namespace KeyedList

variable {κ ν : Type} [BEq κ] [LawfulBEq κ]

omit [BEq κ] [LawfulBEq κ] in
/-- The empty list has no keys. -/
@[simp]
theorem keys_nil : keys ([] : KeyedList κ ν) = [] :=
  rfl

omit [BEq κ] [LawfulBEq κ] in
/-- The key of the first pair comes first. -/
@[simp]
theorem keys_cons (p : κ × ν) (l : KeyedList κ ν) : keys (p :: l) = p.1 :: keys l :=
  rfl

omit [BEq κ] [LawfulBEq κ] in
/-- The keys of two lists follow one another. -/
@[simp]
theorem keys_append (l m : KeyedList κ ν) : keys (l ++ m) = keys l ++ keys m :=
  List.map_append

/-- A key that is there keeps its position, and a new one comes last. -/
theorem keys_put (k : κ) (v : ν) (l : KeyedList κ ν) :
    (l.put k v).keys = if l.keys.contains k then l.keys else l.keys ++ [k] := by
  induction l with
  | nil => simp [put]
  | cons p rest ih =>
    by_cases h : p.1 = k
    · simp [put, h]
    · have hne : (p.1 == k) = false := by simpa using h
      have hne' : (k == p.1) = false := by simpa using fun e : k = p.1 => h e.symm
      rw [put, if_neg (by simp [hne]), keys_cons, ih, keys_cons, List.contains_cons, hne',
        Bool.false_or]
      split <;> rfl

omit [LawfulBEq κ] in
/-- Pairs are put one after the other, from the first on. -/
theorem putAll_cons (l : KeyedList κ ν) (p : κ × ν) (rest : List (κ × ν)) :
    l.putAll (p :: rest) = (l.put p.1 p.2).putAll rest :=
  rfl

/-- The keys after putting pairs depend on keys alone. -/
theorem keys_putAll_congr {l l' : KeyedList κ ν} {pairs pairs' : List (κ × ν)}
    (hl : l.keys = l'.keys) (hpairs : keys pairs = keys pairs') :
    (l.putAll pairs).keys = (l'.putAll pairs').keys := by
  induction pairs generalizing l l' pairs' with
  | nil =>
    cases pairs' with
    | nil => exact hl
    | cons p' rest' => simp at hpairs
  | cons p rest ih =>
    cases pairs' with
    | nil => simp at hpairs
    | cons p' rest' =>
      rw [keys_cons, keys_cons, List.cons.injEq] at hpairs
      obtain ⟨hkey, hrest⟩ := hpairs
      have hput : (l.put p.1 p.2).keys = (l'.put p'.1 p'.2).keys := by
        rw [keys_put, keys_put, hl, hkey]
      rw [putAll_cons, putAll_cons]
      exact ih hput hrest

/-- A new key is put at the end. -/
theorem put_of_not_mem {k : κ} {v : ν} {l : KeyedList κ ν} (h : k ∉ l.keys) :
    l.put k v = l ++ [(k, v)] := by
  induction l with
  | nil => rfl
  | cons p rest ih =>
    rw [keys_cons, List.mem_cons, not_or] at h
    have hne : (p.1 == k) = false := by simpa using fun e : p.1 = k => h.1 e.symm
    rw [put, if_neg (by simp [hne]), ih h.2, List.cons_append]

/-- Pairs with new and distinct keys are put at the end, in order. -/
theorem putAll_of_nodup {l : KeyedList κ ν} {pairs : List (κ × ν)}
    (h : (l.keys ++ keys pairs).Nodup) : l.putAll pairs = l ++ pairs := by
  induction pairs generalizing l with
  | nil => simp [putAll]
  | cons p rest ih =>
    have hnew : p.1 ∉ l.keys := by
      intro hmem
      rw [List.nodup_append] at h
      exact h.2.2 _ hmem _ (by simp) rfl
    have hrest : ((l ++ [p]).keys ++ keys rest).Nodup := by
      simpa using h
    calc l.putAll (p :: rest) = (l.put p.1 p.2).putAll rest := putAll_cons l p rest
      _ = (l ++ [p]).putAll rest := by rw [put_of_not_mem hnew]
      _ = l ++ [p] ++ rest := ih hrest
      _ = l ++ p :: rest := by simp

/-- The keyed list of pairs with distinct keys is the list of the pairs. -/
theorem ofPairs_of_nodup {pairs : List (κ × ν)} (h : (keys pairs).Nodup) :
    ofPairs pairs = pairs := by
  rw [ofPairs, putAll_of_nodup (by simpa using h), List.nil_append]

/-- A pair of a list with distinct keys is found under its key. -/
theorem find?_of_mem {k : κ} {v : ν} {l : KeyedList κ ν} (hkeys : l.keys.Nodup)
    (hmem : (k, v) ∈ l) : l.find? k = some v := by
  induction l with
  | nil => simp at hmem
  | cons p rest ih =>
    rw [keys_cons, List.nodup_cons] at hkeys
    rw [List.mem_cons] at hmem
    rcases hmem with rfl | hrest
    · simp [find?]
    · have hne : (p.1 == k) = false := by
        have hk : k ∈ keys rest := List.mem_map_of_mem (f := Prod.fst) hrest
        simpa using fun e : p.1 = k => hkeys.1 (e ▸ hk)
      rw [find?, if_neg (by simp [hne])]
      exact ih hkeys.2 hrest

/-- What is found under a key is a pair of the list. -/
theorem mem_of_find? {k : κ} {v : ν} {l : KeyedList κ ν} (h : l.find? k = some v) :
    (k, v) ∈ l := by
  induction l with
  | nil => simp [find?] at h
  | cons p rest ih =>
    rw [find?] at h
    split at h
    · next hk =>
      have hp : p = (k, v) := Prod.ext (by simpa using hk) (by simpa using h)
      exact hp ▸ List.mem_cons_self
    · exact List.mem_cons_of_mem p (ih h)

/-- Nothing is found exactly under what is not a key. -/
theorem find?_eq_none_iff {k : κ} {l : KeyedList κ ν} : l.find? k = none ↔ k ∉ l.keys := by
  induction l with
  | nil => simp [find?]
  | cons p rest ih =>
    rw [find?, keys_cons, List.mem_cons, not_or, ← ih]
    by_cases h : p.1 = k
    · simp [h]
    · have hne : ¬ k = p.1 := fun e => h e.symm
      simp [h, hne]

/-- A list has exactly its keys. -/
theorem has_iff {k : κ} {l : KeyedList κ ν} : l.has k = true ↔ k ∈ l.keys := by
  rw [has, Option.isSome_iff_ne_none, ne_eq, find?_eq_none_iff, not_not]

/-- Putting a value under a key keeps the keys distinct. -/
theorem nodup_put {k : κ} {v : ν} {l : KeyedList κ ν} (h : l.keys.Nodup) :
    (l.put k v).keys.Nodup := by
  rw [keys_put]
  split
  · exact h
  · next hk =>
    rw [List.contains_iff_mem] at hk
    rw [List.nodup_append]
    refine ⟨h, List.nodup_singleton k, ?_⟩
    intro a ha b hb hab
    rw [List.mem_singleton] at hb
    exact hk (hb ▸ hab ▸ ha)

/-- Keys that are renamed apart are found as before. -/
theorem find?_map_key {f : κ → κ} (hf : Function.Injective f) (k : κ) (l : KeyedList κ ν) :
    find? (f k) (l.map fun p => (f p.1, p.2)) = l.find? k := by
  induction l with
  | nil => rfl
  | cons p rest ih =>
    have hkey : (f p.1 == f k) = (p.1 == k) := by
      rw [Bool.eq_iff_iff, beq_iff_eq, beq_iff_eq, hf.eq_iff]
    rw [List.map_cons, find?, find?, hkey, ih]

/-- A value that is put is found under its key, and all other keys keep theirs. -/
theorem find?_put (k k' : κ) (v : ν) (l : KeyedList κ ν) :
    (l.put k v).find? k' = if k == k' then some v else l.find? k' := by
  induction l with
  | nil => rfl
  | cons p rest ih =>
    rw [put]
    by_cases hp : p.1 = k
    · subst hp
      rw [if_pos BEq.rfl, find?, find?]
      split <;> rfl
    · rw [if_neg (by simpa using hp), find?, find?, ih]
      by_cases hk : k = k'
      · subst hk
        simp [hp]
      · simp [hk]

/-- Of the pairs that are put the last one with a key counts. -/
theorem find?_putAll (k : κ) (l : KeyedList κ ν) (pairs : List (κ × ν)) :
    (l.putAll pairs).find? k =
      ((pairs.reverse.find? fun p => p.1 == k).map Prod.snd).or (l.find? k) := by
  induction pairs generalizing l with
  | nil => rfl
  | cons p rest ih =>
    rw [putAll_cons, ih, find?_put, List.reverse_cons, List.find?_append, List.find?_singleton]
    cases rest.reverse.find? fun q => q.1 == k with
    | some q => rfl
    | none => cases hp : p.1 == k <;> rfl

/-- Under a key stands the value of the last pair that has it. -/
theorem find?_ofPairs (k : κ) (pairs : List (κ × ν)) :
    (ofPairs pairs).find? k = (pairs.reverse.find? fun p => p.1 == k).map Prod.snd := by
  rw [ofPairs, find?_putAll]
  exact Option.or_none

/-- A value that is put is the new one or was there. -/
theorem mem_put {k : κ} {v : ν} {l : KeyedList κ ν} {p : κ × ν} (h : p ∈ l.put k v) :
    p = (k, v) ∨ p ∈ l := by
  induction l with
  | nil => simpa [put] using h
  | cons q rest ih =>
    rw [put] at h
    split at h
    · next hk =>
      rw [List.mem_cons] at h
      rcases h with rfl | hrest
      · exact Or.inl (Prod.ext (by simpa using hk) rfl)
      · exact Or.inr (List.mem_cons_of_mem q hrest)
    · rw [List.mem_cons] at h
      rcases h with rfl | hrest
      · exact Or.inr List.mem_cons_self
      · exact (ih hrest).imp_right (List.mem_cons_of_mem q)

/-- The pairs of a list after pairs have been put into it are among both. -/
theorem mem_putAll {l : KeyedList κ ν} {pairs : List (κ × ν)} {p : κ × ν}
    (h : p ∈ l.putAll pairs) : p ∈ l ∨ p ∈ pairs := by
  induction pairs generalizing l with
  | nil => exact Or.inl h
  | cons q rest ih =>
    rcases ih (l := l.put q.1 q.2) h with hput | hrest
    · rcases mem_put hput with rfl | hl
      · exact Or.inr List.mem_cons_self
      · exact Or.inl hl
    · exact Or.inr (List.mem_cons_of_mem q hrest)

end KeyedList

end ScopeSearch
