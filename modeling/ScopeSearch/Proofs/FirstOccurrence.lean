import Mathlib.Data.List.Induction
import Mathlib.Data.List.Nodup
import Mathlib.Data.List.Perm.Basic
import ScopeSearch.KeyedList

/-!
# First occurrences

A list is gone through from the front, and an element joins the ones before it unless it is among
them.  Every law follows from what one more element at the end adds.  The result holds the elements
of the list, in the order in which they first stand there, and it is the only list that does.

What stands behind a list is looked at by its first occurrences alone, so a list that is put
together from parts has the same first occurrences when each part is reduced to its own.
-/

set_option autoImplicit false

namespace ScopeSearch

variable {α : Type} [BEq α]

/-- The elements of a list, in the order in which they first stand in it. -/
structure AreFirstOccurrences (first xs : List α) : Prop where
  mem_iff : ∀ x, x ∈ first ↔ x ∈ xs
  ordered : first.Pairwise fun x y => xs.idxOf x < xs.idxOf y

/-- No element is there twice. -/
theorem AreFirstOccurrences.nodup {first xs : List α} (h : AreFirstOccurrences first xs) :
    first.Nodup := by
  apply h.ordered.imp
  rintro x y hlt rfl
  exact Nat.lt_irrefl _ hlt

/-- The order in which they stand tells the first occurrences. -/
theorem AreFirstOccurrences.unique {first other xs : List α} (h : AreFirstOccurrences first xs)
    (h' : AreFirstOccurrences other xs) : first = other := by
  apply List.Perm.eq_of_pairwise _ h.ordered h'.ordered
  · rw [List.perm_ext_iff_of_nodup h.nodup h'.nodup]
    intro x
    rw [h.mem_iff, h'.mem_iff]
  · intro x y _ _ hlt hgt
    exact absurd (Nat.lt_trans hlt hgt) (Nat.lt_irrefl _)

/-- One more element at the end is kept unless it was kept before. -/
theorem firstOccurrences_concat (xs : List α) (x : α) :
    firstOccurrences (xs ++ [x]) =
      if (firstOccurrences xs).contains x then firstOccurrences xs
      else firstOccurrences xs ++ [x] := by
  rw [firstOccurrences, List.foldl_append]
  rfl

/-- First occurrences are their own. -/
theorem firstOccurrences_idem (xs : List α) :
    firstOccurrences (firstOccurrences xs) = firstOccurrences xs := by
  induction xs using List.reverseRecOn with
  | nil => rfl
  | append_singleton xs x ih =>
    rw [firstOccurrences_concat]
    split
    · exact ih
    · next hx => rw [firstOccurrences_concat, ih, if_neg hx]

variable [LawfulBEq α]

/-- Going through a list from the front finds its first occurrences. -/
theorem areFirstOccurrences (xs : List α) : AreFirstOccurrences (firstOccurrences xs) xs := by
  induction xs using List.reverseRecOn with
  | nil => exact ⟨fun _ => Iff.rfl, .nil⟩
  | append_singleton xs x ih =>
    -- what stands in the list already keeps its place in front of the new element
    have hkept : (firstOccurrences xs).Pairwise fun y z =>
        (xs ++ [x]).idxOf y < (xs ++ [x]).idxOf z := by
      apply ih.ordered.imp_of_mem
      intro y z hy hz hlt
      rw [ih.mem_iff] at hy hz
      rwa [List.idxOf_append_of_mem hy, List.idxOf_append_of_mem hz]
    rw [firstOccurrences_concat]
    by_cases hx : x ∈ xs
    · rw [if_pos (List.contains_iff_mem.mpr ((ih.mem_iff x).mpr hx))]
      refine ⟨?_, hkept⟩
      intro y
      rw [ih.mem_iff, List.mem_append, List.mem_singleton]
      constructor
      · exact .inl
      · rintro (hy | rfl)
        · exact hy
        · exact hx
    · rw [if_neg (by simpa [ih.mem_iff] using hx)]
      refine ⟨?_, ?_⟩
      · intro y
        rw [List.mem_append, List.mem_append, ih.mem_iff]
      · rw [List.pairwise_append]
        refine ⟨hkept, List.pairwise_singleton _ _, ?_⟩
        intro y hy z hz
        obtain rfl := List.mem_singleton.mp hz
        rw [ih.mem_iff] at hy
        rw [List.idxOf_append_of_mem hy, List.idxOf_append_of_notMem hx]
        exact Nat.lt_add_right _ (List.idxOf_lt_length_of_mem hy)

/-- First occurrences are told by their laws. -/
theorem areFirstOccurrences_iff {first xs : List α} :
    AreFirstOccurrences first xs ↔ first = firstOccurrences xs := by
  constructor
  · intro h
    exact h.unique (areFirstOccurrences xs)
  · rintro rfl
    exact areFirstOccurrences xs

/-- Every element has a first occurrence. -/
theorem mem_firstOccurrences {x : α} {xs : List α} : x ∈ firstOccurrences xs ↔ x ∈ xs :=
  (areFirstOccurrences xs).mem_iff x

/-- Of what stands behind a list, only first occurrences are added, and only new ones. -/
theorem firstOccurrences_append (xs ys : List α) :
    firstOccurrences (xs ++ ys) =
      firstOccurrences xs ++ (firstOccurrences ys).filter fun y => !xs.contains y := by
  induction ys using List.reverseRecOn with
  | nil => simp [firstOccurrences]
  | append_singleton ys y ih =>
    rw [← List.append_assoc, firstOccurrences_concat, firstOccurrences_concat, ih]
    by_cases hxs : y ∈ xs
    · have hseen : y ∈ firstOccurrences xs := mem_firstOccurrences.mpr hxs
      rw [if_pos (by simp [hseen])]
      split
      · rfl
      · simp [hxs]
    · have hnew : y ∉ firstOccurrences xs := fun h => hxs (mem_firstOccurrences.mp h)
      by_cases hys : y ∈ firstOccurrences ys
      · rw [if_pos (by simp [hys, hxs]), if_pos (by simp [hys])]
      · rw [if_neg (by simp [hnew, hys]), if_neg (by simp [hys]), List.filter_append]
        simp [hxs]

/-- Parts may be reduced to their first occurrences before they are put together. -/
theorem firstOccurrences_flatMap (parts : List (List α)) :
    firstOccurrences (parts.flatMap firstOccurrences) = firstOccurrences parts.flatten := by
  induction parts with
  | nil => rfl
  | cons part rest ih =>
    have hcontains (y : α) : (firstOccurrences part).contains y = part.contains y := by
      rw [Bool.eq_iff_iff, List.contains_iff_mem, List.contains_iff_mem, mem_firstOccurrences]
    rw [List.flatMap_cons, List.flatten_cons, firstOccurrences_append, firstOccurrences_append,
      firstOccurrences_idem, ih]
    simp only [hcontains]

end ScopeSearch
