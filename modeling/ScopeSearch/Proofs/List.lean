import Mathlib.Data.List.Basic

/-!
# Laws of lists

A list with a separator is cut at the first one in only one way, and what is done to the elements of
lists around a separator, or asked of them, is done to each list.
-/

set_option autoImplicit false

namespace ScopeSearch

variable {α β : Type}

/-- Lists that are equal around a first occurrence are equal on both sides of it. -/
theorem eq_of_append_cons_eq {x : α} {l l' r r' : List α} (hl : x ∉ l) (hl' : x ∉ l')
    (h : l ++ x :: r = l' ++ x :: r') : l = l' ∧ r = r' := by
  induction l generalizing l' with
  | nil =>
    cases l' with
    | nil => simpa using h
    | cons c rest =>
      obtain ⟨rfl, -⟩ : x = c ∧ r = rest ++ x :: r' := by simpa using h
      simp at hl'
  | cons c rest ih =>
    cases l' with
    | nil =>
      obtain ⟨rfl, -⟩ : c = x ∧ rest ++ x :: r = r' := by simpa using h
      simp at hl
    | cons c' rest' =>
      obtain ⟨rfl, htail⟩ : c = c' ∧ rest ++ x :: r = rest' ++ x :: r' := by simpa using h
      simp only [List.mem_cons, not_or] at hl hl'
      obtain ⟨rfl, rfl⟩ := ih hl.2 hl'.2 htail
      exact ⟨rfl, rfl⟩

/-- What is done to every element is done to every part. -/
theorem map_intercalate (f : α → β) (sep : List α) (parts : List (List α)) :
    (sep.intercalate parts).map f = (sep.map f).intercalate (parts.map (List.map f)) := by
  induction parts with
  | nil => simp
  | cons part rest ih =>
    cases rest with
    | nil => simp
    | cons next rest =>
      rw [List.map_cons, List.map_cons, List.intercalate_cons_cons, List.intercalate_cons_cons,
        List.map_append, List.map_append, ih, List.map_cons]

/-- A separator of which nothing is kept vanishes. -/
theorem filterMap_intercalate (f : α → Option β) {sep : List α} (hsep : sep.filterMap f = [])
    (parts : List (List α)) :
    (sep.intercalate parts).filterMap f = parts.flatMap (List.filterMap f) := by
  induction parts with
  | nil => simp
  | cons part rest ih =>
    cases rest with
    | nil => simp
    | cons next rest =>
      rw [List.intercalate_cons_cons, List.filterMap_append, List.filterMap_append, hsep, ih,
        List.append_nil]
      rfl

/-- What is not part of the separator comes from one of the parts. -/
theorem mem_intercalate_iff {x : α} {sep : List α} (hx : x ∉ sep) (parts : List (List α)) :
    x ∈ sep.intercalate parts ↔ ∃ part ∈ parts, x ∈ part := by
  induction parts with
  | nil => simp
  | cons part rest ih =>
    cases rest with
    | nil => simp
    | cons next rest =>
      rw [List.intercalate_cons_cons, List.append_assoc, List.mem_append, List.mem_append,
        or_iff_right hx, ih]
      simp only [List.mem_cons, exists_eq_or_imp]

end ScopeSearch
