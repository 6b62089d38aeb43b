import Mathlib.Data.List.Forall2
import ScopeSearch.Proofs.JsonWriting
import ScopeSearch.Redaction

/-!
# Redacted fields

A field of a log record is redacted through the lists and tuples in it, however deep they are.  What
comes out can be written as JSON if the field could.
-/

set_option autoImplicit false

namespace ScopeSearch

namespace Value

/-- The elements of a list or a tuple. -/
def items? : Value → Option (List Value)
  | list items => some items
  | tuple items => some items
  | _ => none

/-- Every text that lists and tuples alone lead to is redacted.  A tuple becomes a list, and any
other value stays as it is. -/
inductive IsRedacted : Value → Value → Prop
  | text {v : Value} {s : String} : v.text? = some s → IsRedacted v (.text (redact s))
  | items {v : Value} {items redacted : List Value} : v.items? = some items →
      List.Forall₂ IsRedacted items redacted → IsRedacted v (.list redacted)
  | other {v : Value} : v.text? = none → v.items? = none → IsRedacted v v

/-- The elements of a list are redacted one by one. -/
theorem redactValues_eq_map (items : List Value) : redactValues items = items.map redactValue := by
  induction items with
  | nil => rfl
  | cons v rest ih => rw [redactValues, ih, List.map_cons]

/-- A redacted list can be written, and its elements are redacted, if that is so for each of them.
-/
theorem redactValues_spec {items : List Value}
    (ih : ∀ v ∈ items, (∃ s, Json.render v = .ok s) →
      (redactValue v).IsWritable ∧ IsRedacted v (redactValue v))
    (h : ∃ s, (Json.renderItems items).map Json.arrayText = .ok s) :
    (list (redactValues items)).IsWritable ∧
      List.Forall₂ IsRedacted items (redactValues items) := by
  have hitems := Json.exists_renderItems_iff.mp (exists_map_eq_ok_iff.mp h)
  have hredacted (v : Value) (hv : v ∈ items) := ih v hv (hitems v hv)
  rw [redactValues_eq_map]
  refine ⟨⟨.list ?_, ?_⟩, ?_⟩
  · intro w hw
    obtain ⟨v, hv, rfl⟩ := List.mem_map.mp hw
    exact (hredacted v hv).1.wellFormed
  · simp only [Json.render, exists_map_eq_ok_iff, Json.exists_renderItems_iff]
    intro w hw
    obtain ⟨v, hv, rfl⟩ := List.mem_map.mp hw
    exact (hredacted v hv).1.renders
  · rw [List.forall₂_map_right_iff, List.forall₂_same]
    exact fun v hv => (hredacted v hv).2

/-- The redacted form of a value can be shown if the value can. -/
theorem IsWritable.redactValue {v : Value} (h : v.IsWritable) :
    (redactValue v).IsWritable ∧ IsRedacted v (redactValue v) := by
  obtain ⟨hv, hs⟩ := h
  induction hv with
  | @leaf v hleaf =>
    cases v with
    | text s => exact ⟨isWritable_text _, .text rfl⟩
    | textMember s => exact ⟨isWritable_text _, .text rfl⟩
    | list items => cases hleaf
    | tuple items => cases hleaf
    | _ => exact ⟨⟨.leaf hleaf, hs⟩, .other rfl rfl⟩
  | float hx => exact ⟨⟨.float hx, hs⟩, .other rfl rfl⟩
  | list _ ih =>
    obtain ⟨hwritable, hitems⟩ := redactValues_spec ih hs
    exact ⟨hwritable, .items rfl hitems⟩
  | tuple _ ih =>
    obtain ⟨hwritable, hitems⟩ := redactValues_spec ih hs
    exact ⟨hwritable, .items rfl hitems⟩
  | map hkeys hvalues _ => exact ⟨⟨.map hkeys hvalues, hs⟩, .other rfl rfl⟩

end Value

end ScopeSearch
