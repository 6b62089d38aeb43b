/-!
# Laws of computations that may fail

A computation succeeds when all of its steps do, and its result is then made of theirs.
-/

set_option autoImplicit false

namespace ScopeSearch

variable {ε δ α β : Type}

/-- A sequence of two steps succeeds when both do. -/
theorem bind_eq_ok_iff {x : Except ε α} {f : α → Except ε β} {b : β} :
    x >>= f = .ok b ↔ ∃ a, x = .ok a ∧ f a = .ok b := by
  cases x with
  | error e => simp [bind, Except.bind]
  | ok a => simp [bind, Except.bind]

/-- What is done to the result of a step does not make it fail. -/
theorem map_eq_ok_iff {x : Except ε α} {f : α → β} {b : β} :
    x.map f = .ok b ↔ ∃ a, x = .ok a ∧ f a = b := by
  cases x with
  | error e => simp [Except.map]
  | ok a => simp [Except.map]

/-- A sequence of two steps has a result when the second has one for the result of the first. -/
theorem exists_bind_eq_ok_iff {x : Except ε α} {f : α → Except ε β} :
    (∃ b, x >>= f = .ok b) ↔ ∃ a, x = .ok a ∧ ∃ b, f a = .ok b := by
  simp only [bind_eq_ok_iff]
  exact ⟨fun ⟨b, a, ha, hb⟩ => ⟨a, ha, b, hb⟩, fun ⟨a, ha, b, hb⟩ => ⟨b, a, ha, hb⟩⟩

/-- Changing the result of a step does not change whether it has one. -/
theorem exists_map_eq_ok_iff {x : Except ε α} {f : α → β} :
    (∃ b, x.map f = .ok b) ↔ ∃ a, x = .ok a := by
  simp only [map_eq_ok_iff]
  exact ⟨fun ⟨_, a, ha, _⟩ => ⟨a, ha⟩, fun ⟨a, ha⟩ => ⟨f a, a, ha, rfl⟩⟩

/-- A step succeeds whatever its errors are turned into. -/
theorem mapError_eq_ok_iff {x : Except ε α} {f : ε → δ} {a : α} :
    x.mapError f = .ok a ↔ x = .ok a := by
  cases x with
  | error e => exact ⟨nofun, nofun⟩
  | ok b =>
    constructor <;> rintro ⟨⟩ <;> rfl

/-- A result is kept exactly if the computation succeeded with it. -/
theorem toOption_eq_some_iff {x : Except ε α} {a : α} : x.toOption = some a ↔ x = .ok a := by
  cases x <;> simp [Except.toOption]

/-- A result that is there is the result of a step that succeeds. -/
theorem exists_eq_ok_of_isSome {x : Except ε α} (h : x.toOption.isSome = true) :
    ∃ a, x = .ok a := by
  cases x with
  | error e => cases h
  | ok a => exact ⟨a, rfl⟩

/-- A sequence of two steps has the result of the second. -/
theorem toOption_bind {x : Except ε α} {f : α → Except ε β} :
    (x >>= f).toOption = x.toOption.bind fun a => (f a).toOption := by
  cases x <;> rfl

/-- Steps that succeed with equally shaped results still do so when they go on alike. -/
theorem map_toOption_bind_congr {σ τ : Type} {x y : Except ε α} {f g : α → Except ε β}
    {s : α → σ} {t : β → τ} (hxy : x.toOption.map s = y.toOption.map s)
    (hfg : ∀ a b, s a = s b → (f a).toOption.map t = (g b).toOption.map t) :
    (x >>= f).toOption.map t = (y >>= g).toOption.map t := by
  rw [toOption_bind, toOption_bind]
  cases x with
  | error e =>
    cases y with
    | error e' => rfl
    | ok b => simp [Except.toOption] at hxy
  | ok a =>
    cases y with
    | error e' => simp [Except.toOption] at hxy
    | ok b => exact hfg a b (by simpa [Except.toOption] using hxy)

end ScopeSearch
