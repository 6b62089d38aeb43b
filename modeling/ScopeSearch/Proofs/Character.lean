import ScopeSearch.Text.Alphanumeric
import ScopeSearch.Text.Blank

/-!
# Characters by their code points

Letters and digits of the ASCII alphabet have small code points, so what holds of all of them is
found by looking at the first few code points.
-/

set_option autoImplicit false

namespace ScopeSearch

/-- What holds of the first code points holds of their characters. -/
theorem of_toNat_le {P : Char → Prop} {n : Nat} (h : ∀ k ≤ n, P (Char.ofNat k)) {c : Char}
    (hc : c.toNat ≤ n) : P c := by
  have hP := h c.toNat hc
  rwa [Char.ofNat_toNat] at hP

/-- A character other than NUL has the number that it was made of. -/
theorem toNat_of_ofNat_eq {n : Nat} {c : Char} (h : Char.ofNat n = c) (hc : c.toNat ≠ 0) :
    n = c.toNat := by
  subst h
  by_cases hn : n.isValidChar
  · rw [Char.ofNat, dif_pos hn]
    rfl
  · rw [Char.ofNat, dif_neg hn] at hc
    exact absurd rfl hc

/-- The codes of the decimal digits lie between those of 0 and 9. -/
theorem toNat_of_isDigit {c : Char} (h : c.isDigit = true) : 48 ≤ c.toNat ∧ c.toNat ≤ 57 := by
  simp only [Char.isDigit, Bool.and_eq_true, decide_eq_true_eq, ge_iff_le,
    UInt32.le_iff_toNat_le] at h
  exact h

/-- Letters and digits lie in one range of codes. -/
theorem toNat_of_isAlphanum {c : Char} (h : c.isAlphanum = true) :
    48 ≤ c.toNat ∧ c.toNat ≤ 122 := by
  have hcases : ((c.isUpper || c.isLower) || c.isDigit) = true := h
  rw [Bool.or_eq_true, Bool.or_eq_true] at hcases
  rcases hcases with (hupper | hlower) | hdigit
  · have hbounds : 65 ≤ c.toNat ∧ c.toNat ≤ 90 := of_decide_eq_true hupper
    omega
  · have hbounds : 97 ≤ c.toNat ∧ c.toNat ≤ 122 := by
      have hparts := Bool.and_eq_true_iff.mp hlower
      exact ⟨of_decide_eq_true hparts.1, of_decide_eq_true hparts.2⟩
    omega
  · have hbounds := toNat_of_isDigit hdigit
    omega

/-- A word character of ASCII is not blank. -/
theorem isBlank_of_isAsciiWord {c : Char} (h : Text.isAsciiWord c = true) :
    Text.isBlank c = false := by
  have hascii : c.toNat ≤ 122 := by
    rw [Text.isAsciiWord, Bool.or_eq_true, beq_iff_eq] at h
    rcases h with h | rfl
    · exact (toNat_of_isAlphanum h).2
    · decide
  have hall := of_toNat_le (P := fun c => Text.isAsciiWord c = true → Text.isBlank c = false)
    (by decide +kernel) hascii
  exact hall h

end ScopeSearch
