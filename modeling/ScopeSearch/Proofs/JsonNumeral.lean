import Mathlib.Data.List.DropRight
import ScopeSearch.Number.Shortest
import ScopeSearch.Proofs.JsonReading

/-!
# The texts of numbers

The texts of integers and of floating-point numbers are numbers of JSON: their digits begin with a
zero only where nothing but a point follows it.  The significant digits of a decimal begin with
another digit because the decimal is not zero, and this is what has to be shown of the shortest
decimal of a number.  A decimal that reads back as the number is not zero, as zero reads back as
zero.  Where none has been found, the digits come from a division by the place of the last one,
which is not greater than the number.
-/

set_option autoImplicit false

namespace ScopeSearch

namespace Json

/-- Digits with further digits behind them are digits. -/
theorem IsDigits.append {s t : List Char} (hs : IsDigits s) (ht : ∀ c ∈ t, c.isDigit = true) :
    IsDigits (s ++ t) := by
  refine ⟨by simp [hs.1], ?_⟩
  intro c hc
  exact (List.mem_append.mp hc).elim (hs.2 c) (ht c)

/-- The first of some digits are digits. -/
theorem IsDigits.take {s : List Char} (h : IsDigits s) {n : Nat} (hn : n ≠ 0) :
    IsDigits (s.take n) := by
  refine ⟨?_, fun c hc => h.2 c (List.mem_of_mem_take hc)⟩
  rw [ne_eq, List.take_eq_nil_iff, not_or]
  exact ⟨hn, h.1⟩

/-- The last of some digits are digits. -/
theorem IsDigits.drop {s : List Char} (h : IsDigits s) {n : Nat} (hn : n < s.length) :
    IsDigits (s.drop n) := by
  refine ⟨?_, fun c hc => h.2 c (List.mem_of_mem_drop hc)⟩
  rw [ne_eq, List.drop_eq_nil_iff]
  omega

/-- Zeros are digits. -/
theorem isDigit_of_mem_replicate {n : Nat} {c : Char} (h : c ∈ List.replicate n '0') :
    c.isDigit = true := by
  rw [List.eq_of_mem_replicate h]
  decide

/-- The decimal form of a number consists of digits. -/
theorem isDigits_toDigits (n : Nat) : IsDigits (Nat.toDigits 10 n) :=
  ⟨Nat.toDigits_ne_nil, fun _ => Nat.isDigit_of_mem_toDigits (by decide) (by decide)⟩

/-- The decimal form of a positive number does not begin with a zero. -/
theorem head?_toDigits {n : Nat} (h : n ≠ 0) : (Nat.toDigits 10 n).head? ≠ some '0' := by
  induction n using Nat.strongRecOn with
  | _ n ih =>
    by_cases hn : n < 10
    · rw [Nat.toDigits_of_lt_base hn]
      simpa [Nat.digitChar_eq_zero] using h
    · rw [Nat.toDigits_of_base_le (by decide) (by omega),
        List.head?_append_of_ne_nil _ Nat.toDigits_ne_nil]
      exact ih (n / 10) (by omega) (by omega)

/-- Digits that do not begin with a zero write a whole number. -/
theorem IsDigits.isWhole {s : List Char} (h : IsDigits s) (hfirst : s.head? ≠ some '0') :
    IsWhole s :=
  ⟨h, fun hzero => absurd hzero hfirst⟩

/-- The decimal form of a number writes a whole number. -/
theorem isWhole_toDigits (n : Nat) : IsWhole (Nat.toDigits 10 n) := by
  by_cases hn : n = 0
  · rw [hn]
    exact ⟨isDigits_toDigits 0, fun _ => rfl⟩
  · exact (isDigits_toDigits n).isWhole (head?_toDigits hn)

/-- A whole number is a number without a sign. -/
theorem IsMagnitude.whole {s : List Char} (h : IsWhole s) : IsMagnitude s := by
  simpa using IsMagnitude.finite h .absent .absent

/-- A whole number with digits behind a point is a number without a sign. -/
theorem IsMagnitude.pointed {whole fraction : List Char} (hwhole : IsWhole whole)
    (hfraction : IsDigits fraction) : IsMagnitude (whole ++ '.' :: fraction) := by
  simpa using IsMagnitude.finite hwhole (.point hfraction) .absent

/-- A number without a sign is a numeral, and so it is behind a minus. -/
theorem IsMagnitude.isNumeral {s : List Char} (h : IsMagnitude s) (negative : Bool) :
    IsNumeral (if negative then '-' :: s else s) := by
  cases negative with
  | false => exact .signed (by simp : [] ∈ [[], ['-']]) h
  | true => exact .signed (by simp : ['-'] ∈ [[], ['-']]) h

/-- The text of an integer is a numeral. -/
theorem isNumeral_int (n : Int) : IsNumeral (toString n).toList := by
  have hmagnitude (m : Nat) : IsMagnitude m.repr.toList := by
    rw [Nat.toList_repr]
    exact .whole (isWhole_toDigits m)
  rw [Int.toString_eq_repr]
  cases n with
  | ofNat m => exact (hmagnitude m).isNumeral false
  | negSucc m =>
    rw [Int.repr, String.toList_append]
    exact (hmagnitude (m + 1)).isNumeral true

end Json

namespace Number

open Json (IsDigits IsWhole IsMagnitude IsExponent)

/-! ## Decimals -/

/-- The significant digits of a positive number are digits and do not begin with a zero. -/
theorem significantDigits_spec {n : Nat} (h : n ≠ 0) :
    IsDigits (significantDigits n) ∧ (significantDigits n).head? ≠ some '0' := by
  have hbegins : significantDigits n <+: Nat.toDigits 10 n := List.rdropWhile_prefix _ _
  have hfirst := Json.head?_toDigits h
  have hne : significantDigits n ≠ [] := by
    intro hnil
    have hall := List.rdropWhile_eq_nil_iff.mp hnil
    obtain ⟨d, digits, hdigits⟩ :=
      List.exists_cons_of_ne_nil (Nat.toDigits_ne_nil : Nat.toDigits 10 n ≠ [])
    have hd : d = '0' := by
      simpa using hall d (by simp [decimalDigits, hdigits])
    simp [hdigits, hd] at hfirst
  refine ⟨⟨hne, ?_⟩, ?_⟩
  · intro c hc
    exact (Json.isDigits_toDigits n).2 c (hbegins.subset hc)
  · obtain ⟨zeros, hzeros⟩ := hbegins
    rwa [← hzeros, List.head?_append_of_ne_nil _ hne] at hfirst

/-- The text of an exponent is one. -/
theorem isExponent_exponentText (e : Int) : IsExponent (exponentText e) := by
  have hdigits := Json.isDigits_toDigits e.natAbs
  have hsign : [if e < 0 then '-' else '+'] ∈ [[], ['+'], ['-']] := by
    split <;> simp
  have hpadded : IsDigits (if (decimalDigits e.natAbs).length < 2 then
      '0' :: decimalDigits e.natAbs else decimalDigits e.natAbs) := by
    split
    · exact Json.IsDigits.append (Json.isDigits_toDigits 0) hdigits.2
    · exact hdigits
  exact .power (by simp : 'e' ∈ ['e', 'E']) hsign hpadded

/-- The text of a decimal is that of a number, as none of its digits is a zero in front. -/
theorem Scaled.isMagnitude_text {x : Scaled} (h : x.digits ≠ 0) : IsMagnitude x.text := by
  obtain ⟨hdigits, hfirst⟩ := significantDigits_spec h
  have hzero : IsWhole ['0'] := Json.isWhole_toDigits 0
  unfold Scaled.text
  generalize significantDigits x.digits = digits at hdigits hfirst
  generalize (decimalLength x.digits : Int) + x.exponent = point
  simp only
  split
  · split
    · have hfraction : IsDigits (List.replicate (-point).toNat '0' ++ digits) := by
        refine ⟨by simp [hdigits.1], ?_⟩
        intro c hc
        exact (List.mem_append.mp hc).elim Json.isDigit_of_mem_replicate (hdigits.2 c)
      exact .pointed hzero hfraction
    · split
      · have hwhole : IsWhole (digits ++ List.replicate (point - digits.length).toNat '0') := by
          apply (hdigits.append fun _ => Json.isDigit_of_mem_replicate).isWhole
          rwa [List.head?_append_of_ne_nil _ hdigits.1]
        exact .pointed hwhole hzero.1
      · have hpoint : point.toNat ≠ 0 := by omega
        have hwhole : IsWhole (digits.take point.toNat) := by
          apply (hdigits.take hpoint).isWhole
          rwa [List.head?_take, if_neg hpoint]
        have hfraction : IsDigits (digits.drop point.toNat) := by
          apply hdigits.drop
          omega
        exact .pointed hwhole hfraction
  · have hdigit {d : Char} (hd : d ∈ digits) : IsWhole [d] :=
      ⟨⟨by simp, by simpa using hdigits.2 d hd⟩, by simp⟩
    match digits, hdigits with
    | [d], _ => exact .finite (hdigit (by simp)) .absent (isExponent_exponentText _)
    | d :: e :: rest, hdigits =>
      have hfraction : IsDigits (e :: rest) := hdigits.drop (by simp : 1 < (d :: e :: rest).length)
      exact .finite (hdigit (by simp)) (.point hfraction) (isExponent_exponentText _)
    | [], hdigits => exact absurd rfl hdigits.1

/-! ## The shortest decimal -/

/-- A ratio that is at least one with some power of ten is so with every greater one. -/
theorem scaleRatio_le {num den : Nat} {e e' : Int} (he : e ≤ e')
    (h : (scaleRatio 10 num den e).2 ≤ (scaleRatio 10 num den e).1) :
    (scaleRatio 10 num den e').2 ≤ (scaleRatio 10 num den e').1 := by
  unfold scaleRatio at h ⊢
  by_cases hpos : 0 ≤ e
  · rw [if_pos hpos] at h
    rw [if_pos (by omega)]
    have hpower : 10 ^ e.toNat ≤ 10 ^ e'.toNat := Nat.pow_le_pow_right (by decide) (by omega)
    exact h.trans (Nat.mul_le_mul_left num hpower)
  · rw [if_neg hpos] at h
    by_cases hpos' : 0 ≤ e'
    · rw [if_pos hpos']
      calc den ≤ den * 10 ^ (-e).toNat := Nat.le_mul_of_pos_right den (Nat.pow_pos (by decide))
        _ ≤ num := h
        _ ≤ num * 10 ^ e'.toNat := Nat.le_mul_of_pos_right num (Nat.pow_pos (by decide))
    · rw [if_neg hpos']
      have hpower : 10 ^ (-e').toNat ≤ 10 ^ (-e).toNat :=
        Nat.pow_le_pow_right (by decide) (by omega)
      exact (Nat.mul_le_mul_left den hpower).trans h

/-- A scaled ratio has a positive denominator if the ratio has. -/
theorem scaleRatio_pos {num den : Nat} (h : 0 < den) (e : Int) :
    0 < (scaleRatio 10 num den e).2 := by
  unfold scaleRatio
  split
  · exact h
  · exact Nat.mul_pos h (Nat.pow_pos (by decide))

/-- A quotient that is one or more is not rounded to zero. -/
theorem roundDiv_ne_zero {num den : Nat} (hden : 0 < den) (h : den ≤ num) :
    roundDiv num den ≠ 0 := by
  have hquotient : 0 < num / den := Nat.div_pos h hden
  unfold roundDiv
  simp only
  split <;> omega

/-- The search below the point stops at a place that makes the ratio one or more. -/
theorem leadingPlaceBelow_spec {num den : Nat} (fuel place : Nat)
    (h : den ≤ num * Nat.pow 10 (place + fuel)) :
    ∃ p : Nat, leadingPlaceBelow num den fuel place = -(p : Int) ∧ den ≤ num * Nat.pow 10 p := by
  induction fuel generalizing place with
  | zero => exact ⟨place, rfl, h⟩
  | succ fuel ih =>
    rw [leadingPlaceBelow]
    split
    · next hplace => exact ⟨place, rfl, hplace⟩
    · exact ih (place + 1) (by rwa [Nat.add_right_comm, Nat.add_assoc])

/-- A ratio is not below its leading place. -/
theorem leadingPlace_spec {num den : Nat} (hden : 0 < den) (h : den ≤ num * Nat.pow 10 (1 + 400)) :
    (scaleRatio 10 num den (-leadingPlace num den)).2 ≤
      (scaleRatio 10 num den (-leadingPlace num den)).1 := by
  unfold leadingPlace
  split
  · next hle =>
    obtain ⟨k, hk⟩ : ∃ k, decimalLength (num / den) = k + 1 :=
      Nat.exists_eq_succ_of_ne_zero Nat.length_toDigits_pos.ne'
    have hpower : 10 ^ k ≤ num / den := by
      rcases Nat.eq_zero_or_pos k with rfl | hpos
      · exact Nat.div_pos hle hden
      · have hlength := Nat.length_toDigits_le_iff (n := num / den) (by decide : 1 < 10) hpos
        rw [← not_lt, ← hlength]
        have hlonger : k < decimalLength (num / den) := by omega
        exact not_le.mpr hlonger
    have hscaled : den * 10 ^ k ≤ num := by
      rw [Nat.mul_comm]
      exact (Nat.le_div_iff_mul_le hden).mp hpower
    rw [hk, scaleRatio]
    split
    · have hzero : k = 0 := by omega
      subst hzero
      simpa using hscaled
    · simpa using hscaled
  · obtain ⟨p, hp, hscaled⟩ := leadingPlaceBelow_spec 400 1 h
    rw [hp, Int.neg_neg, scaleRatio, if_pos (Int.natCast_nonneg p)]
    simpa using hscaled

/-- The search for a short decimal of a positive number never ends in zero. -/
theorem shortestFrom_digits_ne_zero {x : Double} {num den : Nat} {place : Int}
    (hx : x ≠ .zero false) (hden : 0 < den)
    (hplace : (scaleRatio 10 num den (-place)).2 ≤ (scaleRatio 10 num den (-place)).1)
    (fuel digits : Nat) (hdigits : 0 < digits) :
    (shortestFrom x num den place fuel digits).digits ≠ 0 := by
  induction fuel generalizing digits with
  -- no decimal has read back: the digits are the quotient by the place of the last one
  | zero => exact roundDiv_ne_zero (scaleRatio_pos hden _) (scaleRatio_le (by omega) hplace)
  | succ fuel ih =>
    rw [shortestFrom]
    split
    · next c hc =>
      intro hzero
      have hback := List.find?_some hc
      rw [decide_eq_true_iff, hzero, Double.ofDecimal, if_pos rfl] at hback
      exact hx hback.symm
    · exact ih (digits + 1) (Nat.succ_pos digits)

end Number

namespace Number.Double

/-- The number is one of the 64-bit format. -/
def InFormat : Double → Prop
  | .finite _ mantissa exponent =>
    mantissa < Nat.pow 2 53 ∧ leastExponent ≤ exponent ∧ exponent ≤ greatestExponent
  | _ => True

end Number.Double

namespace Number

/-- A decimal place is worth more than three binary ones. -/
theorem scaleRatio_two_spec {m places : Nat} {e : Int} (hm : m ≠ 0) (he : -e ≤ 3 * places) :
    0 < (scaleRatio 2 m 1 e).2 ∧
      (scaleRatio 2 m 1 e).2 ≤ (scaleRatio 2 m 1 e).1 * Nat.pow 10 places := by
  have hplaces : 0 < 10 ^ places := Nat.pow_pos (by decide)
  unfold scaleRatio
  split
  · have hnum : 0 < m * 2 ^ e.toNat := Nat.mul_pos (Nat.pos_of_ne_zero hm)
      (Nat.pow_pos (by decide))
    exact ⟨Nat.one_pos, hnum.trans_le (Nat.le_mul_of_pos_right _ hplaces)⟩
  · rw [Nat.one_mul]
    refine ⟨Nat.pow_pos (by decide), ?_⟩
    calc 2 ^ (-e).toNat ≤ 2 ^ (3 * places) := Nat.pow_le_pow_right (by decide) (by omega)
      _ = (2 ^ 3) ^ places := Nat.pow_mul 2 3 places
      _ ≤ 10 ^ places := Nat.pow_le_pow_left (by decide) places
      _ ≤ m * 10 ^ places := Nat.le_mul_of_pos_left _ (Nat.pos_of_ne_zero hm)

/-- The shortest decimal of a positive number is not zero. -/
theorem shortest_digits_ne_zero {m : Nat} {e : Int} (hm : m ≠ 0)
    (he : Double.leastExponent ≤ e) : (shortest m e).digits ≠ 0 := by
  have hx : Double.finite false m e ≠ .zero false := by
    intro heq
    exact hm (Double.finite.inj heq).2.1
  have hplaces : -e ≤ 3 * ((1 + 400 : Nat) : Int) := by
    unfold Double.leastExponent at he
    omega
  obtain ⟨hden, hscaled⟩ := scaleRatio_two_spec hm hplaces
  exact shortestFrom_digits_ne_zero hx hden (leadingPlace_spec hden hscaled) 16 1 Nat.one_pos

end Number

namespace Json

/-- The text of a number of the format is a numeral. -/
theorem isNumeral_number {x : Number.Double} (h : x.InFormat) : IsNumeral (number x).toList := by
  cases x with
  | nan => exact .nan
  | infinite negative =>
    cases negative with
    | false => exact IsMagnitude.infinite.isNumeral false
    | true => exact IsMagnitude.infinite.isNumeral true
  | finite negative m e =>
    have hbody : IsMagnitude (if m = 0 then ['0', '.', '0'] else (Number.shortest m e).text) := by
      split
      · have hzero : IsWhole ['0'] := isWhole_toDigits 0
        exact .pointed hzero hzero.1
      · next hm => exact Number.Scaled.isMagnitude_text (Number.shortest_digits_ne_zero hm h.2.1)
    have htext : number (.finite negative m e) = Number.Double.text (.finite negative m e) := rfl
    rw [htext, Number.Double.text, String.toList_ofList]
    exact hbody.isNumeral negative

end Json

end ScopeSearch
