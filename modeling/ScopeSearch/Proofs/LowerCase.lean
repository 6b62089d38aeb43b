import Mathlib.Data.List.Infix
import ScopeSearch.Proofs.Character
import ScopeSearch.Text.LowerCase

/-!
# Lower case and parts of texts

The lower case of a text is put together from the lower cases of its characters, but for the capital
sigma, which becomes one of two letters after what stands around it.  Once the two are taken for one
letter, the lower case of a part stands in the lower case of the whole.  A text without either of
them therefore occurs in the lower case of the whole wherever it occurs in that of a part.

Few letters of other alphabets are lowered into the ASCII alphabet.  A word without the letters that
these become is the lower case of its own spellings in capitals and small letters, and of no other
text.  What stands in front of its last letter and is no letter stays as it is, and comes from
nothing else.
-/

set_option autoImplicit false

namespace ScopeSearch.Text

/-- A character, with the sigma at the end of a word taken for the other one. -/
def unifySigma (c : Char) : Char :=
  if c = 'ς' then 'σ' else c

/-- The lower case of one character wherever it stands, with both sigmas taken for one. -/
def lowerUnified (c : Char) : List Char :=
  (if c = 'Σ' then ['σ'] else lowerChar c).map unifySigma

/-- Up to the two sigmas, every character is lowered on its own. -/
theorem map_unifySigma_lowerAfter (casedBefore : Bool) (s : List Char) :
    (lowerAfter casedBefore s).map unifySigma = s.flatMap lowerUnified := by
  induction s generalizing casedBefore with
  | nil => rfl
  | cons c rest ih =>
    rw [lowerAfter, List.map_append, ih, List.flatMap_cons]
    congr 1
    unfold lowerUnified
    by_cases hc : c = 'Σ'
    · rw [if_pos hc, if_pos hc]
      cases casedBefore && !casedAhead rest <;> rfl
    · rw [if_neg hc, if_neg hc]

/-- A text without the sigma at the end of a word is the same when both are taken for one. -/
theorem map_unifySigma_eq_self {w : List Char} (hw : 'ς' ∉ w) : w.map unifySigma = w := by
  have hid : w.map unifySigma = w.map id := by
    apply List.map_congr_left
    intro c hc
    have hne : c ≠ 'ς' := fun hs => hw (hs ▸ hc)
    simp [unifySigma, hne]
  rw [hid, List.map_id]

/-- A text without sigmas that occurs where both are taken for one occurs as it is. -/
theorem infix_of_infix_map_unifySigma {w l : List Char} (hw : 'σ' ∉ w)
    (h : w <:+: l.map unifySigma) : w <:+: l := by
  obtain ⟨found, hfound, rfl⟩ := List.infix_map_iff.mp h
  have hsigma : 'ς' ∉ found := fun hmem =>
    hw (List.mem_map_of_mem (f := unifySigma) hmem)
  rwa [map_unifySigma_eq_self hsigma]

/-- What occurs in the lower case of a part of a text occurs in the lower case of the text. -/
theorem infix_lower_of_infix {w : List Char} {part whole : String} (hw : 'σ' ∉ w) (hw' : 'ς' ∉ w)
    (hpart : part.toList <:+: whole.toList) (h : w <:+: (lower part).toList) :
    w <:+: (lower whole).toList := by
  unfold lower at h ⊢
  rw [String.toList_ofList] at h ⊢
  apply infix_of_infix_map_unifySigma hw
  rw [← map_unifySigma_eq_self hw', map_unifySigma_lowerAfter]
  have hpartUnified : w.map unifySigma <:+: part.toList.flatMap lowerUnified := by
    rw [← map_unifySigma_lowerAfter false]
    exact h.map unifySigma
  exact hpartUnified.trans (hpart.flatMap lowerUnified)

/-! ## Words of the ASCII alphabet -/

/-- A code is shifted by nothing, or by what one of the ranges around it says. -/
theorem lowerShift_cases (n : Nat) (ranges : List CaseRange) :
    lowerShift n ranges = 0 ∨
      ∃ r ∈ ranges, r.low ≤ n ∧ n ≤ r.high ∧ lowerShift n ranges = r.shift := by
  induction ranges with
  | nil => exact .inl rfl
  | cons r rest ih =>
    rw [lowerShift]
    split
    · exact .inl rfl
    · next hlow =>
      split
      · next hhigh =>
        split
        · exact .inr ⟨r, List.mem_cons_self, by omega, hhigh, rfl⟩
        · exact .inl rfl
      · obtain hzero | ⟨r', hmem, hbounds⟩ := ih
        · exact .inl hzero
        · exact .inr ⟨r', List.mem_cons_of_mem r hmem, hbounds⟩

/-- Beyond the ASCII alphabet only the Kelvin sign, at 8490, is lowered into it. -/
theorem lt_add_lowerShift {n : Nat} (hn : 122 < n) (hkelvin : n ≠ 8490) :
    122 < n + lowerShift n caseRanges := by
  have htable : ∀ r ∈ caseRanges,
      r.high ≤ 122 ∨ 122 < r.low + r.shift ∨ (r.low = 8490 ∧ r.high = 8490) := by
    decide +kernel
  obtain hzero | ⟨r, hmem, hlow, hhigh, hshift⟩ := lowerShift_cases n caseRanges
  · omega
  · rw [hshift]
    have := htable r hmem
    omega

/-- A small letter that is the lower case of its capital and of itself alone: the first letter of
the lower case of `İ` and the lower case of the Kelvin sign are left out. -/
structure IsPlainLetter (d : Char) : Prop where
  isLower : d.isLower = true
  ne_dotted : d ≠ 'i'
  ne_kelvin : d ≠ 'k'

/-- Beyond the ASCII letters only the Kelvin sign is lowered to one character among them. -/
theorem lowerChar_ne_singleton {c d : Char} (hc : 122 < c.toNat) (hd : d.toNat ≤ 122)
    (hpos : d.toNat ≠ 0) (hkelvin : d ≠ 'k') : lowerChar c ≠ [d] := by
  intro h
  by_cases hdot : c = 'İ'
  · subst hdot
    simp [lowerChar] at h
  · rw [lowerChar, if_neg hdot, List.singleton_inj] at h
    by_cases hsign : c.toNat = 8490
    · apply hkelvin
      rw [← h, hsign]
      decide +kernel
    · have hlarge := lt_add_lowerShift hc hsign
      have hvalue := toNat_of_ofNat_eq h hpos
      omega

/-- The ASCII alphabet is lowered letter by letter. -/
theorem lowerChar_of_le {c : Char} (hc : c.toNat ≤ 122) : lowerChar c = [c.toLower] :=
  of_toNat_le (P := fun c => lowerChar c = [c.toLower]) (by decide +kernel) hc

/-- A plain letter is the lower case of the characters that it is so for in ASCII. -/
theorem lowerChar_eq_singleton_iff {c d : Char} (hd : IsPlainLetter d) :
    lowerChar c = [d] ↔ c.toLower = d := by
  have hbounds : 97 ≤ d.toNat ∧ d.toNat ≤ 122 := by
    have hparts := Bool.and_eq_true_iff.mp hd.isLower
    exact ⟨of_decide_eq_true hparts.1, of_decide_eq_true hparts.2⟩
  by_cases hascii : c.toNat ≤ 122
  · rw [lowerChar_of_le hascii, List.singleton_inj]
  · have hsame : c.toLower = c := by
      apply dif_neg
      rintro ⟨-, hz⟩
      have : c.toNat ≤ 90 := hz
      omega
    have hne : c ≠ d := by
      rintro rfl
      omega
    rw [hsame]
    refine iff_of_false ?_ hne
    exact lowerChar_ne_singleton (Nat.lt_of_not_le hascii) hbounds.2 (by omega) hd.ne_kelvin

/-- A final sigma is lowered to another letter than the other ones, and to no small letter of the
ASCII alphabet either. -/
theorem lowered_append_eq_cons_iff {c d : Char} (hd : IsPlainLetter d) (final : Bool)
    (s w : List Char) :
    (if c = 'Σ' then [if final then 'ς' else 'σ'] else lowerChar c) ++ s = d :: w ↔
      c.toLower = d ∧ s = w := by
  by_cases hsigma : c = 'Σ'
  · subst hsigma
    have hlower : d ≠ 'ς' ∧ d ≠ 'σ' ∧ d ≠ 'Σ' := by
      refine ⟨?_, ?_, ?_⟩ <;> rintro rfl <;> exact absurd hd.isLower (by decide)
    have hcapital : Char.toLower 'Σ' = 'Σ' := by decide
    rw [if_pos rfl, hcapital]
    cases final <;> simp [hlower.1.symm, hlower.2.1.symm, hlower.2.2.symm]
  · rw [if_neg hsigma, ← lowerChar_eq_singleton_iff hd]
    by_cases hdot : c = 'İ'
    · subst hdot
      simp [lowerChar, hd.ne_dotted.symm]
    · simp [lowerChar, hdot]

/-- A lower case of plain letters is that of ASCII, character by character. -/
theorem lowerAfter_eq_iff {w : List Char} (hw : ∀ d ∈ w, IsPlainLetter d) (casedBefore : Bool)
    (s : List Char) : lowerAfter casedBefore s = w ↔ s.map Char.toLower = w := by
  induction s generalizing casedBefore w with
  | nil => rfl
  | cons c rest ih =>
    rw [lowerAfter, List.map_cons]
    cases w with
    | nil =>
      refine iff_of_false ?_ (List.cons_ne_nil _ _)
      unfold lowerChar
      split
      · simp
      · split <;> simp
    | cons d w =>
      obtain ⟨hd, hw⟩ := List.forall_mem_cons.mp hw
      rw [lowered_append_eq_cons_iff hd, ih hw, List.cons.injEq]

/-- A text of such letters is the lower case of the texts that differ from it in the case of ASCII
letters alone. -/
theorem lower_eq_iff {s w : String} (hw : ∀ d ∈ w.toList, IsPlainLetter d) :
    lower s = w ↔ s.toLower = w := by
  have hlower : s.toLower.toList = s.toList.map Char.toLower := String.toList_map
  rw [lower, ← String.toList_inj, String.toList_ofList, lowerAfter_eq_iff hw, ← hlower,
    String.toList_inj]

/-! ## Characters without case -/

/-- A character that comes before the last ASCII letter and is none itself. -/
structure IsCaseless (d : Char) : Prop where
  isAscii : d.toNat ≤ 122
  ne_zero : d.toNat ≠ 0
  not_isAlpha : d.isAlpha = false

/-- Letters of ASCII differ from every character without case. -/
theorem IsCaseless.ne_of_isAlpha {d x : Char} (hd : IsCaseless d) (hx : x.isAlpha = true) :
    d ≠ x := by
  rintro rfl
  exact Bool.false_ne_true (hd.not_isAlpha.symm.trans hx)

/-- Characters past the letters of ASCII differ from every character without case. -/
theorem IsCaseless.ne_of_lt {d x : Char} (hd : IsCaseless d) (hx : 122 < x.toNat) : d ≠ x := by
  rintro rfl
  exact absurd hd.isAscii (Nat.not_le_of_lt hx)

/-- Such a character is the lower case of itself, and no part of any other one's. -/
theorem mem_lowerChar_iff {c d : Char} (hd : IsCaseless d) : d ∈ lowerChar c ↔ d = c := by
  by_cases hascii : c.toNat ≤ 122
  · -- a capital and its small letter are both letters
    have hsame : c.toLower = c ∨ (c.toLower.isAlpha = true ∧ c.isAlpha = true) :=
      of_toNat_le (P := fun c => c.toLower = c ∨ (c.toLower.isAlpha = true ∧ c.isAlpha = true))
        (by decide +kernel) hascii
    rw [lowerChar_of_le hascii, List.mem_singleton]
    obtain hsame | ⟨hlower, hcapital⟩ := hsame
    · rw [hsame]
    · exact iff_of_false (hd.ne_of_isAlpha hlower) (hd.ne_of_isAlpha hcapital)
  · refine iff_of_false ?_ ?_
    · intro hmem
      have hone : lowerChar c = [d] := by
        unfold lowerChar at hmem ⊢
        split at hmem
        · obtain hi | hdot := List.mem_cons.mp hmem
          · exact absurd hi (hd.ne_of_isAlpha (by decide))
          · exact absurd (List.mem_singleton.mp hdot) (hd.ne_of_lt (by decide))
        · next hc => rw [if_neg hc, List.mem_singleton.mp hmem]
      exact lowerChar_ne_singleton (Nat.lt_of_not_le hascii) hd.isAscii hd.ne_zero
        (hd.ne_of_isAlpha (by decide)) hone
    · exact hd.ne_of_lt (Nat.lt_of_not_le hascii)

/-- Lowering a text neither makes nor loses characters without case. -/
theorem mem_lower_iff {d : Char} (hd : IsCaseless d) (s : String) :
    d ∈ (lower s).toList ↔ d ∈ s.toList := by
  have hsigma : d ≠ 'Σ' ∧ d ≠ 'σ' ∧ d ≠ 'ς' :=
    ⟨hd.ne_of_lt (by decide), hd.ne_of_lt (by decide), hd.ne_of_lt (by decide)⟩
  have hafter (casedBefore : Bool) (l : List Char) : d ∈ lowerAfter casedBefore l ↔ d ∈ l := by
    induction l generalizing casedBefore with
    | nil => rfl
    | cons c rest ih =>
      rw [lowerAfter, List.mem_append, ih, List.mem_cons]
      apply or_congr_left
      by_cases hc : c = 'Σ'
      · subst hc
        rw [if_pos rfl, List.mem_singleton]
        split <;> simp [hsigma]
      · rw [if_neg hc, mem_lowerChar_iff hd]
  rw [lower, String.toList_ofList, hafter]

end ScopeSearch.Text
