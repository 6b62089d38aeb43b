import Mathlib.Data.List.Forall2
import Mathlib.Data.List.TakeWhile
import ScopeSearch.Proofs.Character
import ScopeSearch.Redaction

/-!
# What the masking of personal data hides

Each of the three passes over a text keeps a character or puts an asterisk in its place.  The pass
over tokens works on every maximal run of characters other than blanks by itself.  The pass over
account numbers hides neither blanks nor at signs, and hides a character only behind a word
character of the same run that it keeps.
-/

set_option autoImplicit false

namespace ScopeSearch

namespace Redaction

variable {s t u : List Char}

/-- A text with asterisks in place of some characters. -/
def Masks (s t : List Char) : Prop :=
  List.Forall₂ (fun c d => d = c ∨ d = '*') s t

namespace Masks

/-- A text masks itself with nothing hidden. -/
theorem refl (s : List Char) : Masks s s :=
  List.forall₂_same.mpr fun _ _ => .inl rfl

/-- Two masked texts mask, one behind the other, the joined text. -/
theorem append {s' t' : List Char} (h : Masks s t) (h' : Masks s' t') :
    Masks (s ++ s') (t ++ t') :=
  List.rel_append h h'

/-- Masking what is masked is masking. -/
theorem trans (h : Masks s t) (h' : Masks t u) : Masks s u := by
  induction h generalizing u with
  | nil => exact h'
  | cons hc _ ih =>
    obtain ⟨e, rest, he, hrest, rfl⟩ := List.forall₂_cons_left_iff.mp h'
    refine .cons ?_ (ih hrest)
    obtain rfl | rfl := he
    · exact hc
    · exact .inr rfl

/-- Masking keeps the length. -/
theorem length_eq (h : Masks s t) : s.length = t.length :=
  List.Forall₂.length_eq h

/-- What remains behind a place is masked if the whole is. -/
theorem drop (h : Masks s t) (n : Nat) : Masks (s.drop n) (t.drop n) :=
  List.forall₂_drop n h

/-- Whatever a masked text shows without an asterisk stood there before. -/
theorem isPrefix_source {w : List Char} (h : Masks s t) (hw : '*' ∉ w) (ht : w <+: t) :
    w <+: s := by
  induction w generalizing s t with
  | nil => exact List.nil_prefix
  | cons c w ih =>
    obtain ⟨rest, rfl⟩ := ht
    obtain ⟨d, s', hd, hrest, rfl⟩ := List.forall₂_cons_right_iff.mp h
    rw [List.mem_cons, not_or] at hw
    obtain rfl : c = d := hd.resolve_right (Ne.symm hw.1)
    exact List.cons_prefix_cons.mpr ⟨rfl, ih hrest hw.2 (List.prefix_append w rest)⟩

end Masks

/-- Hiding all characters is masking. -/
theorem masks_masked (s : List Char) : Masks s (masked s) :=
  List.forall₂_map_right_iff.mpr (List.forall₂_same.mpr fun _ _ => .inr rfl)

/-- Hiding all but the first characters is masking. -/
theorem maskAfter_masks (shown : Nat) (s : List Char) : Masks s (maskAfter shown s) := by
  have h := (Masks.refl (s.take shown)).append (masks_masked (s.drop shown))
  rwa [List.take_append_drop] at h

/-- The pass that hides what it measures is masking. -/
theorem maskRuns_masks (measure : List Char → Nat) (shown hidden : Nat) (s : List Char) :
    Masks s (maskRuns measure shown hidden s) := by
  fun_induction maskRuns measure shown hidden s with
  | case1 => exact .nil
  | case2 shown hidden c rest ih => exact .cons (.inl rfl) ih
  | case3 hidden c rest ih => exact .cons (.inr rfl) ih
  | case4 c rest hnone ih => exact .cons (.inl rfl) ih
  | case5 c rest n hfound ih => exact .cons (.inl rfl) ih

/-- Hiding the user of an address is masking. -/
theorem maskAddress_masks (s : List Char) : Masks s (maskAddress s) := by
  have h := (maskAfter_masks (if (s.takeWhile (· ≠ '@')).length ≤ 1 then 0 else 1)
    (s.takeWhile (· ≠ '@'))).append (Masks.refl (s.dropWhile (· ≠ '@')))
  rwa [List.takeWhile_append_dropWhile] at h

/-- What is cut off at either end of a text, put back around the middle. -/
theorem takeWhile_append_trim {p : Char → Bool} (h : Text.trim p s ≠ []) :
    s.takeWhile p ++ Text.trim p s ++ (s.reverse.takeWhile p).reverse = s := by
  have hrest : ((s.dropWhile p).reverse.takeWhile p).length ≠ (s.dropWhile p).reverse.length := by
    intro hlen
    have hall := congrArg List.length
      (List.takeWhile_append_dropWhile (p := p) (l := (s.dropWhile p).reverse))
    rw [List.length_append, hlen] at hall
    have hnil : (s.dropWhile p).reverse.dropWhile p = [] := by
      apply List.length_eq_zero_iff.mp
      omega
    exact h (by rw [Text.trim, hnil, List.reverse_nil])
  have htrail : s.reverse.takeWhile p = (s.dropWhile p).reverse.takeWhile p := by
    have hcut := congrArg List.reverse (List.takeWhile_append_dropWhile (p := p) (l := s))
    rw [← hcut, List.reverse_append, List.takeWhile_append, if_neg hrest]
  rw [htrail, Text.trim, List.append_assoc, ← List.reverse_append,
    List.takeWhile_append_dropWhile, List.reverse_reverse, List.takeWhile_append_dropWhile]

/-- Hiding the addresses of a token is masking. -/
theorem maskToken_masks (s : List Char) : Masks s (maskToken s) := by
  unfold maskToken
  by_cases hcore : isAddress (Text.trim (fun c => !Text.isWord c) s) = true
  · rw [if_pos hcore]
    have hne : Text.trim (fun c => !Text.isWord c) s ≠ [] := by
      rintro hnil
      rw [hnil] at hcore
      simp [isAddress, domainInside] at hcore
    have h := ((Masks.refl (s.takeWhile fun c => !Text.isWord c)).append
      (maskAddress_masks (Text.trim (fun c => !Text.isWord c) s))).append
      (Masks.refl (s.reverse.takeWhile fun c => !Text.isWord c).reverse)
    rwa [takeWhile_append_trim hne] at h
  · rw [if_neg hcore]
    exact .refl s

/-! ## The pass over tokens -/

variable {f : List Char → List Char}

/-- The empty text has no tokens to change. -/
theorem mapTokens_nil : mapTokens f [] = [] := by
  rw [mapTokens.eq_def]

/-- A blank stays in front of the tokens that follow. -/
theorem mapTokens_cons_of_blank {c : Char} {rest : List Char} (hc : Text.isBlank c = true) :
    mapTokens f (c :: rest) = c :: mapTokens f rest := by
  rw [mapTokens.eq_def]
  simp [hc]

/-- Masking each token of a text masks the text. -/
theorem mapTokens_masks (hf : ∀ token, Masks token (f token)) (s : List Char) :
    Masks s (mapTokens f s) := by
  fun_induction mapTokens f s with
  | case1 => exact .nil
  | case2 c rest hc ih => exact .cons (.inl rfl) ih
  | case3 c rest hc ih =>
    have h := (hf (c :: rest.takeWhile fun x => !Text.isBlank x)).append ih
    rwa [List.cons_append, List.takeWhile_append_dropWhile] at h

/-- The pass over account numbers is masking. -/
theorem maskAccounts_masks (s : List Char) : Masks s (maskAccounts s) :=
  maskRuns_masks accountLength 0 0 s

/-- The pass over addresses is masking. -/
theorem maskAddresses_masks (s : List Char) : Masks s (maskAddresses s) :=
  mapTokens_masks maskToken_masks s

/-- The pass over phone numbers is masking. -/
theorem maskPhones_masks (s : List Char) : Masks s (maskPhones s) :=
  maskRuns_masks phoneLength 0 0 s

/-! ## The pass over account numbers -/

/-- Characters hidden behind a word character of the same run; `seen` says that one stands already
in front. -/
inductive HidesBehindWord : Bool → List Char → List Char → Prop
  | nil (seen : Bool) : HidesBehindWord seen [] []
  | keep {seen : Bool} (c : Char) {s t : List Char}
      (h : HidesBehindWord (!Text.isBlank c && (seen || Text.isWord c)) s t) :
      HidesBehindWord seen (c :: s) (c :: t)
  | hide {c : Char} {s t : List Char} (hat : c ≠ '@') (hblank : Text.isBlank c = false)
      (h : HidesBehindWord true s t) : HidesBehindWord true (c :: s) ('*' :: t)

/-- The first characters of a text hide behind word characters if the whole text does. -/
theorem HidesBehindWord.take {seen : Bool} (h : HidesBehindWord seen s t) (n : Nat) :
    HidesBehindWord seen (s.take n) (t.take n) := by
  induction h generalizing n with
  | nil seen => simpa using HidesBehindWord.nil seen
  | keep c _ ih =>
    cases n with
    | zero => exact .nil _
    | succ n => exact .keep c (ih n)
  | hide hat hblank _ ih =>
    cases n with
    | zero => exact .nil _
    | succ n => exact .hide hat hblank (ih n)

/-- A code that ranges hold is inside one of them. -/
theorem exists_range_of_inRanges {n : Nat} {ranges : List (Nat × Nat)}
    (h : Text.inRanges n ranges = true) : ∃ r ∈ ranges, r.1 ≤ n ∧ n ≤ r.2 := by
  induction ranges with
  | nil => simp [Text.inRanges] at h
  | cons r rest ih =>
    obtain ⟨low, high⟩ := r
    rw [Text.inRanges] at h
    split at h
    · cases h
    · next hlow =>
      obtain hhigh | hrest := Bool.or_eq_true_iff.mp h
      · exact ⟨(low, high), List.mem_cons_self, Nat.le_of_not_lt hlow, by simpa using hhigh⟩
      · obtain ⟨r, hr, hn⟩ := ih hrest
        exact ⟨r, List.mem_cons_of_mem _ hr, hn⟩

/-- Digits are not blank. -/
theorem isBlank_of_isDigit {c : Char} (h : Text.isDigit c = true) : Text.isBlank c = false := by
  have hdisjoint : ∀ r ∈ Text.digitRanges, ∀ q ∈ Text.blankRanges, r.2 < q.1 ∨ q.2 < r.1 := by
    decide +kernel
  obtain ⟨r, hr, hdigit⟩ := exists_range_of_inRanges h
  by_contra hblank
  obtain ⟨q, hq, hblank⟩ := exists_range_of_inRanges (Bool.not_eq_false _ ▸ hblank)
  have := hdisjoint r hr q hq
  omega

/-- A character that stands inside an account number. -/
def IsAccountPart (c : Char) : Prop :=
  c ≠ '@' ∧ Text.isBlank c = false

/-- Digits can be part of an account number. -/
theorem isAccountPart_of_isDigit {c : Char} (h : Text.isDigit c = true) : IsAccountPart c := by
  refine ⟨?_, isBlank_of_isDigit h⟩
  rintro rfl
  exact absurd h (by decide +kernel)

/-- The codes of capitals lie between those of A and Z. -/
theorem toNat_of_isCapital {c : Char} (h : isCapital c = true) : 65 ≤ c.toNat ∧ c.toNat ≤ 90 := by
  simp only [isCapital, Bool.and_eq_true, decide_eq_true_eq, Char.le_def,
    UInt32.le_iff_toNat_le] at h
  exact h

/-- The characters that account numbers are searched by can be part of one. -/
theorem isAccountPart_of_isAccountChar {c : Char} (h : isAccountChar c = true) :
    IsAccountPart c := by
  have hrange : 48 ≤ c.toNat ∧ c.toNat ≤ 90 ∧ c.toNat ≠ 64 := by
    obtain hcapital | hdigit := Bool.or_eq_true_iff.mp h
    · have := toNat_of_isCapital hcapital
      omega
    · have := toNat_of_isDigit hdigit
      omega
  have hblank : 48 ≤ c.toNat → Text.isBlank c = false :=
    of_toNat_le (P := fun c => 48 ≤ c.toNat → Text.isBlank c = false) (by decide +kernel)
      hrange.2.1
  refine ⟨?_, hblank hrange.1⟩
  rintro rfl
  exact hrange.2.2 rfl

/-- Capitals are word characters. -/
theorem isWord_of_isCapital {c : Char} (h : isCapital c = true) : Text.isWord c = true := by
  have hrange := toNat_of_isCapital h
  have hword : 65 ≤ c.toNat → Text.isWord c = true :=
    of_toNat_le (P := fun c => 65 ≤ c.toNat → Text.isWord c = true) (by decide +kernel) hrange.2
  exact hword hrange.1

/-- An account number begins with a word character and goes on without blanks and at signs. -/
theorem accountLength_spec {c : Char} {rest : List Char} {n : Nat}
    (h : accountLength (c :: rest) = n + 1) :
    Text.isWord c = true ∧ ∀ x ∈ (c :: rest).take (n + 1), IsAccountPart x := by
  match rest with
  | [] | [_] | [_, _] => simp [accountLength] at h
  | b :: d :: e :: rest =>
    have hcapital {x : Char} (hx : isCapital x = true) : IsAccountPart x :=
      isAccountPart_of_isAccountChar (by simp [isAccountChar, hx])
    have htail : rest.take ((rest.take accountTailLimit).takeWhile isAccountChar).length =
        (rest.take accountTailLimit).takeWhile isAccountChar :=
      (List.prefix_iff_eq_take.mp
        ((List.takeWhile_prefix _).trans (List.take_prefix _ _))).symm
    simp only [accountLength, Bool.and_eq_true] at h
    split at h
    · next hfound =>
      obtain ⟨⟨⟨⟨hc, hb⟩, hd⟩, he⟩, -⟩ := hfound
      refine ⟨isWord_of_isCapital hc, fun x hx => ?_⟩
      rw [← h, Nat.add_comm 4, List.take_succ_cons, List.take_succ_cons, List.take_succ_cons,
        List.take_succ_cons, htail] at hx
      simp only [List.mem_cons] at hx
      obtain rfl | rfl | rfl | rfl | hx := hx
      · exact hcapital hc
      · exact hcapital hb
      · exact isAccountPart_of_isDigit hd
      · exact isAccountPart_of_isDigit he
      · exact isAccountPart_of_isAccountChar (List.mem_takeWhile_imp hx)
    · omega

/-- In the middle of an account number a word character is seen already, and what is still to show
or to hide belongs to the account number. -/
theorem maskRuns_accountLength_hides {shown hidden : Nat} {seen : Bool}
    (hseen : 0 < shown + hidden → seen = true)
    (hpart : ∀ c ∈ s.take (shown + hidden), IsAccountPart c) :
    HidesBehindWord seen s (maskRuns accountLength shown hidden s) := by
  induction s generalizing shown hidden seen with
  | nil => simpa [maskRuns] using HidesBehindWord.nil seen
  | cons c rest ih =>
    match shown, hidden with
    | shown + 1, hidden =>
      obtain rfl := hseen (by omega)
      rw [Nat.add_right_comm, List.take_succ_cons, List.forall_mem_cons] at hpart
      rw [maskRuns]
      refine .keep c (ih (fun _ => ?_) hpart.2)
      rw [hpart.1.2, Bool.true_or, Bool.not_false, Bool.and_self]
    | 0, hidden + 1 =>
      obtain rfl := hseen (by omega)
      rw [← Nat.add_assoc, List.take_succ_cons, List.forall_mem_cons] at hpart
      rw [maskRuns]
      exact .hide hpart.1.1 hpart.1.2 (ih (fun _ => rfl) hpart.2)
    | 0, 0 =>
      rw [maskRuns]
      split
      · exact .keep c (ih (fun hpos => absurd hpos (by simp)) (by simp))
      · next n hfound =>
        obtain ⟨hword, hpart⟩ := accountLength_spec hfound
        rw [List.take_succ_cons, List.forall_mem_cons] at hpart
        have hlen : min 1 n + (n - 1) = n := by omega
        refine .keep c (ih (fun _ => ?_) (by rw [hlen]; exact hpart.2))
        rw [hpart.1.2, hword, Bool.or_true, Bool.not_false, Bool.and_self]

/-- The pass over account numbers hides nothing but what stands behind a word character. -/
theorem maskAccounts_hides (s : List Char) : HidesBehindWord false s (maskAccounts s) :=
  maskRuns_accountLength_hides (fun h => absurd h (by simp)) (by simp)

end Redaction

end ScopeSearch
