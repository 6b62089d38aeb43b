import ScopeSearch.Proofs.Masking

/-!
# No account number and no phone number survives redaction

The passes over account numbers and phone numbers look at the places of a text from left to right
and mask the longest number that begins at a place, after its first two characters.  Say that a
number stands in the text after such a pass.

* It does not begin with a character that the pass has hidden, since no number holds an asterisk.
* It does not begin with one of the two characters that are kept of a masked number, since an
  asterisk follows them and a number is longer than that.
* So it begins at a place that was looked at and where nothing was found.  But all of it stood there
  before the pass, and the pass finds the longest number at a place.

A later pass puts asterisks into the text and nothing else, so a number that it shows stood there
before it as well.
-/

set_option autoImplicit false

namespace ScopeSearch

namespace Redaction

/-- An account number: two capitals, two digits of any script, and one to thirty capitals or plain
digits. -/
inductive IsAccountNumber : List Char → Prop
  | intro {a b c d : Char} {tail : List Char} (ha : isCapital a = true) (hb : isCapital b = true)
      (hc : Text.isDigit c = true) (hd : Text.isDigit d = true) (hne : tail ≠ [])
      (hlength : tail.length ≤ accountTailLimit) (htail : ∀ x ∈ tail, isAccountChar x = true) :
      IsAccountNumber (a :: b :: c :: d :: tail)

/-- The digits of a phone number: a digit of any script, and at least six digits, blanks, hyphens or
slashes. -/
inductive IsPhoneDigits : List Char → Prop
  | intro {d : Char} {tail : List Char} (hd : Text.isDigit d = true)
      (hlength : phoneTailLeast ≤ tail.length) (htail : ∀ x ∈ tail, isPhoneChar x = true) :
      IsPhoneDigits (d :: tail)

/-- A phone number: its digits, with or without a plus sign in front. -/
inductive IsPhoneNumber : List Char → Prop
  | plain {w : List Char} (h : IsPhoneDigits w) : IsPhoneNumber w
  | plus {w : List Char} (h : IsPhoneDigits w) : IsPhoneNumber ('+' :: w)

/-- What is measured at the beginning of a text is the length of the longest part with a pattern
that begins there, zero if there is none. -/
structure MeasuresLongest (Pattern : List Char → Prop) (measure : List Char → Nat) : Prop where
  le_length : ∀ s, measure s ≤ s.length
  pattern_take : ∀ s, measure s ≠ 0 → Pattern (s.take (measure s))
  length_le : ∀ {w s}, Pattern w → w <+: s → w.length ≤ measure s

/-- A pattern whose parts are told apart from masked ones: they hold no asterisk and go on behind
the characters that masking keeps. -/
structure IsMaskable (Pattern : List Char → Prop) : Prop where
  star_not_mem : ∀ {w}, Pattern w → '*' ∉ w
  three_le_length : ∀ {w}, Pattern w → 3 ≤ w.length

/-! ## What is measured -/

/-- A beginning of a text that passes a test lies within the longest one that does. -/
theorem prefix_takeWhile {p : Char → Bool} {w s : List Char} (hw : ∀ x ∈ w, p x = true)
    (h : w <+: s) : w <+: s.takeWhile p := by
  obtain ⟨rest, rfl⟩ := h
  rw [List.takeWhile_append_of_pos hw]
  exact List.prefix_append w _

/-- As many characters as a beginning has are that beginning. -/
theorem take_length_of_prefix {w s : List Char} (h : w <+: s) : s.take w.length = w :=
  (List.prefix_iff_eq_take.mp h).symm

/-- The length measured for account numbers is that of the longest one. -/
theorem accountLength_measuresLongest : MeasuresLongest IsAccountNumber accountLength := by
  have htail (rest : List Char) :
      (rest.take accountTailLimit).takeWhile isAccountChar <+: rest :=
    (List.takeWhile_prefix _).trans (List.take_prefix _ _)
  constructor
  case le_length =>
    intro s
    rcases s with _ | ⟨a, _ | ⟨b, _ | ⟨c, _ | ⟨d, rest⟩⟩⟩⟩
    case cons.cons.cons.cons =>
      have hlength := (htail rest).length_le
      simp only [accountLength, List.length_cons]
      split <;> omega
    all_goals simp [accountLength]
  case pattern_take =>
    intro s hfound
    rcases s with _ | ⟨a, _ | ⟨b, _ | ⟨c, _ | ⟨d, rest⟩⟩⟩⟩
    case cons.cons.cons.cons =>
      simp only [accountLength] at hfound ⊢
      split at hfound
      · next hall =>
        rw [if_pos hall]
        simp only [Bool.and_eq_true, bne_iff_ne, ne_eq, List.length_eq_zero_iff] at hall
        obtain ⟨⟨⟨⟨ha, hb⟩, hc⟩, hd⟩, hne⟩ := hall
        rw [Nat.add_comm 4, List.take_succ_cons, List.take_succ_cons, List.take_succ_cons,
          List.take_succ_cons, take_length_of_prefix (htail rest)]
        refine .intro ha hb hc hd hne ?_ fun x hx => List.mem_takeWhile_imp hx
        have htake := (List.takeWhile_prefix (l := rest.take accountTailLimit)
          isAccountChar).length_le
        rw [List.length_take] at htake
        omega
      · exact absurd rfl hfound
    all_goals simp [accountLength] at hfound
  case length_le =>
    intro w s hw hprefix
    cases hw with
    | @intro a b c d tail ha hb hc hd hne hlength hchars =>
      obtain ⟨rest, rfl⟩ := hprefix
      have hinside : tail <+: ((tail ++ rest).take accountTailLimit).takeWhile isAccountChar := by
        refine prefix_takeWhile hchars (List.prefix_take_iff.mpr ⟨?_, hlength⟩)
        exact List.prefix_append tail rest
      have hle := hinside.length_le
      have hpos := List.length_pos_of_ne_nil hne
      simp only [List.cons_append, accountLength, ha, hb, hc, hd, Bool.true_and, List.length_cons]
      rw [if_pos (by rw [bne_iff_ne]; omega)]
      omega

/-- The length measured for the digits of a phone number is that of the longest run. -/
theorem phoneDigitsLength_measuresLongest : MeasuresLongest IsPhoneDigits phoneDigitsLength := by
  constructor
  case le_length =>
    intro s
    cases s with
    | nil => simp [phoneDigitsLength]
    | cons c rest =>
      have hlength := (List.takeWhile_prefix (l := rest) isPhoneChar).length_le
      simp only [phoneDigitsLength, List.length_cons]
      split <;> omega
  case pattern_take =>
    intro s hfound
    cases s with
    | nil => simp [phoneDigitsLength] at hfound
    | cons c rest =>
      simp only [phoneDigitsLength] at hfound ⊢
      split at hfound
      · next hall =>
        rw [if_pos hall]
        simp only [Bool.and_eq_true, decide_eq_true_eq] at hall
        rw [Nat.add_comm 1, List.take_succ_cons,
          take_length_of_prefix (List.takeWhile_prefix isPhoneChar)]
        exact .intro hall.1 hall.2 fun x hx => List.mem_takeWhile_imp hx
      · exact absurd rfl hfound
  case length_le =>
    intro w s hw hprefix
    cases hw with
    | @intro d tail hd hlength hchars =>
      obtain ⟨rest, rfl⟩ := hprefix
      have hle := (prefix_takeWhile hchars (List.prefix_append tail rest)).length_le
      simp only [List.cons_append, phoneDigitsLength, hd, Bool.true_and, List.length_cons,
        decide_eq_true_eq]
      rw [if_pos (by omega)]
      omega

/-- A plus is no digit. -/
theorem not_isDigit_plus : Text.isDigit '+' = false := by
  decide +kernel

/-- The length measured for phone numbers is that of the longest one. -/
theorem phoneLength_measuresLongest : MeasuresLongest IsPhoneNumber phoneLength := by
  have hdigits := phoneDigitsLength_measuresLongest
  -- a plus sign is no digit, so no phone number without one begins there
  have hplus (w : List Char) : ¬ IsPhoneDigits ('+' :: w) := by
    rintro ⟨hd, -, -⟩
    rw [not_isDigit_plus] at hd
    cases hd
  have hplain {c : Char} {rest : List Char} (hc : c ≠ '+') :
      phoneLength (c :: rest) = phoneDigitsLength (c :: rest) := by
    rw [phoneLength]
    intro _ h
    exact hc (List.cons.inj h).1
  constructor
  case le_length =>
    intro s
    cases s with
    | nil => simp [phoneLength, phoneDigitsLength]
    | cons c rest =>
      by_cases hc : c = '+'
      · subst hc
        have hle := hdigits.le_length rest
        simp only [phoneLength, List.length_cons]
        split <;> omega
      · rw [hplain hc]
        exact hdigits.le_length _
  case pattern_take =>
    intro s hfound
    cases s with
    | nil => simp [phoneLength, phoneDigitsLength] at hfound
    | cons c rest =>
      by_cases hc : c = '+'
      · subst hc
        simp only [phoneLength] at hfound ⊢
        split at hfound
        · exact absurd rfl hfound
        · next hrest =>
          rw [if_neg hrest, Nat.add_comm 1, List.take_succ_cons]
          exact .plus (hdigits.pattern_take rest hrest)
      · rw [hplain hc] at hfound ⊢
        exact .plain (hdigits.pattern_take _ hfound)
  case length_le =>
    intro w s hw hprefix
    cases hw with
    | plain h =>
      obtain ⟨behind, rfl⟩ := hprefix
      cases h with
      | @intro d tail hd hlength hchars =>
        have hne : d ≠ '+' := by
          rintro rfl
          exact hplus _ (.intro hd hlength hchars)
        rw [List.cons_append, hplain hne]
        exact hdigits.length_le (.intro hd hlength hchars) (List.prefix_append (d :: tail) behind)
    | @plus w h =>
      obtain ⟨behind, rfl⟩ := hprefix
      have hle := hdigits.length_le h (List.prefix_append w behind)
      have hpos : 0 < w.length := by
        cases h
        simp
      simp only [List.cons_append, phoneLength, List.length_cons]
      rw [if_neg (by omega)]
      omega

/-! ## What the patterns hold -/

/-- Characters that pass a test which the star fails hold no star. -/
theorem star_not_mem_of {p : Char → Bool} {w : List Char} (hstar : p '*' = false)
    (hw : ∀ x ∈ w, p x = true) : '*' ∉ w := by
  intro hmem
  rw [hw '*' hmem] at hstar
  cases hstar

/-- Account numbers hold no star and have more than the two characters that are shown. -/
theorem isAccountNumber_isMaskable : IsMaskable IsAccountNumber := by
  have hcapital : isCapital '*' = false := by decide
  have hdigit : Text.isDigit '*' = false := by decide +kernel
  constructor
  case star_not_mem =>
    rintro w ⟨ha, hb, hc, hd, -, -, htail⟩ hmem
    have hrest := star_not_mem_of (by decide) htail
    simp only [List.mem_cons, hrest, or_false] at hmem
    obtain rfl | rfl | rfl | rfl := hmem
    · simp [hcapital] at ha
    · simp [hcapital] at hb
    · simp [hdigit] at hc
    · simp [hdigit] at hd
  case three_le_length =>
    rintro w ⟨⟩
    simp only [List.length_cons]
    omega

/-- Phone numbers hold no star and have more than the two characters that are shown. -/
theorem isPhoneNumber_isMaskable : IsMaskable IsPhoneNumber := by
  have hdigits {w : List Char} (h : IsPhoneDigits w) : '*' ∉ w ∧ 3 ≤ w.length := by
    obtain ⟨hd, hlength, htail⟩ := h
    have hrest := star_not_mem_of (by decide +kernel) htail
    constructor
    · rintro hmem
      obtain rfl | hmem := List.mem_cons.mp hmem
      · exact absurd hd (by decide +kernel)
      · exact hrest hmem
    · have hsix : 6 ≤ _ := hlength
      rw [List.length_cons]
      omega
  constructor
  case star_not_mem =>
    rintro w (h | h)
    · exact (hdigits h).1
    · rw [List.mem_cons, not_or]
      exact ⟨by decide, (hdigits h).1⟩
  case three_le_length =>
    rintro w (h | h)
    · exact (hdigits h).2
    · have hthree := (hdigits h).2
      rw [List.length_cons]
      omega

/-! ## One pass -/

/-- The first character that is hidden becomes a star. -/
theorem getElem?_maskRuns (measure : List Char → Nat) (shown hidden : Nat) {s : List Char}
    (h : shown < s.length) : (maskRuns measure shown (hidden + 1) s)[shown]? = some '*' := by
  induction s generalizing shown with
  | nil => simp at h
  | cons c rest ih =>
    cases shown with
    | zero => rfl
    | succ shown =>
      rw [maskRuns, List.getElem?_cons_succ]
      exact ih shown (by simpa using h)

/-- A text without stars does not begin one that has a star within its length. -/
theorem not_prefix_of_getElem?_eq_star {w t : List Char} {i : Nat} (hw : '*' ∉ w)
    (hi : i < w.length) (ht : t[i]? = some '*') : ¬ w <+: t := by
  intro hprefix
  have hget := List.prefix_iff_getElem?.mp hprefix i hi
  rw [ht, Option.some.injEq] at hget
  exact hw (hget ▸ List.getElem_mem hi)

/-- In the middle of a masked part at most one character is still to be kept, and then one is to be
hidden behind it. -/
theorem not_infix_maskRuns {Pattern : List Char → Prop} {measure : List Char → Nat}
    (hmaskable : IsMaskable Pattern) (hmeasure : MeasuresLongest Pattern measure) {w : List Char}
    (hw : Pattern w) (shown hidden : Nat) (s : List Char) (hshown : shown ≤ 1)
    (hhidden : 0 < shown → 0 < hidden) (hlength : shown + hidden ≤ s.length) :
    ¬ w <:+: maskRuns measure shown hidden s := by
  have hstar := hmaskable.star_not_mem hw
  have hthree := hmaskable.three_le_length hw
  fun_induction maskRuns measure shown hidden s with
  | case1 =>
    intro hinside
    rw [List.infix_nil.mp hinside] at hthree
    simp at hthree
  | case2 shown hidden c rest ih =>
    obtain rfl : shown = 0 := by omega
    obtain ⟨hidden, rfl⟩ := Nat.exists_eq_succ_of_ne_zero (hhidden (by omega)).ne'
    rw [List.length_cons] at hlength
    rw [List.infix_cons_iff, not_or]
    constructor
    · have hnext := getElem?_maskRuns measure 0 hidden (s := rest) (by omega)
      exact not_prefix_of_getElem?_eq_star hstar (i := 1) (by omega) hnext
    · exact ih (by omega) (by omega) (by omega)
  | case3 hidden c rest ih =>
    rw [List.length_cons] at hlength
    rw [List.infix_cons_iff, not_or]
    constructor
    · exact not_prefix_of_getElem?_eq_star hstar (i := 0) (by omega) rfl
    · exact ih (by omega) (by omega) (by omega)
  | case4 c rest hnone ih =>
    rw [List.infix_cons_iff, not_or]
    constructor
    · -- nothing was found at this place, where all of `w` stood before
      intro hprefix
      have hmasks : Masks (c :: rest) (c :: maskRuns measure 0 0 rest) :=
        .cons (.inl rfl) (maskRuns_masks measure 0 0 rest)
      have hle := hmeasure.length_le hw (hmasks.isPrefix_source hstar hprefix)
      omega
    · exact ih (by omega) (by omega) (by omega)
  | case5 c rest n hfound ih =>
    have hpart := hmaskable.three_le_length (hmeasure.pattern_take (c :: rest) (by omega))
    have hmeasured := hmeasure.le_length (c :: rest)
    rw [hfound] at hpart hmeasured
    rw [List.length_take, List.length_cons] at hpart
    rw [List.length_cons] at hmeasured
    obtain ⟨hidden, hn⟩ : ∃ hidden, n = hidden + 2 := ⟨n - 2, by omega⟩
    have hone : min 1 n = 1 := by omega
    have hrest : n - 1 = hidden + 1 := by omega
    rw [hone, hrest] at ih ⊢
    rw [List.infix_cons_iff, not_or]
    constructor
    · have hsecond := getElem?_maskRuns measure 1 hidden (s := rest) (by omega)
      exact not_prefix_of_getElem?_eq_star hstar (i := 2) (by omega) hsecond
    · exact ih (by omega) (by omega) (by omega)

/-- No account number is left by the pass over account numbers. -/
theorem not_infix_maskAccounts {w : List Char} (hw : IsAccountNumber w) (s : List Char) :
    ¬ w <:+: maskAccounts s :=
  not_infix_maskRuns isAccountNumber_isMaskable accountLength_measuresLongest hw 0 0 s (by omega)
    (by omega) (by omega)

/-- No phone number is left by the pass over phone numbers. -/
theorem not_infix_maskPhones {w : List Char} (hw : IsPhoneNumber w) (s : List Char) :
    ¬ w <:+: maskPhones s :=
  not_infix_maskRuns isPhoneNumber_isMaskable phoneLength_measuresLongest hw 0 0 s (by omega)
    (by omega) (by omega)

/-! ## All passes -/

/-- What stands in a masked text without a star stood there before. -/
theorem Masks.isInfix_source {s t w : List Char} (h : Masks s t) (hw : '*' ∉ w) (ht : w <:+: t) :
    w <:+: s := by
  obtain ⟨front, behind, rfl⟩ := ht
  have hprefix : w <+: (front ++ w ++ behind).drop front.length := by
    rw [List.append_assoc, List.drop_left]
    exact List.prefix_append w behind
  exact ((h.drop front.length).isPrefix_source hw hprefix).isInfix.trans
    (List.drop_suffix front.length s).isInfix

/-- A masked character is the character from before or a star. -/
theorem Masks.getElem?_eq {s t : List Char} (h : Masks s t) {i : Nat} {c : Char}
    (hc : t[i]? = some c) : s[i]? = some c ∨ c = '*' := by
  obtain ⟨hi, rfl⟩ := List.getElem?_eq_some_iff.mp hc
  have hi' : i < s.length := h.length_eq ▸ hi
  have hkept := h.get hi' hi
  simp only [List.get_eq_getElem] at hkept
  rw [List.getElem?_eq_getElem hi', Option.some.injEq]
  exact hkept.imp_left Eq.symm

/-- The three passes together are masking. -/
theorem redactChars_masks (s : List Char) : Masks s (redactChars s) :=
  ((maskAccounts_masks s).trans (maskAddresses_masks _)).trans (maskPhones_masks _)

/-- A redacted text is as long as it was, every character of it stands where it stood or is an
asterisk, and neither an account number nor a phone number stands anywhere in it. -/
theorem redacted_text_shows_no_number (s : String) :
    (redact s).length = s.length ∧
      (∀ (i : Nat) (c : Char),
        (redact s).toList[i]? = some c → s.toList[i]? = some c ∨ c = '*') ∧
      (∀ w, IsAccountNumber w → ¬ w <:+: (redact s).toList) ∧
      ∀ w, IsPhoneNumber w → ¬ w <:+: (redact s).toList := by
  have hmasks := redactChars_masks s.toList
  have htext : (redact s).toList = redactChars s.toList := by
    rw [redact, String.toList_ofList]
  rw [htext]
  refine ⟨?_, ?_, ?_, ?_⟩
  · rw [← String.length_toList, ← String.length_toList, htext]
    exact hmasks.length_eq.symm
  · intro i c hc
    exact hmasks.getElem?_eq hc
  · intro w hw hinside
    -- the later passes have added nothing but asterisks
    have hlater : Masks (maskAccounts s.toList) (redactChars s.toList) :=
      (maskAddresses_masks _).trans (maskPhones_masks _)
    have hearlier := hlater.isInfix_source (isAccountNumber_isMaskable.star_not_mem hw) hinside
    exact not_infix_maskAccounts hw s.toList hearlier
  · intro w hw
    exact not_infix_maskPhones hw _

/-- A run that is longer than an account number is masked as two of them. -/
example : redact "AB12XXXXXXXXXXXXXXXXXXXXXXXXXXXXXXCD34Y" =
    "AB********************************CD***" := by
  decide +kernel

end Redaction

end ScopeSearch
