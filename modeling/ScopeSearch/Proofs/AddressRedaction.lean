import Mathlib.Data.List.DropRight
import ScopeSearch.Proofs.Masking

/-!
# Which e-mail addresses are hidden

The pattern for an address takes a whole run of characters other than blanks, from its first word
character to its last, and what is hidden is the part in front of the first at sign.  So the first
address of a run is hidden, and the ones behind it in the same run are not.  The argument follows
one address that stands at some place of a text through the three passes.

* A pass hides characters and adds none, so the address stood there before each of the passes.
* In a run, the address lies between the first word character and the last, hence the pattern fits.
  With an at sign between the first word character and the address, all that is hidden stands in
  front of that at sign.  Otherwise the user of the address is hidden except perhaps for its first
  character, and it has two.
* Runs are independent of one another, which carries the law from a run to the text.
* What the pass over account numbers hides changes nothing about at signs behind word characters.
-/

set_option autoImplicit false

namespace ScopeSearch

namespace Redaction

/-- An e-mail address made of plain letters and digits: `user@host.top`. -/
structure Address where
  user : List Char
  host : List Char
  top : List Char
  two_le_length_user : 2 ≤ user.length
  host_ne_nil : host ≠ []
  top_ne_nil : top ≠ []
  isAlphanum : ∀ c ∈ user ++ host ++ top, c.isAlphanum = true

/-- The text of an address. -/
def Address.text (a : Address) : List Char :=
  a.user ++ '@' :: (a.host ++ '.' :: a.top)

/-- A text that ends within a run that has an at sign, and a word character somewhere in front of
it. -/
def EndsBehindAtSign (s : List Char) : Prop :=
  ∃ c rest, c :: rest <:+ s ∧ Text.isWord c = true ∧ '@' ∈ rest ∧
    ∀ x ∈ c :: rest, Text.isBlank x = false

/-- Masking leaves `length` characters of a text alone, from a place on. -/
def Spares (mask : List Char → List Char) (s : List Char) (place length : Nat) : Prop :=
  ((mask s).drop place).take length = (s.drop place).take length

/-! ## The characters of an address -/

/-- A letter or digit is a word character, and neither blank nor a mark of an address or of masking.
-/
theorem isAlphanum_spec {c : Char} (h : c.isAlphanum = true) :
    Text.isWord c = true ∧ Text.isBlank c = false ∧ c ≠ '*' ∧ c ≠ '@' := by
  have hascii := (toNat_of_isAlphanum h).2
  have hspec := of_toNat_le (P := fun c => c.isAlphanum = true →
    Text.isWord c = true ∧ Text.isBlank c = false ∧ c ≠ '*' ∧ c ≠ '@') (by decide +kernel) hascii
  exact hspec h

namespace Address

variable (a : Address)

/-- The user of an address is made of word characters. -/
theorem user_spec {c : Char} (hc : c ∈ a.user) :
    Text.isWord c = true ∧ Text.isBlank c = false ∧ c ≠ '*' ∧ c ≠ '@' :=
  isAlphanum_spec (a.isAlphanum c (by simp [hc]))

/-- The host of an address is made of word characters. -/
theorem host_spec {c : Char} (hc : c ∈ a.host) :
    Text.isWord c = true ∧ Text.isBlank c = false ∧ c ≠ '*' ∧ c ≠ '@' :=
  isAlphanum_spec (a.isAlphanum c (by simp [hc]))

/-- The part behind the last point of an address is made of word characters. -/
theorem top_spec {c : Char} (hc : c ∈ a.top) :
    Text.isWord c = true ∧ Text.isBlank c = false ∧ c ≠ '*' ∧ c ≠ '@' :=
  isAlphanum_spec (a.isAlphanum c (by simp [hc]))

/-- The text of an address is not empty. -/
theorem text_ne_nil : a.text ≠ [] := by
  simp [text]

/-- No character of an address is blank or a star. -/
theorem text_spec {c : Char} (hc : c ∈ a.text) : Text.isBlank c = false ∧ c ≠ '*' := by
  simp only [text, List.mem_append, List.mem_cons] at hc
  obtain hc | rfl | hc | rfl | hc := hc
  · exact ⟨(a.user_spec hc).2.1, (a.user_spec hc).2.2.1⟩
  · decide +kernel
  · exact ⟨(a.host_spec hc).2.1, (a.host_spec hc).2.2.1⟩
  · decide +kernel
  · exact ⟨(a.top_spec hc).2.1, (a.top_spec hc).2.2.1⟩

/-- An address holds no star, so what is hidden of it shows. -/
theorem star_not_mem_text : '*' ∉ a.text := fun h =>
  (a.text_spec h).2 rfl

/-- The user of an address has a first and a second character. -/
theorem exists_user_eq : ∃ c d rest, a.user = c :: d :: rest := by
  match h : a.user with
  | [] | [_] => simpa [h] using a.two_le_length_user
  | c :: d :: rest => exact ⟨c, d, rest, rfl⟩

/-- An address that stands in front of a blank ends there. -/
theorem prefix_append_iff {l r : List Char} (hr : ∀ c ∈ r.head?, Text.isBlank c = true) :
    a.text <+: l ++ r ↔ a.text <+: l := by
  refine ⟨fun h => ?_, fun h => h.trans (List.prefix_append l r)⟩
  obtain hl | ⟨x, hx⟩ := List.prefix_or_prefix_of_prefix h (List.prefix_append l r)
  · exact hl
  · rw [← hx, List.prefix_append_right_inj] at h
    cases x with
    | nil => exact ⟨[], by rw [← hx, List.append_nil, List.append_nil]⟩
    | cons c x =>
      obtain ⟨after, rfl⟩ := h
      have hblank := (a.text_spec (c := c) (by simp [← hx])).1
      rw [hr c (by simp)] at hblank
      cases hblank

/-- No address stands at the end of a text. -/
theorem not_prefix_nil : ¬ a.text <+: [] := fun h =>
  a.text_ne_nil (List.prefix_nil.mp h)

/-- No address begins with a blank. -/
theorem not_prefix_cons_of_isBlank {b : Char} (hb : Text.isBlank b = true) (s : List Char) :
    ¬ a.text <+: b :: s := fun h =>
  a.not_prefix_nil ((a.prefix_append_iff (l := []) (by simpa using hb)).mp h)

end Address

/-! ## Behind an at sign -/

/-- With one more character in front, a text ends behind an at sign as before, or because that
character is the word character in front of it. -/
theorem endsBehindAtSign_cons_iff {c : Char} {s : List Char} :
    EndsBehindAtSign (c :: s) ↔
      (Text.isWord c = true ∧ '@' ∈ s ∧ ∀ x ∈ c :: s, Text.isBlank x = false) ∨
        EndsBehindAtSign s := by
  constructor
  · rintro ⟨d, rest, hsuffix, h⟩
    obtain heq | hsuffix := List.suffix_cons_iff.mp hsuffix
    · obtain ⟨rfl, rfl⟩ := List.cons_eq_cons.mp heq
      exact .inl h
    · exact .inr ⟨d, rest, hsuffix, h⟩
  · rintro (h | ⟨d, rest, hsuffix, h⟩)
    · exact ⟨c, s, List.suffix_refl _, h⟩
    · exact ⟨d, rest, hsuffix.trans (List.suffix_cons c s), h⟩

/-- Nothing in front of a blank counts. -/
theorem endsBehindAtSign_append_cons {b : Char} (hb : Text.isBlank b = true) (s t : List Char) :
    EndsBehindAtSign (s ++ b :: t) ↔ EndsBehindAtSign t := by
  induction s with
  | nil =>
    rw [List.nil_append, endsBehindAtSign_cons_iff, or_iff_right]
    rintro ⟨-, -, h⟩
    exact absurd (h b List.mem_cons_self) (by simp [hb])
  | cons c s ih =>
    rw [List.cons_append, endsBehindAtSign_cons_iff, ih, or_iff_right]
    rintro ⟨-, -, h⟩
    exact absurd (h b (by simp)) (by simp [hb])

/-- Within a run, the at sign stands behind the first word character. -/
theorem endsBehindAtSign_iff_of_run {s : List Char} (hs : ∀ x ∈ s, Text.isBlank x = false) :
    EndsBehindAtSign s ↔ '@' ∈ s.dropWhile fun c => !Text.isWord c := by
  have hat : Text.isWord '@' = false := by decide +kernel
  induction s with
  | nil =>
    rw [List.dropWhile_nil]
    refine iff_of_false ?_ List.not_mem_nil
    rintro ⟨c, rest, hsuffix, -⟩
    exact List.cons_ne_nil _ _ (List.suffix_nil.mp hsuffix)
  | cons c s ih =>
    have hrest := ih fun x hx => hs x (List.mem_cons_of_mem c hx)
    rw [endsBehindAtSign_cons_iff]
    simp only [hrest]
    cases hc : Text.isWord c with
    | false => simp [hc]
    | true =>
      have hne : '@' ≠ c := by
        rintro rfl
        rw [hat] at hc
        cases hc
      rw [List.dropWhile_cons_of_neg (by simp [hc]), List.mem_cons, or_iff_right hne]
      refine ⟨?_, fun h => .inl ⟨rfl, h, hs⟩⟩
      rintro (⟨-, h, -⟩ | h)
      · exact h
      · exact (List.dropWhile_suffix _).subset h

/-- Hiding behind a word character keeps whether a text has blanks. -/
theorem HidesBehindWord.blank_free_iff {seen : Bool} {s t : List Char}
    (h : HidesBehindWord seen s t) :
    (∀ x ∈ s, Text.isBlank x = false) ↔ ∀ x ∈ t, Text.isBlank x = false := by
  have hstar : Text.isBlank '*' = false := by decide +kernel
  induction h with
  | nil => rfl
  | keep c _ ih => simp only [List.forall_mem_cons, ih]
  | hide _ hblank _ ih => simp only [List.forall_mem_cons, ih, hblank, hstar]

/-- Hiding behind a word character keeps whether a text has an at sign. -/
theorem HidesBehindWord.at_sign_mem_iff {seen : Bool} {s t : List Char}
    (h : HidesBehindWord seen s t) : '@' ∈ s ↔ '@' ∈ t := by
  induction h with
  | nil => rfl
  | keep c _ ih => rw [List.mem_cons, List.mem_cons, ih]
  | hide hat _ _ ih =>
    rw [List.mem_cons, List.mem_cons, ih, or_iff_right (Ne.symm hat), or_iff_right (by decide)]

/-- A word character that is hidden has a word character in front of it that is not, so the hidden
one is not needed. -/
theorem HidesBehindWord.endsBehindAtSign_iff {seen : Bool} {s t : List Char}
    (h : HidesBehindWord seen s t) :
    (seen = true ∧ '@' ∈ s ∧ ∀ x ∈ s, Text.isBlank x = false) ∨ EndsBehindAtSign s ↔
      (seen = true ∧ '@' ∈ t ∧ ∀ x ∈ t, Text.isBlank x = false) ∨ EndsBehindAtSign t := by
  induction h with
  | nil => rfl
  | @keep seen c s t h ih =>
    have hblank := h.blank_free_iff
    have hat := h.at_sign_mem_iff
    simp only [endsBehindAtSign_cons_iff, List.mem_cons, forall_eq_or_imp, ← hblank, ← hat] at ih ⊢
    grind
  | @hide c s t hat hblank h ih =>
    have hfree := h.blank_free_iff
    have hmem := h.at_sign_mem_iff
    have hstar : Text.isWord '*' = false ∧ Text.isBlank '*' = false := by decide +kernel
    simp only [endsBehindAtSign_cons_iff, List.mem_cons, forall_eq_or_imp, ← hfree, ← hmem] at ih ⊢
    grind

/-- The pass over account numbers keeps which places stand behind an at sign. -/
theorem endsBehindAtSign_maskAccounts (s : List Char) (n : Nat) :
    EndsBehindAtSign ((maskAccounts s).take n) ↔ EndsBehindAtSign (s.take n) := by
  have h := ((maskAccounts_hides s).take n).endsBehindAtSign_iff
  simpa using h.symm

/-! ## One run -/

/-- Every character behind those that are shown is hidden. -/
theorem getElem?_maskAfter {shown i : Nat} {s : List Char} (hshown : shown ≤ i)
    (hi : i < s.length) : (maskAfter shown s)[i]? = some '*' := by
  have hlen : (s.take shown).length = shown := by
    rw [List.length_take]
    omega
  rw [maskAfter, List.getElem?_append_right (by omega), masked, List.getElem?_map,
    List.getElem?_drop, hlen, Nat.add_sub_cancel' hshown, List.getElem?_eq_getElem hi]
  rfl

/-- What stands behind the first at sign is left alone. -/
theorem maskAddress_append_of_mem {l : List Char} (h : '@' ∈ l) (r : List Char) :
    maskAddress (l ++ r) = maskAddress l ++ r := by
  have hcut : ¬ ∀ c ∈ l, decide (c ≠ '@') = true := fun hall => by simpa using hall '@' h
  have htake : (l ++ r).takeWhile (· ≠ '@') = l.takeWhile (· ≠ '@') := by
    rw [List.takeWhile_append, if_neg]
    intro hlen
    exact hcut (List.takeWhile_eq_self_iff.mp
      ((List.takeWhile_prefix _).eq_of_length hlen))
  have hdrop : (l ++ r).dropWhile (· ≠ '@') = l.dropWhile (· ≠ '@') ++ r := by
    rw [List.dropWhile_append, if_neg]
    intro hempty
    exact hcut (List.dropWhile_eq_nil_iff.mp (List.isEmpty_iff.mp hempty))
  rw [maskAddress, maskAddress, htake, hdrop, List.append_assoc]

/-- Of two or more characters in front of the first at sign all but the first are hidden. -/
theorem maskAddress_of_not_mem {l : List Char} (hl : '@' ∉ l) (hlen : 2 ≤ l.length)
    (r : List Char) : maskAddress (l ++ '@' :: r) = maskAfter 1 l ++ '@' :: r := by
  have hall : ∀ c ∈ l, decide (c ≠ '@') = true := by
    rintro c hc
    simp only [ne_eq, decide_eq_true_eq]
    rintro rfl
    exact hl hc
  have htake : (l ++ '@' :: r).takeWhile (· ≠ '@') = l := by
    rw [List.takeWhile_append_of_pos hall]
    simp
  have hdrop : (l ++ '@' :: r).dropWhile (· ≠ '@') = '@' :: r := by
    rw [List.dropWhile_append_of_pos hall]
    simp
  rw [maskAddress, htake, hdrop, if_neg (by omega)]

/-- A point between two parts that are not empty has a character on either side. -/
theorem pointInside_append {l r : List Char} (hl : l ≠ []) (hr : r ≠ []) :
    pointInside (l ++ '.' :: r) = true := by
  obtain ⟨e, r, rfl⟩ := List.exists_cons_of_ne_nil hr
  induction l with
  | nil => exact absurd rfl hl
  | cons c rest ih =>
    cases rest with
    | nil => rw [List.singleton_append, pointInside]
    | cons d rest =>
      have htail := ih (List.cons_ne_nil d rest)
      rw [List.cons_append] at htail
      rw [List.cons_append, List.cons_append, pointInside.eq_def]
      split <;> simp_all

/-- A point inside what follows an at sign makes a domain of it, whatever stands in front. -/
theorem domainInside_append {r : List Char} (h : pointInside r = true) (l : List Char) :
    domainInside (l ++ '@' :: r) = true := by
  induction l with
  | nil => simp [domainInside, h]
  | cons c l ih => rw [List.cons_append, domainInside, ih, Bool.or_true]

/-- A character that fails the test ends what is dropped in front of it. -/
theorem dropWhile_append_cons {p : Char → Bool} {c : Char} (hc : p c = false) (l r : List Char) :
    (l ++ c :: r).dropWhile p = l.dropWhile p ++ c :: r := by
  rw [List.dropWhile_append, List.dropWhile_cons_of_neg (by simp [hc])]
  split
  · next hempty => rw [List.isEmpty_iff.mp hempty, List.nil_append]
  · rfl

/-- A character that fails the test ends what is taken in front of it. -/
theorem takeWhile_append_cons {p : Char → Bool} {c : Char} (hc : p c = false) (l r : List Char) :
    (l ++ c :: r).takeWhile p = l.takeWhile p := by
  rw [List.takeWhile_append, List.takeWhile_cons_of_neg (by simp [hc])]
  split
  · next hlen => rw [List.append_nil, (List.takeWhile_prefix p).eq_of_length hlen]
  · rfl

namespace Address

variable (a : Address)

/-- A run that an address stands in fits the pattern from end to end. -/
theorem isAddress_append (l r : List Char) : isAddress (l ++ (a.text ++ r)) = true := by
  obtain ⟨c, d, rest, huser⟩ := a.exists_user_eq
  have hpoint : pointInside (a.host ++ '.' :: (a.top ++ r)) = true :=
    pointInside_append a.host_ne_nil (List.append_ne_nil_of_left_ne_nil a.top_ne_nil r)
  have htext : l ++ (a.text ++ r) =
      (l ++ a.user) ++ '@' :: (a.host ++ '.' :: (a.top ++ r)) := by
    simp [text]
  rw [isAddress, htext, List.drop_append_of_le_length (by simp [huser]; omega)]
  exact domainInside_append hpoint _

/-- The part of a run from its first word character to its last reaches around an address. -/
theorem trim_append (l r : List Char) :
    Text.trim (fun c => !Text.isWord c) (l ++ (a.text ++ r)) =
      l.dropWhile (fun c => !Text.isWord c) ++
        (a.text ++ (r.reverse.dropWhile fun c => !Text.isWord c).reverse) := by
  obtain ⟨c, d, rest, huser⟩ := a.exists_user_eq
  have hfirst : a.text ++ r = c :: (d :: rest ++ '@' :: (a.host ++ '.' :: a.top) ++ r) := by
    simp [text, huser]
  have hc : (!Text.isWord c) = false := by
    rw [(a.user_spec (c := c) (by simp [huser])).1, Bool.not_true]
  obtain ⟨front, z, htop⟩ : ∃ front z, a.top = front ++ [z] :=
    ⟨_, _, (List.dropLast_append_getLast a.top_ne_nil).symm⟩
  have hlast : a.text.reverse =
      z :: (a.user ++ '@' :: (a.host ++ '.' :: front)).reverse := by
    simp [text, htop]
  have hz : (!Text.isWord z) = false := by
    rw [(a.top_spec (c := z) (by simp [htop])).1, Bool.not_true]
  rw [Text.trim, hfirst, dropWhile_append_cons hc, ← hfirst, List.reverse_append,
    List.reverse_append, hlast, List.append_assoc, List.cons_append, dropWhile_append_cons hz,
    ← List.cons_append, ← hlast]
  simp

/-- Of a run with an address in it, what is masked reaches from the first word character over the
address. -/
theorem maskToken_append (l r : List Char) :
    ∃ r' trail, maskToken (l ++ (a.text ++ r)) =
      l.takeWhile (fun c => !Text.isWord c) ++
        maskAddress (l.dropWhile (fun c => !Text.isWord c) ++ (a.text ++ r')) ++ trail := by
  obtain ⟨c, d, rest, huser⟩ := a.exists_user_eq
  have hc : (!Text.isWord c) = false := by
    rw [(a.user_spec (c := c) (by simp [huser])).1, Bool.not_true]
  have hlead : (l ++ (a.text ++ r)).takeWhile (fun c => !Text.isWord c) =
      l.takeWhile fun c => !Text.isWord c := by
    rw [text, huser]
    exact takeWhile_append_cons hc _ _
  rw [maskToken, a.trim_append, if_pos (a.isAddress_append _ _), hlead]
  exact ⟨_, _, rfl⟩

/-- In a run, an address behind the first at sign is left alone, and one in front of it is not. -/
theorem prefix_maskToken_iff (l r : List Char) :
    a.text <+: (maskToken (l ++ (a.text ++ r))).drop l.length ↔
      '@' ∈ l.dropWhile fun c => !Text.isWord c := by
  obtain ⟨r', trail, htoken⟩ := a.maskToken_append l r
  have hlen : (l.takeWhile fun c => !Text.isWord c).length +
      (l.dropWhile fun c => !Text.isWord c).length = l.length := by
    rw [← List.length_append, List.takeWhile_append_dropWhile]
  constructor
  · intro h
    by_contra hat
    have huser := a.two_le_length_user
    have huserAt : '@' ∉ a.user := fun hmem => (a.user_spec hmem).2.2.2 rfl
    have hcore : maskAddress (l.dropWhile (fun c => !Text.isWord c) ++ (a.text ++ r')) =
        maskAfter 1 (l.dropWhile (fun c => !Text.isWord c) ++ a.user) ++
          '@' :: (a.host ++ '.' :: a.top ++ r') := by
      rw [← maskAddress_of_not_mem (by simp [hat, huserAt]) (by rw [List.length_append]; omega)]
      simp [text]
    have hcoreLen := (maskAfter_masks 1 (l.dropWhile (fun c => !Text.isWord c) ++ a.user)).length_eq
    rw [List.length_append] at hcoreLen
    -- the second character of the user is hidden
    have hhidden : (maskToken (l ++ (a.text ++ r)))[l.length + 1]? = some '*' := by
      rw [htoken, hcore, List.append_assoc, List.getElem?_append_right (by omega),
        List.append_assoc, List.getElem?_append_left (by omega)]
      exact getElem?_maskAfter (by omega) (by rw [List.length_append]; omega)
    have hlt : 1 < a.text.length := by
      rw [text, List.length_append]
      omega
    have hsecond := List.prefix_iff_getElem?.mp h 1 hlt
    rw [List.getElem?_drop, hhidden, Option.some.injEq] at hsecond
    exact (a.text_spec (List.getElem_mem hlt)).2 hsecond.symm
  · intro hat
    rw [htoken, maskAddress_append_of_mem hat, ← List.append_assoc, List.append_assoc _ _ trail,
      List.drop_left']
    · exact List.append_assoc .. ▸ List.prefix_append _ _
    · rw [List.length_append, ← (maskAddress_masks _).length_eq, hlen]

/-- The law of one run. -/
theorem prefix_drop_maskToken_iff {run : List Char} (hrun : ∀ x ∈ run, Text.isBlank x = false)
    (n : Nat) :
    a.text <+: (maskToken run).drop n ↔ a.text <+: run.drop n ∧ EndsBehindAtSign (run.take n) := by
  have hstood : a.text <+: (maskToken run).drop n → a.text <+: run.drop n :=
    ((maskToken_masks run).drop n).isPrefix_source a.star_not_mem_text
  rw [← and_iff_right_of_imp hstood]
  refine and_congr_right fun hstands => ?_
  obtain ⟨after, hafter⟩ := hstands
  have hcut : run = run.take n ++ (a.text ++ after) := by
    rw [hafter, List.take_append_drop]
  have hplace : (run.take n).length = n := by
    have hlen := congrArg List.length hafter
    have hpos := List.length_pos_of_ne_nil a.text_ne_nil
    rw [List.length_append, List.length_drop] at hlen
    rw [List.length_take]
    omega
  have h := a.prefix_maskToken_iff (run.take n) after
  rw [← hcut, hplace] at h
  rw [h, endsBehindAtSign_iff_of_run fun x hx => hrun x (List.mem_of_mem_take hx)]

end Address

/-! ## The whole text -/

/-- What follows a run is nothing or a blank, and masking the runs behind it keeps that so. -/
theorem isBlank_of_mem_head?_mapTokens {f : List Char → List Char} {s : List Char}
    (hs : ∀ c ∈ s.head?, Text.isBlank c = true) :
    ∀ c ∈ (mapTokens f s).head?, Text.isBlank c = true := by
  cases s with
  | nil => simp [mapTokens_nil]
  | cons b s => rwa [mapTokens_cons_of_blank (hs b (by simp))]

/-- A run in front of a text of which the law is known. -/
theorem Address.prefix_drop_run_iff (a : Address) {run behind : List Char}
    (hrun : ∀ x ∈ run, Text.isBlank x = false)
    (hbehind : ∀ c ∈ behind.head?, Text.isBlank c = true)
    (h : ∀ m, a.text <+: (mapTokens maskToken behind).drop m ↔
      a.text <+: behind.drop m ∧ EndsBehindAtSign (behind.take m)) (n : Nat) :
    a.text <+: (maskToken run ++ mapTokens maskToken behind).drop n ↔
      a.text <+: (run ++ behind).drop n ∧ EndsBehindAtSign ((run ++ behind).take n) := by
  have hlen := (maskToken_masks run).length_eq
  by_cases hn : n < run.length
  · -- the address ends within the run
    have hmasked := isBlank_of_mem_head?_mapTokens (f := maskToken) hbehind
    rw [List.drop_append_of_le_length (by omega), List.drop_append_of_le_length (by omega),
      List.take_append_of_le_length (by omega), a.prefix_append_iff hmasked,
      a.prefix_append_iff hbehind]
    exact a.prefix_drop_maskToken_iff hrun n
  · obtain ⟨m, rfl⟩ := Nat.exists_eq_add_of_le (Nat.le_of_not_lt hn)
    rw [List.drop_length_add_append, hlen, List.drop_length_add_append, ← hlen,
      List.take_length_add_append]
    refine (h m).trans (and_congr_right fun hstands => ?_)
    -- the address stands behind the blank that ends the run
    match behind, m with
    | [], m => exact absurd (by simpa using hstands) a.not_prefix_nil
    | b :: behind, 0 =>
      exact absurd hstands (a.not_prefix_cons_of_isBlank (hbehind b (by simp)) behind)
    | b :: behind, m + 1 =>
      have hb := hbehind b (by simp)
      rw [List.take_succ_cons, endsBehindAtSign_append_cons hb]
      exact endsBehindAtSign_append_cons hb [] _

/-- The law of the pass over addresses. -/
theorem Address.prefix_drop_maskAddresses_iff (a : Address) (s : List Char) (n : Nat) :
    a.text <+: (maskAddresses s).drop n ↔ a.text <+: s.drop n ∧ EndsBehindAtSign (s.take n) := by
  rw [maskAddresses]
  fun_induction mapTokens maskToken s generalizing n with
  | case1 => simp [a.not_prefix_nil]
  | case2 c rest hc ih =>
    cases n with
    | zero => simp [a.not_prefix_cons_of_isBlank hc]
    | succ n =>
      have hskip := endsBehindAtSign_append_cons hc [] (rest.take n)
      rw [List.drop_succ_cons, List.drop_succ_cons, List.take_succ_cons]
      exact (ih n).trans (and_congr_right fun _ => hskip.symm)
  | case3 c rest hc ih =>
    have hrun : ∀ x ∈ c :: rest.takeWhile (fun x => !Text.isBlank x), Text.isBlank x = false := by
      rw [List.forall_mem_cons]
      exact ⟨by simpa using hc, fun x hx => by simpa using List.mem_takeWhile_imp hx⟩
    have hbehind :
        ∀ x ∈ (rest.dropWhile fun x => !Text.isBlank x).head?, Text.isBlank x = true := by
      intro x hx
      have hstop := List.head?_dropWhile_not (fun x => !Text.isBlank x) rest
      rw [Option.mem_def.mp hx] at hstop
      simpa using hstop
    have h := a.prefix_drop_run_iff hrun hbehind ih n
    rwa [List.cons_append, List.takeWhile_append_dropWhile] at h

/-- A masked text shows what stood there before, as long as masking leaves it alone. -/
theorem prefix_drop_mask_iff {mask : List Char → List Char} {s w : List Char} (n : Nat)
    (hmask : Masks s (mask s)) (hw : '*' ∉ w) :
    w <+: (mask s).drop n ↔ w <+: s.drop n ∧ Spares mask s n w.length := by
  have hstood : w <+: (mask s).drop n → w <+: s.drop n :=
    (hmask.drop n).isPrefix_source hw
  rw [← and_iff_right_of_imp hstood]
  refine and_congr_right fun hstands => ?_
  rw [List.prefix_iff_eq_take, Spares, ← List.prefix_iff_eq_take.mp hstands]
  exact eq_comm

/-- An address stands in a redacted text exactly if it stood there before, an at sign with a word
character in front of it precedes it in the same run, and the passes over account numbers and phone
numbers hide none of it. -/
theorem address_survives_iff_behind_at_sign (a : Address) (s : String) (place : Nat) :
    a.text <+: (redact s).toList.drop place ↔
      a.text <+: s.toList.drop place ∧ EndsBehindAtSign (s.toList.take place) ∧
        Spares maskAccounts s.toList place a.text.length ∧
        Spares maskPhones (maskAddresses (maskAccounts s.toList)) place a.text.length := by
  have haccounts := prefix_drop_mask_iff place (maskAccounts_masks s.toList) a.star_not_mem_text
  have hphones := prefix_drop_mask_iff place
    (maskPhones_masks (maskAddresses (maskAccounts s.toList))) a.star_not_mem_text
  rw [redact, String.toList_ofList, redactChars, hphones, a.prefix_drop_maskAddresses_iff,
    haccounts, endsBehindAtSign_maskAccounts]
  tauto

/-- Of two addresses in one run the second one is left. -/
theorem second_address_of_run_survives :
    redact "ab@x.com,cd@y.com" = "a*@x.com,cd@y.com" ∧
      ∃ a : Address, a.text <:+: (redact "ab@x.com,cd@y.com").toList := by
  have hredact : redact "ab@x.com,cd@y.com" = "a*@x.com,cd@y.com" := by decide +kernel
  refine ⟨hredact, ⟨['c', 'd'], ['y'], ['c', 'o', 'm'], by decide, by decide, by decide,
    List.all_eq_true.mp rfl⟩, ?_⟩
  rw [hredact]
  exact ⟨"a*@x.com,".toList, [], by decide +kernel⟩

end Redaction

end ScopeSearch
