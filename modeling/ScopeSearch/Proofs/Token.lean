import ScopeSearch.Classification
import ScopeSearch.KeywordFilter

/-!
# Tokens of a text

A token is a text that is not empty and holds no blanks.  A text is cut at its blanks, wherever they
stand and however many of them there are, so the tokens of two texts with blanks between them are
the tokens of the one followed by those of the other.  Hence tokens that are joined by single spaces
are cut into the same tokens again, and only a blank text has none.
-/

set_option autoImplicit false

namespace ScopeSearch

/-- A text that stands as one token of a term: it is not empty and holds no blanks. -/
structure IsToken (s : String) : Prop where
  ne_nil : s.toList ≠ []
  blank_free : ∀ c ∈ s.toList, Text.isBlank c = false

instance (s : String) : Decidable (IsToken s) :=
  decidable_of_iff (s.toList ≠ [] ∧ s.toList.all fun c => Text.isBlank c = false)
    ⟨fun h => ⟨h.1, by simpa using h.2⟩, fun h => ⟨h.1, by simpa using h.2⟩⟩

/-- A token has no line feed. -/
theorem IsToken.line_feed_not_mem {s : String} (h : IsToken s) : '\n' ∉ s.toList := by
  intro hmem
  have hblank := h.blank_free '\n' hmem
  exact absurd hblank (by decide)

/-! ## Texts as lists of characters -/

/-- A text without blanks is one token. -/
theorem tokens_of_blank_free {s : List Char} (hne : s ≠ [])
    (hs : ∀ c ∈ s, Text.isBlank c = false) : Text.tokens s = [s] := by
  induction s with
  | nil => exact absurd rfl hne
  | cons c rest ih =>
    obtain ⟨hc, hrest⟩ := List.forall_mem_cons.mp hs
    cases rest with
    | nil => simp [Text.tokens, hc, Text.startsToken]
    | cons d tail =>
      have hd := hrest d List.mem_cons_self
      have htokens := ih (List.cons_ne_nil d tail) hrest
      have hstarts : Text.startsToken (d :: tail) = true := by
        rw [Text.startsToken, hd, Bool.not_false]
      rw [Text.tokens, if_neg (by simp [hc]), if_pos hstarts, htokens, Text.extendFirst]

/-- With a character in front there is a first token. -/
theorem extendFirst_ne_nil (c : Char) (ts : List (List Char)) : Text.extendFirst c ts ≠ [] := by
  cases ts <;> simp [Text.extendFirst]

/-- Only a blank text has no tokens. -/
theorem tokens_eq_nil_iff {s : List Char} : Text.tokens s = [] ↔ Text.isBlankText s = true := by
  induction s with
  | nil => simp [Text.tokens, Text.isBlankText]
  | cons c rest ih =>
    unfold Text.isBlankText at ih ⊢
    rw [Text.tokens, List.all_cons]
    by_cases hc : Text.isBlank c = true
    · rw [if_pos hc, hc, Bool.true_and, ih]
    · rw [if_neg hc]
      split
      · simp [hc, extendFirst_ne_nil]
      · simp [hc]

/-- With a character in front, a token is one from before or begins with that character. -/
theorem mem_extendFirst {c : Char} {ts : List (List Char)} {t : List Char}
    (h : t ∈ Text.extendFirst c ts) : t ∈ ts ∨ ∃ t', (t' = [] ∨ t' ∈ ts) ∧ t = c :: t' := by
  cases ts with
  | nil =>
    rw [Text.extendFirst, List.mem_singleton] at h
    exact .inr ⟨[], .inl rfl, h⟩
  | cons first rest =>
    rw [Text.extendFirst, List.mem_cons] at h
    rcases h with rfl | h
    · exact .inr ⟨first, .inr List.mem_cons_self, rfl⟩
    · exact .inl (List.mem_cons_of_mem first h)

/-- The tokens of a text are not empty and have no blanks. -/
theorem blank_free_of_mem_tokens {s t : List Char} (h : t ∈ Text.tokens s) :
    t ≠ [] ∧ ∀ c ∈ t, Text.isBlank c = false := by
  induction s generalizing t with
  | nil => cases h
  | cons c rest ih =>
    rw [Text.tokens] at h
    split at h
    · exact ih h
    · next hc =>
      have hc : Text.isBlank c = false := by simpa using hc
      split at h
      · rcases mem_extendFirst h with h | ⟨t', ht', rfl⟩
        · exact ih h
        · refine ⟨List.cons_ne_nil c t', List.forall_mem_cons.mpr ⟨hc, ?_⟩⟩
          rcases ht' with rfl | ht'
          · simp
          · exact (ih ht').2
      · rcases List.mem_cons.mp h with rfl | h
        · simp [hc]
        · exact ih h

/-! ## Cutting at a blank -/

/-- The first token is extended in front of any further ones. -/
theorem extendFirst_append (c : Char) {ts : List (List Char)} (h : ts ≠ [])
    (us : List (List Char)) : Text.extendFirst c (ts ++ us) = Text.extendFirst c ts ++ us := by
  cases ts with
  | nil => exact absurd rfl h
  | cons t rest => rfl

/-- A text that starts with a token has tokens. -/
theorem tokens_ne_nil_of_startsToken {s : List Char} (h : Text.startsToken s = true) :
    Text.tokens s ≠ [] := by
  intro hnil
  rw [tokens_eq_nil_iff] at hnil
  cases s with
  | nil => cases h
  | cons c rest =>
    unfold Text.isBlankText at hnil
    rw [List.all_cons, Bool.and_eq_true] at hnil
    simp [Text.startsToken, hnil.1] at h

/-- What begins behind a blank is no part of a token in front of it. -/
theorem tokens_append_cons (s t : List Char) {b : Char} (hb : Text.isBlank b = true) :
    Text.tokens (s ++ b :: t) = Text.tokens s ++ Text.tokens t := by
  induction s with
  | nil => simp [Text.tokens, hb]
  | cons c rest ih =>
    -- Whether `c` extends a token is seen from what follows it, and a blank begins no token.
    have hstarts : Text.startsToken (rest ++ b :: t) = Text.startsToken rest := by
      cases rest <;> simp [Text.startsToken, hb]
    rw [List.cons_append, Text.tokens, Text.tokens, ih, hstarts]
    by_cases hc : Text.isBlank c = true
    · rw [if_pos hc, if_pos hc]
    · rw [if_neg hc, if_neg hc]
      by_cases hrest : Text.startsToken rest = true
      · rw [if_pos hrest, if_pos hrest]
        exact extendFirst_append c (tokens_ne_nil_of_startsToken hrest) (Text.tokens t)
      · rw [if_neg hrest, if_neg hrest, List.cons_append]

/-- A gap in front of a text has no tokens. -/
theorem tokens_append_of_blank {gap : List Char} (hgap : Text.isBlankText gap = true)
    (t : List Char) : Text.tokens (gap ++ t) = Text.tokens t := by
  induction gap with
  | nil => rfl
  | cons b gap ih =>
    unfold Text.isBlankText at ih hgap
    rw [List.all_cons, Bool.and_eq_true] at hgap
    rw [List.cons_append, Text.tokens, if_pos hgap.1, ih hgap.2]

/-- On either side of a gap tokens are found on their own. -/
theorem tokens_append_gap_append (s t : List Char) {gap : List Char} (hne : gap ≠ [])
    (hgap : Text.isBlankText gap = true) :
    Text.tokens (s ++ gap ++ t) = Text.tokens s ++ Text.tokens t := by
  cases gap with
  | nil => exact absurd rfl hne
  | cons b gap =>
    unfold Text.isBlankText at hgap
    rw [List.all_cons, Bool.and_eq_true] at hgap
    rw [List.append_assoc, List.cons_append, tokens_append_cons s (gap ++ t) hgap.1,
      tokens_append_of_blank hgap.2]

/-- Tokens joined with blanks are the tokens of the joined text. -/
theorem tokens_intercalate {ts : List (List Char)}
    (h : ∀ t ∈ ts, t ≠ [] ∧ ∀ c ∈ t, Text.isBlank c = false) :
    Text.tokens ([' '].intercalate ts) = ts := by
  induction ts with
  | nil => rfl
  | cons t rest ih =>
    obtain ⟨⟨hne, hfree⟩, hrest⟩ := List.forall_mem_cons.mp h
    cases rest with
    | nil =>
      rw [List.intercalate_singleton]
      exact tokens_of_blank_free hne hfree
    | cons next rest =>
      have hspace : Text.isBlank ' ' = true := by decide
      rw [List.intercalate_cons_cons, List.append_assoc, List.singleton_append,
        tokens_append_cons t _ hspace, tokens_of_blank_free hne hfree, ih hrest,
        List.singleton_append]

/-! ## Terms -/

/-- The parts of a split text are tokens. -/
theorem isToken_of_mem_split {s t : String} (h : t ∈ Text.split s) : IsToken t := by
  unfold Text.split at h
  obtain ⟨t', ht', rfl⟩ := List.mem_map.mp h
  obtain ⟨hne, hfree⟩ := blank_free_of_mem_tokens ht'
  constructor
  · rwa [String.toList_ofList]
  · rwa [String.toList_ofList]

/-- The tokens of a term are tokens. -/
theorem isToken_of_mem_termTokens {term : Option String} {t : String} (h : t ∈ termTokens term) :
    IsToken t := by
  cases term with
  | none => cases h
  | some s => exact isToken_of_mem_split h

/-- On either side of a gap a text is split on its own. -/
theorem split_append_gap_append (s t : String) {gap : String} (hne : gap ≠ "")
    (hgap : Text.isBlankString gap = true) :
    Text.split (s ++ gap ++ t) = Text.split s ++ Text.split t := by
  have hne : gap.toList ≠ [] := by simpa using hne
  unfold Text.split
  rw [String.toList_append, String.toList_append, tokens_append_gap_append _ _ hne hgap,
    List.map_append]

/-- Tokens that are joined by single spaces are the tokens of the whole. -/
theorem split_intercalate {ts : List String} (h : ∀ t ∈ ts, IsToken t) :
    Text.split (" ".intercalate ts) = ts := by
  have htokens : ∀ t ∈ ts.map String.toList, t ≠ [] ∧ ∀ c ∈ t, Text.isBlank c = false := by
    intro t ht
    obtain ⟨s, hs, rfl⟩ := List.mem_map.mp ht
    exact ⟨(h s hs).ne_nil, (h s hs).blank_free⟩
  have htext : (" ".intercalate ts).toList = [' '].intercalate (ts.map String.toList) := by
    simp
  unfold Text.split
  rw [htext, tokens_intercalate htokens]
  simp

/-- A token as a term is its only token. -/
theorem termTokens_of_isToken {s : String} (h : IsToken s) : termTokens (some s) = [s] := by
  rw [termTokens, Text.split, tokens_of_blank_free h.ne_nil h.blank_free]
  simp

/-- The text of the first tokens of a term has these tokens. -/
theorem termTokens_take (term : Option String) (m : Nat) :
    termTokens (some (" ".intercalate ((termTokens term).take m))) = (termTokens term).take m := by
  rw [termTokens]
  apply split_intercalate
  intro t ht
  exact isToken_of_mem_termTokens (List.mem_of_mem_take ht)

/-- Only a blank term has no tokens. -/
theorem termTokens_eq_nil_iff {term : Option String} :
    termTokens term = [] ↔ isBlankTerm term = true := by
  cases term with
  | none => simp [termTokens, isBlankTerm]
  | some s => simp [termTokens, Text.split, isBlankTerm, Text.isBlankString, tokens_eq_nil_iff]

end ScopeSearch
