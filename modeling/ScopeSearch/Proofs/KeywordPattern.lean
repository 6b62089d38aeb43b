import ScopeSearch.KeywordFilter
import ScopeSearch.Proofs.List
import ScopeSearch.Proofs.LowerCase

/-!
# What the pattern of the keywords matches

A column is compared with the keywords in lower case between two percent signs.  Such a pattern
matches the texts with a part that the keywords, read as a pattern themselves, match.

* The keywords match the text that they are, so every text with the keywords in it is found.
* A keyword with a percent sign or an underscore in it also matches other texts that are no longer
  than itself.  They cannot hold the keywords, so texts without the keywords are found as well.
* Without such a character the keywords match nothing but themselves, and the filter is one on
  parts of texts.
-/

set_option autoImplicit false

namespace ScopeSearch

/-- A character that stands for others in a pattern. -/
def IsWildcard (c : Char) : Prop :=
  c = '%' ∨ c = '_'

instance (c : Char) : Decidable (IsWildcard c) :=
  inferInstanceAs (Decidable (c = '%' ∨ c = '_'))

/-- A text matches a pattern without escapes: a percent sign stands for any characters, an
underscore for one, and every other character for itself. -/
inductive MatchesPattern : List Char → List Char → Prop
  | nil : MatchesPattern [] []
  | percent {p s : List Char} (skipped : List Char) (h : MatchesPattern p s) :
      MatchesPattern ('%' :: p) (skipped ++ s)
  | underscore {p s : List Char} (c : Char) (h : MatchesPattern p s) :
      MatchesPattern ('_' :: p) (c :: s)
  | literal {p s : List Char} {c : Char} (hc : ¬ IsWildcard c) (h : MatchesPattern p s) :
      MatchesPattern (c :: p) (c :: s)

namespace MatchesPattern

variable {p q s t : List Char}

/-- Every pattern matches the text that it is. -/
theorem refl (p : List Char) : MatchesPattern p p := by
  induction p with
  | nil => exact .nil
  | cons c p ih =>
    by_cases hc : IsWildcard c
    · obtain rfl | rfl := hc
      · exact .percent ['%'] ih
      · exact .underscore '_' ih
    · exact .literal hc ih

/-- Texts that match two patterns match, one behind the other, the joined pattern. -/
theorem append (hp : MatchesPattern p s) (hq : MatchesPattern q t) :
    MatchesPattern (p ++ q) (s ++ t) := by
  induction hp with
  | nil => exact hq
  | percent skipped _ ih =>
    rw [List.append_assoc]
    exact .percent skipped ih
  | underscore c _ ih => exact .underscore c ih
  | literal hc _ ih => exact .literal hc ih

/-- A text that matches two patterns one behind the other is cut into a text for each. -/
theorem exists_of_append (h : MatchesPattern (p ++ q) s) :
    ∃ first second, s = first ++ second ∧ MatchesPattern p first ∧ MatchesPattern q second := by
  induction p generalizing s with
  | nil => exact ⟨[], s, rfl, .nil, h⟩
  | cons c p ih =>
    cases h with
    | percent skipped h =>
      obtain ⟨first, second, rfl, hp, hq⟩ := ih h
      exact ⟨skipped ++ first, second, by rw [List.append_assoc], .percent skipped hp, hq⟩
    | underscore d h =>
      obtain ⟨first, second, rfl, hp, hq⟩ := ih h
      exact ⟨d :: first, second, rfl, .underscore d hp, hq⟩
    | literal hc h =>
      obtain ⟨first, second, rfl, hp, hq⟩ := ih h
      exact ⟨c :: first, second, rfl, .literal hc hp, hq⟩

/-- Between two percent signs a pattern has to match a part of the text. -/
theorem between_percents_iff :
    MatchesPattern ('%' :: (p ++ ['%'])) s ↔ ∃ part, part <:+: s ∧ MatchesPattern p part := by
  constructor
  · intro h
    cases h with
    | percent skipped h =>
      obtain ⟨part, behind, rfl, hpart, -⟩ := h.exists_of_append
      exact ⟨part, List.infix_append' skipped part behind, hpart⟩
    | literal hc _ => exact absurd (.inl rfl) hc
  · rintro ⟨part, ⟨before, behind, rfl⟩, hpart⟩
    rw [List.append_assoc]
    apply percent before
    apply hpart.append
    rw [← List.append_nil behind]
    exact .percent behind .nil

/-- Without characters that stand for others a pattern matches itself alone. -/
theorem eq_of_plain (hplain : ∀ c ∈ p, ¬ IsWildcard c) (h : MatchesPattern p s) : s = p := by
  induction h with
  | nil => rfl
  | percent skipped _ _ => exact absurd (.inl rfl) (hplain '%' List.mem_cons_self)
  | underscore c _ _ => exact absurd (.inr rfl) (hplain '_' List.mem_cons_self)
  | literal hc _ ih => rw [ih fun c hmem => hplain c (List.mem_cons_of_mem _ hmem)]

/-- With such a character it matches another text that is no longer than itself. -/
theorem exists_other {c : Char} (hc : IsWildcard c) (hmem : c ∈ p) :
    ∃ other, MatchesPattern p other ∧ other.length ≤ p.length ∧ other ≠ p := by
  induction p with
  | nil => simp at hmem
  | cons d p ih =>
    by_cases hd : IsWildcard d
    · obtain rfl | rfl := hd
      · -- nothing in place of the percent sign
        refine ⟨p, .percent [] (refl p), Nat.le_succ _, ?_⟩
        intro hsame
        have hlength := congrArg List.length hsame
        rw [List.length_cons] at hlength
        omega
      · exact ⟨'x' :: p, .underscore 'x' (refl p), Nat.le_refl _, by simp⟩
    · have hrest : c ∈ p := by
        apply (List.mem_cons.mp hmem).resolve_left
        rintro rfl
        exact hd hc
      obtain ⟨other, hmatch, hlength, hne⟩ := ih hrest
      refine ⟨d :: other, .literal hd hmatch, Nat.succ_le_succ hlength, ?_⟩
      intro hsame
      exact hne (List.cons.inj hsame).2

end MatchesPattern

/-- The pattern of some words is their joined lower case between two wildcards. -/
theorem toList_likeParameter (words : List String) :
    (likeParameter words).toList =
      '%' :: ((Text.lower (" ".intercalate words)).toList ++ ['%']) := by
  rw [likeParameter, String.toList_append, String.toList_append]
  rfl

/-- The lower case of the joined words holds the same wildcards as the words. -/
theorem mem_lower_words_iff {c : Char} (hc : IsWildcard c) (words : List String) :
    c ∈ (Text.lower (" ".intercalate words)).toList ↔ ∃ w ∈ words, c ∈ w.toList := by
  have hcaseless : Text.IsCaseless c := by
    obtain rfl | rfl := hc <;> exact ⟨by decide, by decide, by decide⟩
  have hspace : c ∉ " ".toList := by
    obtain rfl | rfl := hc <;> decide
  rw [Text.mem_lower_iff hcaseless, String.toList_intercalate, mem_intercalate_iff hspace]
  simp

/-- A text matches the pattern of some words if a part of it matches the words in lower case, read
as a pattern.  Every text with the words in it does, and no other text does exactly if no word holds
a percent sign or an underscore. -/
theorem keywords_match_as_pattern (words : List String) :
    (∀ v : String, MatchesPattern (likeParameter words).toList v.toList ↔
      ∃ part, part <:+: v.toList ∧
        MatchesPattern (Text.lower (" ".intercalate words)).toList part) ∧
    (∀ v : String, (Text.lower (" ".intercalate words)).toList <:+: v.toList →
      MatchesPattern (likeParameter words).toList v.toList) ∧
    ((∀ v : String, MatchesPattern (likeParameter words).toList v.toList →
        (Text.lower (" ".intercalate words)).toList <:+: v.toList) ↔
      ∀ w ∈ words, ∀ c ∈ w.toList, ¬ IsWildcard c) := by
  have hmatch (v : String) : MatchesPattern (likeParameter words).toList v.toList ↔
      ∃ part, part <:+: v.toList ∧
        MatchesPattern (Text.lower (" ".intercalate words)).toList part := by
    rw [toList_likeParameter, MatchesPattern.between_percents_iff]
  refine ⟨hmatch, ?_, ?_, ?_⟩
  · intro v hv
    rw [hmatch]
    exact ⟨_, hv, .refl _⟩
  · intro hfound w hw c hmem hc
    obtain ⟨other, hother, hlength, hne⟩ :=
      MatchesPattern.exists_other hc ((mem_lower_words_iff hc words).mpr ⟨w, hw, hmem⟩)
    have hinside := hfound (String.ofList other) <| by
      rw [hmatch, String.toList_ofList]
      exact ⟨other, List.infix_rfl, hother⟩
    rw [String.toList_ofList] at hinside
    exact hne (hinside.eq_of_length_le hlength).symm
  · intro hplain v hv
    obtain ⟨part, hpart, hwords⟩ := (hmatch v).mp hv
    have heq : part = (Text.lower (" ".intercalate words)).toList := by
      apply hwords.eq_of_plain
      intro c hmem hc
      obtain ⟨w, hw, hin⟩ := (mem_lower_words_iff hc words).mp hmem
      exact hplain w hw c hin hc
    rwa [heq] at hpart

/-- A text without the keyword is found when the keyword has an underscore in it. -/
theorem underscore_in_keyword_finds_other_text :
    MatchesPattern (likeParameter ["a_b"]).toList "axb".toList ∧
      ¬ (Text.lower (" ".intercalate ["a_b"])).toList <:+: "axb".toList := by
  have hpattern : (likeParameter ["a_b"]).toList = "%a_b%".toList := by decide +kernel
  have hlower : (Text.lower (" ".intercalate ["a_b"])).toList = "a_b".toList := by decide +kernel
  rw [hpattern, hlower]
  refine ⟨?_, by decide⟩
  exact .percent [] (.literal (by decide) (.underscore 'x' (.literal (by decide)
    (.percent [] .nil))))

end ScopeSearch
