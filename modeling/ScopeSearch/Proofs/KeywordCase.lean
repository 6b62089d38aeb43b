import ScopeSearch.KeywordFilter

/-!
# Keywords are lowered one by one

The keywords are joined before they are lowered, and what a capital sigma becomes depends on letters
that may stand far away from it.  A text is lowered character by character all the same, each where
it stands:

* A sigma looks to either side for the nearest character that is not passed over, and ends a word if
  it finds a letter with case in front of it and none behind it.
* A space is not passed over and has no case.  What looks beyond it is answered at it, as if the
  text ended there.
* So a text is lowered up to a space and from there on, and joined keywords become joined lower
  cases.
-/

set_option autoImplicit false

namespace ScopeSearch

namespace Text

/-! ## Each character where it stands -/

/-- A text begins with a letter that has case, behind characters that are passed over. -/
def MeetsCased (s : List Char) : Prop :=
  ∃ passed c rest, s = passed ++ c :: rest ∧ (∀ x ∈ passed, isCaseIgnorable x = true) ∧
    isCaseIgnorable c = false ∧ isCased c = true

/-- Looking ahead for a cased letter decides whether one is met. -/
theorem casedAhead_iff {s : List Char} : casedAhead s = true ↔ MeetsCased s := by
  induction s with
  | nil => simp [casedAhead, MeetsCased]
  | cons c rest ih =>
    rw [casedAhead]
    cases hc : isCaseIgnorable c with
    | false =>
      rw [if_neg Bool.false_ne_true]
      constructor
      · intro hcased
        exact ⟨[], c, rest, rfl, by simp, hc, hcased⟩
      · rintro ⟨passed, d, behind, hs, hpassed, -, hcased⟩
        cases passed with
        | nil =>
          obtain ⟨rfl, -⟩ := List.cons.inj hs
          exact hcased
        | cons x passed =>
          obtain ⟨rfl, -⟩ := List.cons.inj hs
          rw [hpassed c List.mem_cons_self] at hc
          cases hc
    | true =>
      rw [if_pos rfl, ih]
      constructor
      · rintro ⟨passed, d, behind, rfl, hpassed, hd, hcased⟩
        exact ⟨c :: passed, d, behind, rfl, List.forall_mem_cons.mpr ⟨hc, hpassed⟩, hd, hcased⟩
      · rintro ⟨passed, d, behind, hs, hpassed, hd, hcased⟩
        cases passed with
        | nil =>
          obtain ⟨rfl, -⟩ := List.cons.inj hs
          rw [hc] at hd
          cases hd
        | cons x passed =>
          obtain ⟨rfl, rfl⟩ := List.cons.inj hs
          exact ⟨passed, d, behind, rfl, (List.forall_mem_cons.mp hpassed).2, hd, hcased⟩

instance (s : List Char) : Decidable (MeetsCased s) :=
  decidable_of_iff _ casedAhead_iff

/-- A sigma ends a word between what stands before and behind it. -/
def EndsCasedWord (before behind : List Char) : Prop :=
  MeetsCased before.reverse ∧ ¬ MeetsCased behind

instance (before behind : List Char) : Decidable (EndsCasedWord before behind) :=
  inferInstanceAs (Decidable (_ ∧ _))

/-- What a character becomes between what stands before and behind it. -/
def loweredBetween (before : List Char) (c : Char) (behind : List Char) : List Char :=
  if c = 'Σ' then [if EndsCasedWord before behind then 'ς' else 'σ'] else lowerChar c

/-- A text whose characters are lowered where they stand. -/
def loweredInPlace (s : List Char) : List Char :=
  s.zipIdx.flatMap fun p => loweredBetween (s.take p.2) p.1 (s.drop (p.2 + 1))

/-- Lowering a text from a position on lowers each of its characters where it stands. -/
theorem lowerAfter_eq (before s : List Char) :
    lowerAfter (casedAhead before.reverse) s =
      (s.zipIdx before.length).flatMap fun p =>
        loweredBetween ((before ++ s).take p.2) p.1 ((before ++ s).drop (p.2 + 1)) := by
  induction s generalizing before with
  | nil => rfl
  | cons c rest ih =>
    have hnext : (if isCaseIgnorable c then casedAhead before.reverse else isCased c) =
        casedAhead (before ++ [c]).reverse := by
      rw [List.reverse_append, List.reverse_singleton, List.singleton_append, casedAhead]
    have hhere : (if c = 'Σ' then
          [if casedAhead before.reverse && !casedAhead rest then 'ς' else 'σ'] else lowerChar c) =
        loweredBetween before c rest := by
      unfold loweredBetween EndsCasedWord
      simp only [← casedAhead_iff, Bool.and_eq_true, Bool.not_eq_true', Bool.not_eq_true]
    have hrest := ih (before ++ [c])
    rw [List.length_append, List.length_singleton, List.append_assoc,
      List.singleton_append] at hrest
    rw [lowerAfter, hhere, hnext, hrest, List.zipIdx_cons, List.flatMap_cons]
    simp

/-- The lower case of a text depends at each place on what stands around it. -/
theorem toList_lower (s : String) : (lower s).toList = loweredInPlace s.toList := by
  have h := lowerAfter_eq [] s.toList
  rw [lower, String.toList_ofList]
  simpa [casedAhead, loweredInPlace] using h

/-! ## Spaces -/

/-- A blank is no letter with case, is not passed over in the search for one, and is its own lower
case. -/
theorem space_closes :
    isCaseIgnorable ' ' = false ∧ isCased ' ' = false ∧ lowerChar ' ' = [' '] := by
  decide +kernel

/-- Nothing is found beyond a space. -/
theorem casedAhead_append_space (s rest : List Char) :
    casedAhead (s ++ ' ' :: rest) = casedAhead s := by
  induction s with
  | nil => simp [casedAhead, space_closes]
  | cons c s ih => rw [List.cons_append, casedAhead, casedAhead, ih]

/-- A text is lowered up to a space and from there on. -/
theorem lowerAfter_append_space (casedBefore : Bool) (s rest : List Char) :
    lowerAfter casedBefore (s ++ ' ' :: rest) =
      lowerAfter casedBefore s ++ ' ' :: lowerAfter false rest := by
  induction s generalizing casedBefore with
  | nil => simp [lowerAfter, space_closes]
  | cons c s ih =>
    rw [List.cons_append, lowerAfter, lowerAfter, casedAhead_append_space, ih, List.append_assoc]

/-- On either side of a blank the lower case is formed on its own. -/
theorem lower_append_space (s rest : String) :
    lower (s ++ " " ++ rest) = lower s ++ " " ++ lower rest := by
  have htext : (s ++ " " ++ rest).toList = s.toList ++ ' ' :: rest.toList := by simp
  apply String.toList_inj.mp
  rw [lower, htext, lowerAfter_append_space]
  simp [lower]

/-- Words joined by spaces are lowered one by one. -/
theorem lower_intercalate (words : List String) :
    lower (" ".intercalate words) = " ".intercalate (words.map lower) := by
  induction words with
  | nil => rfl
  | cons w rest ih =>
    cases rest with
    | nil => simp
    | cons next rest =>
      rw [String.intercalate_cons_cons, lower_append_space, ih, List.map_cons, List.map_cons,
        List.map_cons, String.intercalate_cons_cons]

end Text

/-- Behind the first of joined texts every text follows a separator. -/
theorem intercalate_cons_eq_join (sep w : String) (rest : List String) :
    sep.intercalate (w :: rest) = w ++ String.join (rest.map (sep ++ ·)) := by
  induction rest generalizing w with
  | nil => simp
  | cons next rest ih =>
    rw [String.intercalate_cons_cons, ih, List.map_cons, String.join_cons, String.append_assoc,
      String.append_assoc]

/-- Joined texts are cut at any one of them. -/
theorem intercalate_append_cons (sep : String) (before : List String) (w : String)
    (behind : List String) :
    sep.intercalate (before ++ w :: behind) =
      String.join (before.map (· ++ sep)) ++ w ++ String.join (behind.map (sep ++ ·)) := by
  induction before with
  | nil => simp [intercalate_cons_eq_join]
  | cons first before ih =>
    have hrest : before ++ w :: behind ≠ [] := by simp
    rw [List.cons_append, String.intercalate_cons_of_ne_nil hrest, ih, List.map_cons,
      String.join_cons]
    simp only [String.append_assoc]

/-- Every keyword is lowered on its own, whatever stands in front of it and behind it, and in a text
that is lowered every character becomes what it becomes where it stands. -/
theorem keywords_are_lowered_one_by_one :
    (∀ words : List String,
      likeParameter words = "%" ++ " ".intercalate (words.map Text.lower) ++ "%") ∧
    (∀ (before : List String) (w : String) (behind : List String),
      likeParameter (before ++ w :: behind) =
        "%" ++ String.join (before.map fun v => Text.lower v ++ " ") ++ Text.lower w ++
          String.join (behind.map fun v => " " ++ Text.lower v) ++ "%") ∧
    ∀ s : String, (Text.lower s).toList = Text.loweredInPlace s.toList := by
  refine ⟨?_, ?_, Text.toList_lower⟩
  · intro words
    rw [likeParameter, Text.lower_intercalate]
  · intro before w behind
    rw [likeParameter, Text.lower_intercalate, List.map_append, List.map_cons,
      intercalate_append_cons, List.map_map, List.map_map]
    simp only [String.append_assoc]
    rfl

/-- A sigma ends each of two words, and is final in the first one although letters follow. -/
example : likeParameter ["ΟΔΟΣ", "ΣΟΦΟΣ"] = "%οδος σοφος%" := by
  decide +kernel

end ScopeSearch
