import ScopeSearch.Proofs.Token
import ScopeSearch.SearchResult

/-!
# Classification at token boundaries

Without a bound every token is read on its own, wherever it stands.  So a term that is cut at blanks
is classified part by part, and the tokens that stayed words stay words when they are searched for
again.  A bound on positions cuts the term once more: the tokens in front of it are read as if there
were none, and those behind it are kept as they were typed.

* `classify_of_isUnbounded` and `classify_of_bound` say which tokens are read in the two cases.
* `ofToken_of_word?` is the step from a token to the word that it stays, `map_ofToken_words` goes
  from there to all words of a term.
-/

set_option autoImplicit false

namespace ScopeSearch

/-- A bound on positions that bounds nothing: none at all, or zero. -/
def IsUnbounded (bound : Option Int) : Prop :=
  bound = none ∨ bound = some 0

/-- Two classifications one behind the other, component by component. -/
instance : Append Classification where
  append c c' :=
    { words := c.words ++ c'.words
      directives := c.directives ++ c'.directives
      asked := c.asked ++ c'.asked
      events := c.events ++ c'.events }

/-- A classification with more words behind its own. -/
def Classification.followedBy (c : Classification) (words : List String) : Classification :=
  { c with words := c.words ++ words }

/-! ## Putting readings together -/

/-- Two functions before and from a place on are mapped over what the place cuts the list into. -/
theorem mapIdx_ite {α β : Type} (f g : α → β) (m : Nat) (xs : List α) :
    (xs.mapIdx fun i x => if i < m then f x else g x) =
      (xs.take m).map f ++ (xs.drop m).map g := by
  induction xs generalizing m with
  | nil => simp
  | cons x rest ih =>
    cases m with
    | zero => simpa using ih 0
    | succ m => simp [List.mapIdx_cons, ih m]

/-- The classification of readings one behind the other joins their classifications. -/
theorem ofReadings_append (rs rs' : List Reading) :
    Classification.ofReadings (rs ++ rs') =
      Classification.ofReadings rs ++ Classification.ofReadings rs' := by
  simp only [Classification.ofReadings, List.filterMap_append]
  rfl

/-- Words behind other readings are left behind their words. -/
theorem ofReadings_append_words (rs : List Reading) (words : List String) :
    Classification.ofReadings (rs ++ words.map .word) =
      (Classification.ofReadings rs).followedBy words := by
  simp [Classification.ofReadings, Classification.followedBy, List.filterMap_append,
    List.filterMap_map, Function.comp_def, Reading.word?, Reading.directive?, Reading.asked?,
    Reading.event?]

section Readings

variable {policy : ScopePolicy} {responds : String → Bool}

/-- Without a bound every token is read. -/
theorem classify_of_isUnbounded {bound : Option Int} (hbound : IsUnbounded bound)
    (term : Option String) :
    classify term policy responds bound =
      .ofReadings ((termTokens term).map (Reading.ofToken policy responds)) := by
  have hwithin : ∀ position, withinBound bound position = true := by
    intro position
    rcases hbound with rfl | rfl <;> rfl
  unfold classify readings
  congr 1
  apply List.ext_getElem?
  intro i
  simp [hwithin]

/-- The tokens in front of a bound are read, and those behind it stay as they are. -/
theorem classify_of_bound {m : Nat} (hm : 1 ≤ m) (term : Option String) :
    classify term policy responds (some m) =
      (Classification.ofReadings (((termTokens term).take m).map
        (Reading.ofToken policy responds))).followedBy ((termTokens term).drop m) := by
  have hwithin : ∀ position, withinBound (some (m : Int)) position = decide (position < m) := by
    intro position
    have hne : m ≠ 0 := by omega
    simp [withinBound, hne]
  rw [← ofReadings_append_words, ← mapIdx_ite]
  unfold classify readings
  simp only [hwithin, decide_eq_true_eq]

end Readings

/-- A term is classified part by part when it is cut at blanks, and a bound other than zero cuts it
into the tokens that are classified and those that stay as they were typed. -/
theorem classification_splits_at_token_boundaries (policy : ScopePolicy)
    (responds : String → Bool) {unbounded : Option Int} (hunbounded : IsUnbounded unbounded) :
    (∀ left gap right : String, gap ≠ "" → Text.isBlankString gap = true →
      classify (some (left ++ gap ++ right)) policy responds unbounded =
        classify (some left) policy responds unbounded ++
          classify (some right) policy responds unbounded) ∧
    ∀ (term : Option String) (m : Nat), 1 ≤ m →
      classify term policy responds (some m) =
          (classify (some (" ".intercalate ((termTokens term).take m))) policy responds
            unbounded).followedBy ((termTokens term).drop m) ∧
        (∀ m' : Nat, m ≤ m' →
          (classify term policy responds (some m)).directives <+:
            (classify term policy responds (some m')).directives) ∧
        ((termTokens term).length ≤ m →
          classify term policy responds (some m) = classify term policy responds unbounded) := by
  constructor
  · intro left gap right hne hgap
    have htokens : termTokens (some (left ++ gap ++ right)) =
        termTokens (some left) ++ termTokens (some right) :=
      split_append_gap_append left right hne hgap
    rw [classify_of_isUnbounded hunbounded, classify_of_isUnbounded hunbounded,
      classify_of_isUnbounded hunbounded, htokens, List.map_append, ofReadings_append]
  · intro term m hm
    refine ⟨?_, ?_, ?_⟩
    · rw [classify_of_bound hm, classify_of_isUnbounded hunbounded, termTokens_take]
    · intro m' hm'
      have hinitial : (termTokens term).take m <+: (termTokens term).take m' :=
        List.take_prefix_take_left hm'
      rw [classify_of_bound hm, classify_of_bound (Nat.le_trans hm hm')]
      exact (hinitial.map _).filterMap _
    · intro hlength
      rw [classify_of_bound hm, classify_of_isUnbounded hunbounded,
        List.take_of_length_le hlength, List.drop_of_length_le hlength]
      simp [Classification.followedBy]

/-- Parts with separators of other scripts between them, and a bound in front of a directive. -/
theorem directive_behind_the_bound_stays_a_word :
    let policy : ScopePolicy := { mode := .allowList, entries := ["active", "kind:*"] }
    let responds : String → Bool := fun name => name == "active" || name == "kind"
    let whole := some ("scope:active Ann" ++ "\u2003\n" ++ "kind:vip kind:gold ")
    IsUnbounded (some 0) ∧ "\u2003\n" ≠ "" ∧ Text.isBlankString "\u2003\n" = true ∧ 1 ≤ 3 ∧ 3 ≤ 4 ∧
      (termTokens whole).length ≤ 4 ∧
      (classify whole policy responds (some 3)).words = ["Ann", "kind:gold"] ∧
      classify whole policy responds (some 0) =
        classify (some "scope:active Ann") policy responds (some 0) ++
          classify (some "kind:vip kind:gold ") policy responds (some 0) ∧
      classify whole policy responds (some 3) =
        (classify (some (" ".intercalate ["scope:active", "Ann", "kind:vip"])) policy responds
          (some 0)).followedBy ["kind:gold"] ∧
      (classify whole policy responds (some 3)).directives <+:
        (classify whole policy responds (some 4)).directives ∧
      classify whole policy responds (some 4) = classify whole policy responds (some 0) := by
  intro policy responds whole
  have hunbounded : IsUnbounded (some 0) := .inr rfl
  have htokens : termTokens whole = ["scope:active", "Ann", "kind:vip", "kind:gold"] := by
    decide +kernel
  have hlength : (termTokens whole).length ≤ 4 := by
    rw [htokens]
    decide
  have hwords : (classify whole policy responds (some 3)).words = ["Ann", "kind:gold"] := by
    decide +kernel
  have hgap : Text.isBlankString "\u2003\n" = true := by decide
  obtain ⟨hparts, hbound⟩ := classification_splits_at_token_boundaries policy responds hunbounded
  have hwhole := hparts "scope:active Ann" "\u2003\n" "kind:vip kind:gold " (by decide) hgap
  obtain ⟨hthree, hinitial, -⟩ := hbound whole 3 (by decide)
  obtain ⟨-, -, hfour⟩ := hbound whole 4 (by decide)
  rw [htokens] at hthree
  exact ⟨hunbounded, by decide, hgap, by decide, by decide, hlength, hwords, hwhole, hthree,
    hinitial 4 (by decide), hfour hlength⟩

/-! ## Searching again for what was left -/

section Again

variable {policy : ScopePolicy} {responds : String → Bool}

/-- The word that a token stays is the token, and then it is no directive. -/
theorem ofToken_of_word? {token word : String}
    (h : (Reading.ofToken policy responds token).word? = some word) : word = token := by
  unfold Reading.ofToken at h
  cases hcandidate : Directive.candidate? token with
  | none => simpa [hcandidate, Reading.word?] using h.symm
  | some d =>
    cases hresponds : responds d.name <;> cases hauthorizes : authorizes policy d <;>
      simp [hcandidate, hresponds, hauthorizes, Reading.word?] at h <;> exact h.symm

/-- Reading the words of a text again gives those readings that left a word. -/
theorem map_ofToken_words (tokens : List String) :
    ((tokens.map (Reading.ofToken policy responds)).filterMap Reading.word?).map
        (Reading.ofToken policy responds) =
      (tokens.map (Reading.ofToken policy responds)).filter fun r => r.word?.isSome := by
  induction tokens with
  | nil => rfl
  | cons token rest ih =>
    rw [List.map_cons, List.filterMap_cons, List.filter_cons]
    cases hword : (Reading.ofToken policy responds token).word? with
    | none => simp only [Option.isSome_none, Bool.false_eq_true, if_false, ih]
    | some word =>
      obtain rfl := ofToken_of_word? hword
      simp only [List.map_cons, Option.isSome_some, if_true, ih]

end Again

/-- The readings that left a word hold the words and the reports of all, and no directives. -/
theorem ofReadings_filter_word (rs : List Reading) :
    Classification.ofReadings (rs.filter fun r => r.word?.isSome) =
      { words := (Classification.ofReadings rs).words
        directives := []
        asked := (rs.filter fun r => r.word?.isSome).filterMap Reading.asked?
        events := (Classification.ofReadings rs).events } := by
  have hwords (r : Reading) : (if r.word?.isSome then r.word? else none) = r.word? := by
    cases r <;> rfl
  have hdirectives (r : Reading) : (if r.word?.isSome then r.directive? else none) = none := by
    cases r <;> rfl
  have hevents (r : Reading) : (if r.word?.isSome then r.event? else none) = r.event? := by
    cases r <;> rfl
  simp [Classification.ofReadings, List.filterMap_filter, hwords, hdirectives, hevents]

/-- Without a bound, the words that are left of a term are the words of their text, which holds no
directives, and the same candidates are reported again. -/
theorem leftover_words_are_left_again (policy : ScopePolicy) (responds : String → Bool)
    {bound bound' : Option Int} (hbound : IsUnbounded bound) (hbound' : IsUnbounded bound')
    (term : Option String) (attributes attributes' : List String) :
    let first := classify term policy responds bound
    let again := some (" ".intercalate first.words)
    (classify again policy responds bound').words = first.words ∧
      (classify again policy responds bound').directives = [] ∧
      (classify again policy responds bound').events = first.events ∧
      (SearchResult.parse again responds policy attributes' bound').keywordText =
        (SearchResult.parse term responds policy attributes bound).keywordText := by
  intro first again
  let rs := (termTokens term).map (Reading.ofToken policy responds)
  have hfirst : first = .ofReadings rs := classify_of_isUnbounded hbound term
  have htokens : termTokens again = first.words := by
    apply split_intercalate
    intro word hword
    rw [hfirst] at hword
    obtain ⟨reading, hreading, hleft⟩ := List.mem_filterMap.mp hword
    obtain ⟨token, htoken, rfl⟩ := List.mem_map.mp hreading
    obtain rfl := ofToken_of_word? hleft
    exact isToken_of_mem_termTokens htoken
  have hagain : classify again policy responds bound' =
      .ofReadings (rs.filter fun r => r.word?.isSome) := by
    rw [classify_of_isUnbounded hbound', htokens, hfirst, ← map_ofToken_words]
    rfl
  rw [ofReadings_filter_word, ← hfirst] at hagain
  have hwords : (classify again policy responds bound').words = first.words := by
    rw [hagain]
  refine ⟨hwords, by rw [hagain], by rw [hagain], ?_⟩
  exact congrArg (" ".intercalate ·) hwords

/-- One token for a scope that is not there and one for a scope that is not allowed. -/
theorem demoted_tokens_are_demoted_again :
    let policy : ScopePolicy := { mode := .allowList, entries := ["active"] }
    let responds : String → Bool := fun name => name == "active" || name == "kind"
    let term := some "Ann\u2003scope:active kind:vip scope:gone "
    let again := some (" ".intercalate ["Ann", "kind:vip", "scope:gone"])
    IsUnbounded none ∧ IsUnbounded (some 0) ∧
      (classify term policy responds none).words = ["Ann", "kind:vip", "scope:gone"] ∧
      (classify again policy responds (some 0)).words = ["Ann", "kind:vip", "scope:gone"] ∧
      (classify again policy responds (some 0)).directives = [] ∧
      (classify again policy responds (some 0)).events =
        [.scopeDemoted "kind" .notAuthorized, .scopeDemoted "gone" .noCapability] ∧
      (SearchResult.parse again responds policy ["name"] (some 0)).keywordText =
        "Ann kind:vip scope:gone" := by
  intro policy responds term again
  have hnone : IsUnbounded none := .inl rfl
  have hzero : IsUnbounded (some 0) := .inr rfl
  have hfirst : (classify term policy responds none).words = ["Ann", "kind:vip", "scope:gone"] := by
    decide +kernel
  have hevents : (classify term policy responds none).events =
      [.scopeDemoted "kind" .notAuthorized, .scopeDemoted "gone" .noCapability] := by
    decide +kernel
  have htext : (SearchResult.parse term responds policy ["name"] none).keywordText =
      "Ann kind:vip scope:gone" := by
    decide +kernel
  have hlaw := leftover_words_are_left_again policy responds hnone hzero term ["name"] ["name"]
  simp only [hfirst, hevents, htext] at hlaw
  exact ⟨hnone, hzero, hfirst, hlaw⟩

end ScopeSearch
