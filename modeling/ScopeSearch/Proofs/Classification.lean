import ScopeSearch.Classification

/-!
# What an accepted directive has passed

A directive of a classified term was the candidate of one of its tokens, its scope was there, and
the policy approved it.
-/

set_option autoImplicit false

namespace ScopeSearch

variable {policy : ScopePolicy} {responds : String → Bool}

/-- A token is read as a directive exactly when its candidate passes both checks. -/
theorem ofToken_eq_accepted_iff {token : String} {d : Directive} :
    Reading.ofToken policy responds token = .accepted d ↔
      Directive.candidate? token = some d ∧ responds d.name = true ∧
        authorizes policy d = true := by
  unfold Reading.ofToken
  cases hcandidate : Directive.candidate? token with
  | none => simp
  | some d' =>
    by_cases hresponds : responds d'.name = true
    · by_cases hauthorizes : authorizes policy d' = true
      · simp only [hresponds, hauthorizes, Bool.not_true, Bool.false_eq_true, if_false,
          Reading.accepted.injEq, Option.some.injEq]
        constructor
        · rintro rfl
          exact ⟨rfl, hresponds, hauthorizes⟩
        · exact fun h => h.1
      · simp only [hresponds, hauthorizes, Bool.not_true, Bool.false_eq_true, if_false,
          Bool.not_false, if_true, reduceCtorEq, false_iff, Option.some.injEq]
        rintro ⟨rfl, -, h⟩
        exact hauthorizes h
    · simp only [hresponds, Bool.not_false, if_true, reduceCtorEq, false_iff, Option.some.injEq]
      rintro ⟨rfl, h, -⟩
      exact hresponds h

/-- Every token is a word or a directive, and none is both. -/
theorem length_ofReadings (rs : List Reading) :
    (Classification.ofReadings rs).words.length + (Classification.ofReadings rs).directives.length =
      rs.length := by
  unfold Classification.ofReadings
  induction rs with
  | nil => rfl
  | cons reading rest ih =>
    cases reading <;>
      simp only [List.filterMap_cons, Reading.word?, Reading.directive?,
        List.length_cons] at ih ⊢ <;>
      omega

/-- Every token of a term becomes a word or a directive. -/
theorem length_classify (term : Option String) (bound : Option Int) :
    (classify term policy responds bound).words.length +
      (classify term policy responds bound).directives.length = (termTokens term).length := by
  rw [classify, length_ofReadings, readings, List.length_mapIdx]

/-- A directive of a term is the reading of one of its tokens. -/
theorem exists_token_of_mem_directives {term : Option String} {bound : Option Int} {d : Directive}
    (h : d ∈ (classify term policy responds bound).directives) :
    ∃ token ∈ termTokens term, Reading.ofToken policy responds token = .accepted d := by
  simp only [classify, Classification.ofReadings, readings, List.mem_filterMap,
    List.mem_mapIdx] at h
  obtain ⟨reading, ⟨position, hposition, hreading⟩, hdirective⟩ := h
  have haccepted : reading = .accepted d := by
    cases reading with
    | word token => simp [Reading.directive?] at hdirective
    | demoted token d' reason => simp [Reading.directive?] at hdirective
    | accepted d' => rw [Option.some.inj hdirective]
  refine ⟨(termTokens term)[position], List.getElem_mem hposition, ?_⟩
  rw [haccepted] at hreading
  split at hreading
  · exact hreading
  · cases hreading

end ScopeSearch
