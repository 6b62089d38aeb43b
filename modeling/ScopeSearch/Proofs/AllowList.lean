import ScopeSearch.Proofs.Candidate
import ScopeSearch.Proofs.Classification
import ScopeSearch.Proofs.List

/-!
# What an entry of an allow-list grants

An entry that lists a scope verbatim is compared with what was typed for the scope.  Two tokens with
the same text typed for them are read alike as long as both begin with the introducing word or
neither does: behind the introducing word the text is all that is read, and in front of a colon
stands a word, which ends at the first colon.  Across the two notations the readings always differ.
A call behind the introducing word has an argument without a colon or a parenthesis, and whatever
stands there without a call has no argument at all.
-/

set_option autoImplicit false

namespace ScopeSearch

namespace Directive

/-- A token is written with the introducing word in front of its colon. -/
def isIntroduced (token : String) : Bool :=
  (splitAtColon [] token.toList).any fun parts =>
    Text.lower (String.ofList parts.1) = scopeWord

/-- A candidate is introduced when the word in front of its colon is the introducing one. -/
theorem isIntroduced_iff {token : String} {left right : List Char}
    (h : splitAtColon [] token.toList = some (left, right)) :
    isIntroduced token = true ↔ Text.lower (String.ofList left) = scopeWord := by
  unfold isIntroduced
  rw [h]
  simp

/-- Behind the introducing word, what was typed decides the name and the argument. -/
theorem IsMadeOf.eq_of_introduced {left right left' right' : String} {d d' : Directive}
    (h : IsMadeOf left right d) (h' : IsMadeOf left' right' d')
    (hleft : Text.lower left = scopeWord) (hleft' : Text.lower left' = scopeWord)
    (hinput : d.userInput = d'.userInput) : d = d' := by
  cases h with
  | call name argument _ hcall =>
    cases h' with
    | call name' argument' _ hcall' =>
      dsimp only at hinput
      subst hinput
      rw [hcall, Option.some.injEq, Prod.mk.injEq] at hcall'
      obtain ⟨rfl, rfl⟩ := hcall'
      rfl
    | bare _ hcall' =>
      dsimp only at hinput
      rw [← hinput, hcall] at hcall'
      cases hcall'
    | wildcard hother => exact absurd hleft' hother
  | bare _ hcall =>
    cases h' with
    | call name' argument' _ hcall' =>
      dsimp only at hinput
      rw [← hinput, hcall] at hcall'
      cases hcall'
    | bare _ hcall' =>
      dsimp only at hinput
      rw [hinput]
    | wildcard hother => exact absurd hleft' hother
  | wildcard hother => exact absurd hleft hother

/-- In front of a colon, what was typed decides the name and the argument. -/
theorem IsMadeOf.eq_of_not_introduced {left right left' right' : List Char} {d d' : Directive}
    (hname : IsAsciiName left) (hname' : IsAsciiName left')
    (h : IsMadeOf (String.ofList left) (String.ofList right) d)
    (h' : IsMadeOf (String.ofList left') (String.ofList right') d')
    (hleft : Text.lower (String.ofList left) ≠ scopeWord)
    (hleft' : Text.lower (String.ofList left') ≠ scopeWord)
    (hinput : d.userInput = d'.userInput) : d = d' := by
  cases h with
  | call name argument hscope _ => exact absurd hscope hleft
  | bare hscope _ => exact absurd hscope hleft
  | wildcard _ =>
    cases h' with
    | call name' argument' hscope _ => exact absurd hscope hleft'
    | bare hscope _ => exact absurd hscope hleft'
    | wildcard _ =>
      have hcolon : Text.isAsciiWord ':' = false := by decide
      have htext : left ++ ':' :: right = left' ++ ':' :: right' := by
        simpa [Directive.wildcard] using congrArg String.toList hinput
      obtain ⟨rfl, rfl⟩ :=
        eq_of_append_cons_eq (hname.not_mem hcolon) (hname'.not_mem hcolon) htext
      rfl

/-- The two notations never give one name and one argument for one text. -/
theorem IsMadeOf.ne_of_introduced {left right left' right' : String} {d d' : Directive}
    (hname' : IsAsciiName left'.toList) (h : IsMadeOf left right d) (h' : IsMadeOf left' right' d')
    (hleft : Text.lower left = scopeWord) (hleft' : Text.lower left' ≠ scopeWord)
    (hinput : d.userInput = d'.userInput) : ¬ (d.name = d'.name ∧ d.argument = d'.argument) := by
  cases h' with
  | call name' argument' hscope _ => exact absurd hscope hleft'
  | bare hscope _ => exact absurd hscope hleft'
  | wildcard _ =>
    cases h with
    | call name argument _ hcall =>
      rintro ⟨-, hargument⟩
      obtain ⟨-, hword, hinside⟩ := findCall_spec (by simp) hcall
      have hopen : Text.isAsciiWord '(' = false := by decide
      -- The parenthesis of the call has no place: neither word holds it, and it is no colon.
      have hmem : '(' ∈ (Directive.wildcard left' right').toList := by
        have htext : right = Directive.wildcard left' right' := hinput
        rw [← htext]
        exact hinside.subset (by simp)
      have hright : right'.toList = argument := by
        have := congrArg (Option.map String.toList) hargument
        simpa using this.symm
      simp only [Directive.wildcard, String.toList_append, List.mem_append, hright] at hmem
      rcases hmem with (hmem | hmem) | hmem
      · exact hname'.not_mem hopen hmem
      · simp at hmem
      · exact hword.not_mem hopen hmem
    | bare _ _ =>
      rintro ⟨-, hargument⟩
      cases hargument
    | wildcard hother => exact absurd hleft hother

end Directive

variable {policy : ScopePolicy} {responds : String → Bool}

/-- Two applied directives with the same text typed for them, and so with the same verbatim entry,
name one scope with one argument exactly when both tokens begin with the introducing word or neither
does. -/
theorem same_invocation_iff_same_introduction {token token' : String} {d d' : Directive}
    (h : Reading.ofToken policy responds token = .accepted d)
    (h' : Reading.ofToken policy responds token' = .accepted d')
    (hinput : d.userInput = d'.userInput) :
    (d.name = d'.name ∧ d.argument = d'.argument) ↔
      Directive.isIntroduced token = Directive.isIntroduced token' := by
  obtain ⟨left, right, hsplit, hname, -, hmade⟩ :=
    Directive.candidate?_spec (ofToken_eq_accepted_iff.mp h).1
  obtain ⟨left', right', hsplit', hname', -, hmade'⟩ :=
    Directive.candidate?_spec (ofToken_eq_accepted_iff.mp h').1
  rw [Bool.eq_iff_iff, Directive.isIntroduced_iff hsplit, Directive.isIntroduced_iff hsplit']
  by_cases hleft : Text.lower (String.ofList left) = scopeWord
  · by_cases hleft' : Text.lower (String.ofList left') = scopeWord
    · have hsame := hmade.eq_of_introduced hmade' hleft hleft' hinput
      simp [hsame, hleft, hleft']
    · have hdiffer := hmade.ne_of_introduced (by simpa using hname') hmade' hleft hleft' hinput
      simp [hdiffer, hleft, hleft']
  · by_cases hleft' : Text.lower (String.ofList left') = scopeWord
    · have hdiffer := hmade'.ne_of_introduced (by simpa using hname) hmade hleft' hleft hinput.symm
      have hdiffer' : ¬ (d.name = d'.name ∧ d.argument = d'.argument) := fun hsame =>
        hdiffer ⟨hsame.1.symm, hsame.2.symm⟩
      simp [hdiffer', hleft, hleft']
    · have hsame := hmade.eq_of_not_introduced hname hname' hmade' hleft hleft' hinput
      simp [hsame, hleft, hleft']

/-- Two tokens around one call that is listed are both introduced, since they are read alike. -/
theorem introductions_of_listed_call :
    let policy : ScopePolicy := { mode := .allowList, entries := ["a.kind(3)"] }
    let d : Directive := { userInput := "a.kind(3)", name := "kind", argument := some "3" }
    Reading.ofToken policy (· == "kind") "scope:a.kind(3)" = .accepted d ∧
      Reading.ofToken policy (· == "kind") "x-SCOPE:a.kind(3)" = .accepted d ∧
      Directive.isIntroduced "scope:a.kind(3)" = Directive.isIntroduced "x-SCOPE:a.kind(3)" := by
  intro policy d
  have h : Reading.ofToken policy (· == "kind") "scope:a.kind(3)" = .accepted d := by
    decide +kernel
  have h' : Reading.ofToken policy (· == "kind") "x-SCOPE:a.kind(3)" = .accepted d := by
    decide +kernel
  exact ⟨h, h', (same_invocation_iff_same_introduction h h' rfl).mp ⟨rfl, rfl⟩⟩

/-- One verbatim entry without a wildcard lets in two different scopes: the first with an argument
in front of which its name is typed, the second in a call behind the introducing word. -/
theorem verbatim_entry_grants_two_scopes :
    let policy : ScopePolicy := { mode := .allowList, entries := ["kind:vip(3)"] }
    let responds : String → Bool := fun name => name == "kind" || name == "vip"
    let d : Directive :=
      { userInput := "kind:vip(3)", name := "kind", argument := some "vip(3)" }
    let d' : Directive := { userInput := "kind:vip(3)", name := "vip", argument := some "3" }
    Reading.ofToken policy responds "kind:vip(3)" = .accepted d ∧
      Reading.ofToken policy responds "scope:kind:vip(3)" = .accepted d' ∧
      d.userInput = d'.userInput ∧ isWildcarded d.name policy.entries = false ∧
      isWildcarded d'.name policy.entries = false ∧
      ¬ (d.name = d'.name ∧ d.argument = d'.argument) := by
  decide +kernel

end ScopeSearch
