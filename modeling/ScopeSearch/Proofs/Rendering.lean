import ScopeSearch.Proofs.AllowList
import ScopeSearch.Proofs.DeclaredScope

/-!
# A rendered directive is read back

A directive does not keep the notation that it was found in.  Its rendering compares what was typed
with the wildcard notation instead, and that comparison tells the notations apart: a call is found
behind the introducing word in a text with a parenthesis, and neither its name nor its argument, nor
the colon between them, is one.  So a directive in front of a colon is rendered as it was typed, and
any other directive is rendered as the call or the name that it is, to be typed behind the
introducing word again.  Read once more, the rendered text gives the same scope with the same
argument, and nothing is left of what stood around it in the token.
-/

set_option autoImplicit false

namespace ScopeSearch

namespace Directive

/-- The token in which a rendered directive is typed: the rendered text itself if an argument was
typed behind a colon, and else the text behind the introducing word. -/
def retyped (d : Directive) : String :=
  if d.argument.any fun argument => d.userInput = wildcard d.name argument then d.render
  else scopeWord ++ ":" ++ d.render

/-! ## The two notations of an argument -/

/-- A call and a wildcard are different texts. -/
theorem call_ne_wildcard (name argument : String) :
    call name argument ≠ wildcard name argument := by
  intro h
  have htext := congrArg String.toList h
  simp [call, wildcard] at htext

/-- A text with a call in it is not the wildcard of that call. -/
theorem ne_wildcard_of_findCall {right : String} {name argument : List Char}
    (hcall : findCall [] right.toList = some (name, argument)) :
    right ≠ wildcard (String.ofList name) (String.ofList argument) := by
  obtain ⟨hname, hargument, hinside⟩ := findCall_spec (by simp) hcall
  have hopen : '(' ∈ right.toList := hinside.subset (by simp)
  intro heq
  rw [heq] at hopen
  simp only [wildcard, String.toList_append, String.toList_ofList, List.mem_append] at hopen
  rcases hopen with (hmem | hmem) | hmem
  · exact hname.not_mem not_isAsciiWord_open hmem
  · simp at hmem
  · exact hargument.not_mem not_isAsciiWord_open hmem

/-- Rendering keeps the notation, so it keeps what is rendered. -/
theorem render_render (d : Directive) : { d with userInput := d.render }.render = d.render := by
  obtain ⟨input, name, argument⟩ := d
  cases argument with
  | none => rfl
  | some argument =>
    by_cases hinput : input = wildcard name argument
    · simp [render, hinput]
    · simp [render, hinput, call_ne_wildcard]

/-! ## The three ways a directive is made -/

/-- A wildcard typed again is the candidate of its name and its argument. -/
theorem candidate?_retyped_wildcard {left right : String} (hname : IsAsciiName left.toList)
    (hne : right.toList ≠ []) (hline : '\n' ∉ right.toList) (hleft : Text.lower left ≠ scopeWord) :
    candidate? (wildcard left right) =
      some { userInput := wildcard left right, name := left, argument := some right } := by
  have hread := candidate?_append_line hname hne hline
  rw [ofParts, if_neg hleft] at hread
  exact hread

/-- A call typed again behind the word that introduces a scope is a candidate with its name and
argument. -/
theorem candidate?_retyped_call {name argument : List Char} (hname : IsAsciiName name)
    (hargument : IsAsciiName argument) :
    candidate? (scopeWord ++ ":" ++ call (String.ofList name) (String.ofList argument)) =
      some { userInput := call (String.ofList name) (String.ofList argument)
             name := String.ofList name, argument := some (String.ofList argument) } := by
  have hfeed : Text.isAsciiWord '\n' = false := by decide
  have hline : '\n' ∉ (call (String.ofList name) (String.ofList argument)).toList := by
    simp [call, hname.not_mem hfeed, hargument.not_mem hfeed]
  rw [candidate?_append_line isAsciiName_scopeWord (by simp [call]) hline,
    ofParts_call lower_scopeWord (by simpa using hname) (by simpa using hargument)]

/-- A name typed again behind the word that introduces a scope is a candidate without an argument.
-/
theorem candidate?_retyped_bare {right : String} (hne : right.toList ≠ [])
    (hline : '\n' ∉ right.toList) (hcall : findCall [] right.toList = none) :
    candidate? (scopeWord ++ ":" ++ right) = some { userInput := right, name := right } := by
  rw [candidate?_append_line isAsciiName_scopeWord hne hline, ofParts, if_pos lower_scopeWord,
    hcall]

/-- A directive that is typed again is a candidate with the text it renders as. -/
theorem IsMadeOf.candidate?_retyped {left right : List Char} {d : Directive}
    (h : IsMadeOf (String.ofList left) (String.ofList right) d) (hname : IsAsciiName left)
    (hne : right ≠ []) (hline : '\n' ∉ right) :
    candidate? d.retyped = some { d with userInput := d.render } := by
  cases h with
  | call name argument hleft hcall =>
    obtain ⟨hcallName, hargument, -⟩ := findCall_spec (by simp) hcall
    have hother := ne_wildcard_of_findCall hcall
    simp only [retyped, render, Option.any_some, hother, decide_false, Bool.false_eq_true, if_false]
    exact candidate?_retyped_call hcallName hargument
  | bare hleft hcall =>
    simp only [retyped, render, Option.any_none, Bool.false_eq_true, if_false]
    exact candidate?_retyped_bare (by simpa using hne) (by simpa using hline) hcall
  | wildcard hleft =>
    simp only [retyped, render, Option.any_some, decide_true, if_true]
    exact candidate?_retyped_wildcard (by simpa using hname) (by simpa using hne)
      (by simpa using hline) hleft

/-- A directive with an argument renders as a call where it was introduced by the word for a scope,
and as a wildcard elsewhere. -/
theorem IsMadeOf.render_eq {left right argument : String} {d : Directive}
    (h : IsMadeOf left right d) (hargument : d.argument = some argument) :
    d.render =
      if Text.lower left = scopeWord then Directive.call d.name argument
      else Directive.wildcard d.name argument := by
  cases h with
  | call name inside hleft hcall =>
    cases hargument
    have hother := ne_wildcard_of_findCall hcall
    simp [render, hleft, hother]
  | bare hleft hcall => cases hargument
  | wildcard hleft =>
    cases hargument
    simp [render, hleft]

/-- A rendered directive that is typed again stands for the same scope with the same argument, and
what is typed for it is the rendered text.  A directive behind the introducing word is never
rendered in the wildcard notation, and one in front of a colon never as a call. -/
theorem rendered_directive_is_read_back {token : String} {d : Directive}
    (h : candidate? token = some d) :
    (∃ d', candidate? d.retyped = some d' ∧ d'.name = d.name ∧ d'.argument = d.argument ∧
      d'.userInput = d.render ∧ (d.userInput = d.render → d' = d) ∧ d'.render = d.render) ∧
    ∀ argument, d.argument = some argument →
      (isIntroduced token = true →
        d.render = call d.name argument ∧ d.render ≠ wildcard d.name argument) ∧
      (isIntroduced token = false →
        d.render = wildcard d.name argument ∧ d.render ≠ call d.name argument) := by
  obtain ⟨⟨left, right⟩, hsplit, rfl⟩ := Option.map_eq_some_iff.mp h
  obtain ⟨hname, hne, hline, -⟩ := splitAtColon_spec (by simp) hsplit
  have hmade := ofParts_isMadeOf (String.ofList left) (String.ofList right)
  dsimp only
  generalize ofParts (String.ofList left) (String.ofList right) = d at hmade
  constructor
  · refine ⟨_, hmade.candidate?_retyped hname hne hline, rfl, rfl, rfl, ?_, render_render d⟩
    intro hinput
    rw [← hinput]
  · intro argument hargument
    have hrender := hmade.render_eq hargument
    constructor
    · intro hintroduced
      rw [if_pos ((isIntroduced_iff hsplit).mp hintroduced)] at hrender
      exact ⟨hrender, hrender ▸ call_ne_wildcard d.name argument⟩
    · intro hintroduced
      have hleft : Text.lower (String.ofList left) ≠ scopeWord := by
        rw [ne_eq, ← isIntroduced_iff hsplit, hintroduced]
        exact Bool.false_ne_true
      rw [if_neg hleft] at hrender
      exact ⟨hrender, hrender ▸ (call_ne_wildcard d.name argument).symm⟩

/-- What stands around the call is left out of the rendered text. -/
theorem call_within_token_is_read_back :
    let d : Directive := { userInput := "a.kind(3)!", name := "kind", argument := some "3" }
    candidate? "é-SCOPE:a.kind(3)!" = some d ∧ d.retyped = "scope:kind(3)" ∧
      (∃ d', candidate? d.retyped = some d' ∧ d'.name = "kind" ∧ d'.argument = some "3" ∧
        d'.userInput = d.render ∧ (d.userInput = d.render → d' = d) ∧ d'.render = d.render) ∧
      isIntroduced "é-SCOPE:a.kind(3)!" = true ∧ d.render = "kind(3)" := by
  intro d
  have h : candidate? "é-SCOPE:a.kind(3)!" = some d := by decide +kernel
  have hintroduced : isIntroduced "é-SCOPE:a.kind(3)!" = true := by decide +kernel
  obtain ⟨hread, hwritten⟩ := rendered_directive_is_read_back h
  exact ⟨h, by decide +kernel, hread, hintroduced, ((hwritten "3" rfl).1 hintroduced).1⟩

end Directive

end ScopeSearch
