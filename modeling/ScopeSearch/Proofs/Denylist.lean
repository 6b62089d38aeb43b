import ScopeSearch.Proofs.Candidate
import ScopeSearch.Proofs.Classification
import ScopeSearch.Proofs.LowerCase

/-!
# The denylist guards what is invoked

Where no scopes are declared, what was typed for a scope is searched for denied words and for an
exclamation mark at its end, while the scope is invoked by a name and an argument that were taken
out of it.  Both stand in what was typed.  A denied word is spelled without sigmas, so it cannot
appear in the lower case of a part alone.  A name or an argument that ends in an exclamation mark is
no word, and whatever is taken out of a text without being a word is taken from its end.
-/

set_option autoImplicit false

namespace ScopeSearch

/-- The search for a text finds it exactly where it occurs. -/
theorem occursIn_iff {pattern s : List Char} : occursIn pattern s = true ↔ pattern <:+: s := by
  induction s with
  | nil => simp [occursIn]
  | cons c rest ih =>
    rw [occursIn, Bool.or_eq_true, List.isPrefixOf_iff_prefix, ih, List.infix_cons_iff]

/-- A text is banged when an exclamation mark is its last character. -/
theorem isBanged_iff {s : String} : isBanged s = true ↔ s.toList.getLast? = some '!' := by
  unfold isBanged
  exact beq_iff_eq

/-- A text holds a denied word when one occurs in its lower case. -/
theorem holdsDeniedWord_iff {s : String} :
    holdsDeniedWord s = true ↔ ∃ word ∈ deniedWords, word.toList <:+: (Text.lower s).toList := by
  simp only [holdsDeniedWord, List.any_eq_true, occursIn_iff]

/-- Denied words are spelled without sigmas. -/
theorem sigma_not_mem_of_mem_deniedWords {word : String} (h : word ∈ deniedWords) :
    'σ' ∉ word.toList ∧ 'ς' ∉ word.toList := by
  revert word
  decide

/-- A part of a text without denied words has none. -/
theorem holdsDeniedWord_of_infix {part whole : String} (hpart : part.toList <:+: whole.toList)
    (h : holdsDeniedWord part = true) : holdsDeniedWord whole = true := by
  rw [holdsDeniedWord_iff] at h ⊢
  obtain ⟨word, hword, hoccurs⟩ := h
  obtain ⟨hsigma, hfinal⟩ := sigma_not_mem_of_mem_deniedWords hword
  exact ⟨word, hword, Text.infix_lower_of_infix hsigma hfinal hpart hoccurs⟩

/-- A word does not end in an exclamation mark. -/
theorem IsAsciiName.not_isBanged {s : List Char} (h : IsAsciiName s) :
    isBanged (String.ofList s) = false := by
  rw [Bool.eq_false_iff, ne_eq, isBanged_iff, String.toList_ofList]
  intro hlast
  exact h.not_mem (by decide : Text.isAsciiWord '!' = false) (List.mem_of_getLast? hlast)

namespace Directive

/-- Name and argument stand in what was typed. -/
theorem IsMadeOf.infix_userInput {left right : String} {d : Directive} (h : IsMadeOf left right d) :
    d.name.toList <:+: d.userInput.toList ∧
      ∀ a ∈ d.argument, a.toList <:+: d.userInput.toList := by
  cases h with
  | call name argument hleft hcall =>
    obtain ⟨-, -, before, after, hright⟩ := findCall_spec (by simp) hcall
    rw [List.reverse_nil, List.nil_append] at hright
    refine ⟨⟨before, '(' :: (argument ++ [')']) ++ after, ?_⟩, ?_⟩
    · simp [← hright]
    · intro a ha
      cases ha
      exact ⟨before ++ name ++ ['('], [')'] ++ after, by simp [← hright]⟩
  | bare hleft hcall => exact ⟨List.infix_rfl, by simp⟩
  | wildcard hleft =>
    refine ⟨⟨[], ':' :: right.toList, by simp [Directive.wildcard]⟩, ?_⟩
    intro a ha
    cases ha
    exact ⟨left.toList ++ [':'], [], by simp [Directive.wildcard]⟩

/-- A name or an argument that ends in an exclamation mark ends what was typed. -/
theorem IsMadeOf.isBanged_userInput {left right : List Char} {d : Directive}
    (hleft : IsAsciiName left)
    (h : IsMadeOf (String.ofList left) (String.ofList right) d)
    (hbanged : isBanged d.name = true ∨ ∃ a ∈ d.argument, isBanged a = true) :
    isBanged d.userInput = true := by
  cases h with
  | call name argument hscope hcall =>
    obtain ⟨hname, hargument, -⟩ := findCall_spec (by simp) hcall
    rcases hbanged with hbanged | ⟨a, ha, hbanged⟩
    · simp [hname.not_isBanged] at hbanged
    · cases ha
      simp [hargument.not_isBanged] at hbanged
  | bare hscope hcall => simpa using hbanged
  | wildcard hscope =>
    rcases hbanged with hbanged | ⟨a, ha, hbanged⟩
    · simp [hleft.not_isBanged] at hbanged
    · cases ha
      rw [isBanged_iff, String.toList_ofList] at hbanged
      rw [isBanged_iff]
      simp [Directive.wildcard, List.getLast?_append, List.getLast?_cons, hbanged]

end Directive

/-- Where no scopes are declared, no applied directive has a name or an argument that holds a denied
word in any case, or that ends in an exclamation mark. -/
theorem directives_hold_no_denied_word {term : Option String} {policy : ScopePolicy}
    {responds : String → Bool} {bound : Option Int} {d : Directive}
    (hmode : policy.mode = .unrestricted)
    (h : d ∈ (classify term policy responds bound).directives) :
    (∀ word ∈ deniedWords, ¬ word.toList <:+: (Text.lower d.name).toList ∧
      ∀ a ∈ d.argument, ¬ word.toList <:+: (Text.lower a).toList) ∧
    d.name.toList.getLast? ≠ some '!' ∧ ∀ a ∈ d.argument, a.toList.getLast? ≠ some '!' := by
  obtain ⟨token, -, haccepted⟩ := exists_token_of_mem_directives h
  obtain ⟨hcandidate, -, hauthorized⟩ := ofToken_eq_accepted_iff.mp haccepted
  obtain ⟨left, right, -, hleft, -, hmade⟩ := Directive.candidate?_spec hcandidate
  obtain ⟨hname, hargument⟩ := hmade.infix_userInput
  simp only [authorizes, hmode, Bool.and_eq_true, Bool.not_eq_true'] at hauthorized
  obtain ⟨hbanged, hdenied⟩ := hauthorized
  have hpart {part : String} (hinside : part.toList <:+: d.userInput.toList) (word : String)
      (hword : word ∈ deniedWords) : ¬ word.toList <:+: (Text.lower part).toList := by
    intro hoccurs
    have hwhole := holdsDeniedWord_of_infix hinside (holdsDeniedWord_iff.mpr ⟨word, hword, hoccurs⟩)
    rw [hdenied] at hwhole
    cases hwhole
  have hend (hlast : isBanged d.name = true ∨ ∃ a ∈ d.argument, isBanged a = true) : False := by
    have hwhole := hmade.isBanged_userInput hleft hlast
    rw [hbanged] at hwhole
    cases hwhole
  refine ⟨fun word hword => ⟨hpart hname word hword, fun a ha => hpart (hargument a ha) word hword⟩,
    ?_, ?_⟩
  · exact fun hlast => hend (.inl (isBanged_iff.mpr hlast))
  · exact fun a ha hlast => hend (.inr ⟨a, ha, isBanged_iff.mpr hlast⟩)

/-- A call in the middle of a text with capitals and sigmas around it is applied, and the name and
the argument that it is invoked by are clean. -/
theorem call_within_text_holds_no_denied_word :
    let d : Directive :=
      { userInput := "ΑΣ.kind(Gold)!Σ", name := "kind", argument := some "Gold" }
    d ∈ (classify (some "x SCOPE:ΑΣ.kind(Gold)!Σ") .unrestricted (· == "kind") none).directives ∧
      (∀ word ∈ deniedWords, ¬ word.toList <:+: (Text.lower d.name).toList ∧
        ∀ a ∈ d.argument, ¬ word.toList <:+: (Text.lower a).toList) ∧
      d.name.toList.getLast? ≠ some '!' ∧ ∀ a ∈ d.argument, a.toList.getLast? ≠ some '!' := by
  intro d
  have hmem : d ∈ (classify (some "x SCOPE:ΑΣ.kind(Gold)!Σ") .unrestricted (· == "kind")
      none).directives := by
    decide +kernel
  exact ⟨hmem, directives_hold_no_denied_word rfl hmem⟩

end ScopeSearch
