import Mathlib.Data.List.Infix
import Mathlib.Data.List.TakeWhile
import ScopeSearch.Candidate

/-!
# What the notations of a scope consist of

A candidate is written around a colon: a word stands in front of it and the rest of the line behind
it.  From these two parts a directive is made in one of three ways, and each of them takes the name
and the argument out of what was typed for the scope.
-/

set_option autoImplicit false

namespace ScopeSearch

/-- A word of the ASCII alphabet, of at least one character. -/
structure IsAsciiName (s : List Char) : Prop where
  ne_nil : s ≠ []
  all_word : ∀ c ∈ s, Text.isAsciiWord c = true

namespace IsAsciiName

/-- A word holds no character of another class. -/
theorem not_mem {s : List Char} (h : IsAsciiName s) {c : Char} (hc : Text.isAsciiWord c = false) :
    c ∉ s := by
  intro hmem
  rw [h.all_word c hmem] at hc
  cases hc

/-- The characters read so far of a word make one, in the order they were read in. -/
theorem reverse {s : List Char} (hne : s ≠ []) (hall : ∀ c ∈ s, Text.isAsciiWord c = true) :
    IsAsciiName s.reverse :=
  ⟨by simpa using hne, fun c hc => hall c (List.mem_reverse.mp hc)⟩

end IsAsciiName

/-! ## The colon -/

/-- A text without a line feed goes on unless it is empty. -/
theorem lineContinues_of_line_feed_not_mem {s : List Char} (hne : s ≠ []) (hline : '\n' ∉ s) :
    lineContinues s = true := by
  cases s with
  | nil => exact absurd rfl hne
  | cons c rest =>
    rw [List.mem_cons, not_or] at hline
    simpa [lineContinues] using Ne.symm hline.1

/-- A text without a line feed is a line. -/
theorem takeWhile_of_line_feed_not_mem {s : List Char} (hline : '\n' ∉ s) :
    s.takeWhile (· ≠ '\n') = s := by
  rw [List.takeWhile_eq_self_iff]
  intro c hc
  have hne : c ≠ '\n' := by
    rintro rfl
    exact hline hc
  simpa using hne

/-- A token is split into a word and what is left of the line behind the colon, which is not
empty. -/
theorem splitAtColon_spec {word s left right : List Char}
    (hword : ∀ c ∈ word, Text.isAsciiWord c = true)
    (h : splitAtColon word s = some (left, right)) :
    IsAsciiName left ∧ right ≠ [] ∧ '\n' ∉ right ∧ left ++ ':' :: right <:+: word.reverse ++ s := by
  induction s generalizing word with
  | nil => simp [splitAtColon] at h
  | cons c rest ih =>
    rw [splitAtColon] at h
    split at h
    · next hcolon =>
      obtain ⟨rfl, hne, hcontinues⟩ := hcolon
      simp only [Option.some.injEq, Prod.mk.injEq] at h
      obtain ⟨rfl, rfl⟩ := h
      refine ⟨IsAsciiName.reverse (by simpa using hne) hword, ?_, ?_, ?_⟩
      · cases rest with
        | nil => simp [lineContinues] at hcontinues
        | cons d tail =>
          have hd : d ≠ '\n' := by simpa [lineContinues] using hcontinues
          simp [hd]
      · intro hmem
        simpa using List.mem_takeWhile_imp hmem
      · refine ⟨[], rest.dropWhile (· ≠ '\n'), ?_⟩
        simp
    · split at h
      · next hc =>
        have hword' : ∀ d ∈ c :: word, Text.isAsciiWord d = true := by
          simpa using ⟨hc, hword⟩
        simpa using ih hword' h
      · obtain ⟨hleft, hright, hline, hinside⟩ := ih (by simp) h
        refine ⟨hleft, hright, hline, hinside.trans ?_⟩
        exact ⟨word.reverse ++ [c], [], by simp⟩

/-! ## The call -/

/-- An argument in parentheses is a word. -/
theorem callArgument?_spec {s argument : List Char} (h : callArgument? s = some argument) :
    IsAsciiName argument ∧ argument ++ [')'] <+: s := by
  unfold callArgument? at h
  dsimp only at h
  split at h
  · next hargument =>
    obtain ⟨hne, hclose⟩ := hargument
    simp only [Option.some.injEq] at h
    subst h
    refine ⟨⟨by simpa using hne, fun c hc => List.mem_takeWhile_imp hc⟩, ?_⟩
    cases hrest : s.dropWhile Text.isAsciiWord with
    | nil => simp [hrest] at hclose
    | cons c rest =>
      have hc : c = ')' := by simpa [hrest] using hclose
      refine ⟨rest, ?_⟩
      rw [List.append_assoc, List.singleton_append, ← hc, ← hrest]
      exact List.takeWhile_append_dropWhile
  · cases h

/-- A call is a word that is followed by a word in parentheses. -/
theorem findCall_spec {word s name argument : List Char}
    (hword : ∀ c ∈ word, Text.isAsciiWord c = true)
    (h : findCall word s = some (name, argument)) :
    IsAsciiName name ∧ IsAsciiName argument ∧
      name ++ '(' :: (argument ++ [')']) <:+: word.reverse ++ s := by
  induction s generalizing word with
  | nil => simp [findCall] at h
  | cons c rest ih =>
    have hskip (hrest : findCall [] rest = some (name, argument)) :
        IsAsciiName name ∧ IsAsciiName argument ∧
          name ++ '(' :: (argument ++ [')']) <:+: word.reverse ++ c :: rest := by
      obtain ⟨hname, hargument, hinside⟩ := ih (by simp) hrest
      refine ⟨hname, hargument, hinside.trans ?_⟩
      exact ⟨word.reverse ++ [c], [], by simp⟩
    rw [findCall] at h
    split at h
    · next hopen =>
      obtain ⟨rfl, hne⟩ := hopen
      split at h
      · next a ha =>
        simp only [Option.some.injEq, Prod.mk.injEq] at h
        obtain ⟨rfl, rfl⟩ := h
        obtain ⟨hargument, tail, htail⟩ := callArgument?_spec ha
        refine ⟨IsAsciiName.reverse (by simpa using hne) hword, hargument, ?_⟩
        exact ⟨[], tail, by simp [← htail]⟩
      · exact hskip h
    · split at h
      · next hc =>
        have hword' : ∀ d ∈ c :: word, Text.isAsciiWord d = true := by
          simpa using ⟨hc, hword⟩
        simpa using ih hword' h
      · exact hskip h

/-! ## The three notations -/

namespace Directive

/-- How a directive is made of the two parts around a colon. -/
inductive IsMadeOf (left right : String) : Directive → Prop where
  /-- Behind the introducing word stands a call somewhere. -/
  | call (name argument : List Char) (hleft : Text.lower left = scopeWord)
      (hcall : findCall [] right.toList = some (name, argument)) :
      IsMadeOf left right
        { userInput := right, name := String.ofList name
          argument := some (String.ofList argument) }
  /-- Behind the introducing word stands no call. -/
  | bare (hleft : Text.lower left = scopeWord) (hcall : findCall [] right.toList = none) :
      IsMadeOf left right { userInput := right, name := right }
  /-- In front of the colon stands another word. -/
  | wildcard (hleft : Text.lower left ≠ scopeWord) :
      IsMadeOf left right
        { userInput := Directive.wildcard left right, name := left, argument := some right }

/-- Every directive is made in one of the three ways. -/
theorem ofParts_isMadeOf (left right : String) : IsMadeOf left right (ofParts left right) := by
  unfold ofParts
  by_cases hleft : Text.lower left = scopeWord
  · rw [if_pos hleft]
    cases hcall : findCall [] right.toList with
    | none => exact .bare hleft hcall
    | some call => exact .call call.1 call.2 hleft hcall
  · rw [if_neg hleft]
    exact .wildcard hleft

/-- A candidate is made of a word and of the rest of its line. -/
theorem candidate?_spec {token : String} {d : Directive} (h : candidate? token = some d) :
    ∃ left right, splitAtColon [] token.toList = some (left, right) ∧ IsAsciiName left ∧
      right ≠ [] ∧ IsMadeOf (String.ofList left) (String.ofList right) d := by
  obtain ⟨⟨left, right⟩, hsplit, rfl⟩ := Option.map_eq_some_iff.mp h
  obtain ⟨hleft, hright, -, -⟩ := splitAtColon_spec (by simp) hsplit
  exact ⟨left, right, hsplit, hleft, hright, ofParts_isMadeOf _ _⟩

end Directive

end ScopeSearch
