import ScopeSearch.Proofs.Candidate
import ScopeSearch.Proofs.Character
import ScopeSearch.Proofs.Classification
import ScopeSearch.Proofs.TokenBoundary

/-!
# Every declared scope can be typed

A policy that lists scopes would be of little use if some of its entries could not be reached by
anything that is typed.  The colon that a token is split at is the first one behind a word.  So
behind the introducing word the whole entry is what was typed for the scope, whatever colons,
parentheses or exclamation marks it holds, and behind the name of a wildcard entry the whole rest is
the argument.
A call behind the introducing word is found where it begins, since no parenthesis comes before it.
Such a token holds no blank, hence it is the only token of its term.
-/

set_option autoImplicit false

namespace ScopeSearch

instance (s : List Char) : Decidable (IsAsciiName s) :=
  decidable_of_iff (s ≠ [] ∧ s.all Text.isAsciiWord)
    ⟨fun h => ⟨h.1, by simpa using h.2⟩, fun h => ⟨h.1, by simpa using h.2⟩⟩

/-! ## Terms of one token -/

namespace IsToken

/-- A name in ASCII is a token. -/
theorem of_isAsciiName {s : String} (h : IsAsciiName s.toList) : IsToken s :=
  ⟨h.ne_nil, fun c hc => isBlank_of_isAsciiWord (h.all_word c hc)⟩

/-- Two tokens side by side are one. -/
theorem append {s t : String} (hs : IsToken s) (ht : IsToken t) : IsToken (s ++ t) := by
  constructor
  · rw [String.toList_append]
    exact List.append_ne_nil_of_left_ne_nil hs.ne_nil t.toList
  · rw [String.toList_append, List.forall_mem_append]
    exact ⟨hs.blank_free, ht.blank_free⟩

end IsToken

/-- A term of one token is classified as its token is read. -/
theorem classify_of_isToken {token : String} (h : IsToken token) (policy : ScopePolicy)
    (responds : String → Bool) {bound : Option Int} (hbound : bound = none ∨ bound = some 0) :
    classify (some token) policy responds bound =
      .ofReadings [Reading.ofToken policy responds token] := by
  rw [classify_of_isUnbounded hbound, termTokens_of_isToken h, List.map_singleton]

/-! ## Where a token is split -/

/-- A colon ends a word. -/
theorem not_isAsciiWord_colon : Text.isAsciiWord ':' = false := by
  decide

/-- An opening parenthesis ends a word. -/
theorem not_isAsciiWord_open : Text.isAsciiWord '(' = false := by
  decide

/-- A closing parenthesis ends a word. -/
theorem not_isAsciiWord_close : Text.isAsciiWord ')' = false := by
  decide

/-- The induction is on the part of the word that is still to be read; `word` is what was read of
it. -/
theorem splitAtColon_append {word name rest : List Char}
    (hname : ∀ c ∈ name, Text.isAsciiWord c = true) (hne : word ++ name ≠ [])
    (hrest : lineContinues rest = true) :
    splitAtColon word (name ++ ':' :: rest) =
      some (word.reverse ++ name, rest.takeWhile (· ≠ '\n')) := by
  induction name generalizing word with
  | nil =>
    rw [List.append_nil] at hne
    have hword : (!word.isEmpty) = true := by simpa using hne
    rw [List.nil_append, splitAtColon, if_pos ⟨rfl, hword, hrest⟩, List.append_nil]
  | cons c name ih =>
    obtain ⟨hc, hname⟩ := List.forall_mem_cons.mp hname
    have hcolon : c ≠ ':' := by
      rintro rfl
      rw [not_isAsciiWord_colon] at hc
      cases hc
    have hnext : c :: word ++ name ≠ [] := by simp
    rw [List.cons_append, splitAtColon, if_neg (fun h => hcolon h.1), if_pos hc, ih hname hnext]
    simp

/-- The argument of a call reaches up to its closing parenthesis. -/
theorem callArgument?_append {argument rest : List Char} (h : IsAsciiName argument) :
    callArgument? (argument ++ ')' :: rest) = some argument := by
  have htake : (argument ++ ')' :: rest).takeWhile Text.isAsciiWord = argument := by
    rw [List.takeWhile_append_of_pos h.all_word, List.takeWhile_cons_of_neg
      (by simp [not_isAsciiWord_close]), List.append_nil]
  have hdrop : (argument ++ ')' :: rest).dropWhile Text.isAsciiWord = ')' :: rest := by
    rw [List.dropWhile_append_of_pos h.all_word, List.dropWhile_cons_of_neg
      (by simp [not_isAsciiWord_close])]
  have hne : (!argument.isEmpty) = true := by simpa using h.ne_nil
  simp only [callArgument?, htake, hdrop, hne, List.head?_cons, and_self, if_true]

/-- The first call of a text is found where a name meets an argument in parentheses. -/
theorem findCall_append {word name argument rest : List Char}
    (hname : ∀ c ∈ name, Text.isAsciiWord c = true) (hne : word ++ name ≠ [])
    (hargument : IsAsciiName argument) :
    findCall word (name ++ '(' :: (argument ++ ')' :: rest)) =
      some (word.reverse ++ name, argument) := by
  induction name generalizing word with
  | nil =>
    rw [List.append_nil] at hne
    have hword : (!word.isEmpty) = true := by simpa using hne
    rw [List.nil_append, findCall, if_pos ⟨rfl, hword⟩, callArgument?_append hargument,
      List.append_nil]
  | cons c name ih =>
    obtain ⟨hc, hname⟩ := List.forall_mem_cons.mp hname
    have hopen : c ≠ '(' := by
      rintro rfl
      rw [not_isAsciiWord_open] at hc
      cases hc
    have hnext : c :: word ++ name ≠ [] := by simp
    rw [List.cons_append, findCall, if_neg (fun h => hopen h.1), if_pos hc, ih hname hnext]
    simp

namespace Directive

/-- A name, a colon and the rest of a line are a candidate made of the two parts. -/
theorem candidate?_append_line {name right : String} (hname : IsAsciiName name.toList)
    (hne : right.toList ≠ []) (hline : '\n' ∉ right.toList) :
    candidate? (name ++ ":" ++ right) = some (ofParts name right) := by
  have htext : (name ++ ":" ++ right).toList = name.toList ++ ':' :: right.toList := by simp
  have hsplit : splitAtColon [] (name.toList ++ ':' :: right.toList) =
      some (name.toList, right.toList) := by
    rw [splitAtColon_append hname.all_word (by simpa using hname.ne_nil)
      (lineContinues_of_line_feed_not_mem hne hline), takeWhile_of_line_feed_not_mem hline]
    rfl
  rw [candidate?, htext, hsplit]
  simp

/-- A word, a colon and a token stand for the directive of the two. -/
theorem candidate?_append {name right : String} (hname : IsAsciiName name.toList)
    (hright : IsToken right) : candidate? (name ++ ":" ++ right) = some (ofParts name right) :=
  candidate?_append_line hname hright.ne_nil hright.line_feed_not_mem

/-- The word that introduces a scope is a name. -/
theorem isAsciiName_scopeWord : IsAsciiName scopeWord.toList := by
  decide

/-- The word that introduces a scope is in lower case. -/
theorem lower_scopeWord : Text.lower scopeWord = scopeWord := by
  decide +kernel

/-- Behind the word that introduces a scope stands what the user typed. -/
theorem userInput_ofParts_of_introduced {left : String} (h : Text.lower left = scopeWord)
    (right : String) : (ofParts left right).userInput = right := by
  rw [ofParts, if_pos h]
  split <;> rfl

/-- A call behind the word that introduces a scope is a directive with the name and the argument of
the call. -/
theorem ofParts_call {left name argument : String} (hleft : Text.lower left = scopeWord)
    (hname : IsAsciiName name.toList) (hargument : IsAsciiName argument.toList) :
    ofParts left (call name argument) =
      { userInput := call name argument, name, argument := some argument } := by
  have htext : (call name argument).toList = name.toList ++ '(' :: (argument.toList ++ [')']) := by
    simp [call]
  have hcall : findCall [] (call name argument).toList = some (name.toList, argument.toList) := by
    rw [htext, findCall_append hname.all_word (by simpa using hname.ne_nil) hargument]
    rfl
  rw [ofParts, if_pos hleft, hcall]
  simp

end Directive

/-! ## What is declared is applied -/

/-- A token is classified as one directive with a name and an argument, and nothing else. -/
def IsInvocation (policy : ScopePolicy) (responds : String → Bool) (bound : Option Int)
    (token name argument : String) : Prop :=
  (classify (some token) policy responds bound).words = [] ∧
    ∃ d, (classify (some token) policy responds bound).directives = [d] ∧ d.name = name ∧
      d.argument = some argument

section Declared

variable {policy : ScopePolicy} (responds : String → Bool) {bound : Option Int}
  (hbound : bound = none ∨ bound = some 0)

include hbound

/-- A candidate that the policy approves of is applied exactly when the resource has its scope. -/
theorem classify_of_authorizes {token : String} {d : Directive} (htoken : IsToken token)
    (hcandidate : Directive.candidate? token = some d) (hauthorizes : authorizes policy d = true) :
    ((classify (some token) policy responds bound).directives = [d] ↔ responds d.name = true) ∧
      ((classify (some token) policy responds bound).words = [] ↔ responds d.name = true) := by
  rw [classify_of_isToken htoken policy responds hbound]
  cases hresponds : responds d.name with
  | true =>
    have hread : Reading.ofToken policy responds token = .accepted d := by
      simp [Reading.ofToken, hcandidate, hresponds, hauthorizes]
    rw [hread]
    simp [Classification.ofReadings, Reading.word?, Reading.directive?]
  | false =>
    have hread : Reading.ofToken policy responds token = .demoted token d .noCapability := by
      simp [Reading.ofToken, hcandidate, hresponds]
    have hstays : (Reading.demoted token d .noCapability).directive? = none := rfl
    rw [hread]
    simp [Classification.ofReadings, Reading.word?, List.filterMap_cons, hstays]

/-- A declared name with any argument is invoked by every token that stands for the two. -/
theorem isInvocation_of_wildcard {token : String} {d : Directive} (hmode : policy.mode = .allowList)
    (hentry : wildcardEntry d.name ∈ policy.entries) (hresponds : responds d.name = true)
    (htoken : IsToken token) (hcandidate : Directive.candidate? token = some d) {argument : String}
    (hargument : d.argument = some argument) :
    IsInvocation policy responds bound token d.name argument := by
  have hauthorizes : authorizes policy d = true := by
    simp [authorizes, hmode, isWildcarded, hentry]
  obtain ⟨hdirectives, hwords⟩ :=
    classify_of_authorizes responds hbound htoken hcandidate hauthorizes
  exact ⟨hwords.mpr hresponds, d, hdirectives.mpr hresponds, rfl, hargument⟩

end Declared

/-- Under a policy that lists scopes, every entry without blanks is applied when it is typed behind
the introducing word and the resource has its scope; and a scope that is declared with any argument
is applied with every argument without blanks behind a colon, and with every word in a call. -/
theorem declared_scopes_can_be_typed {policy : ScopePolicy} (hmode : policy.mode = .allowList)
    (responds : String → Bool) {bound : Option Int} (hbound : bound = none ∨ bound = some 0) :
    (∀ entry ∈ policy.entries, IsToken entry →
      ∃ d, Directive.candidate? (scopeWord ++ ":" ++ entry) = some d ∧ d.userInput = entry ∧
        ((classify (some (scopeWord ++ ":" ++ entry)) policy responds bound).directives = [d] ↔
          responds d.name = true)) ∧
    ∀ name, IsAsciiName name.toList → Text.lower name ≠ scopeWord →
      wildcardEntry name ∈ policy.entries → responds name = true →
        (∀ argument, IsToken argument →
          IsInvocation policy responds bound (name ++ ":" ++ argument) name argument) ∧
        ∀ argument, IsAsciiName argument.toList →
          IsInvocation policy responds bound
            (scopeWord ++ ":" ++ name ++ "(" ++ argument ++ ")") name argument := by
  have hscope : IsToken (scopeWord ++ ":") := by decide
  constructor
  · intro entry hmem hentry
    have hcandidate := Directive.candidate?_append Directive.isAsciiName_scopeWord hentry
    have hinput := Directive.userInput_ofParts_of_introduced Directive.lower_scopeWord entry
    have hauthorizes : authorizes policy (Directive.ofParts scopeWord entry) = true := by
      simp [authorizes, hmode, hinput, hmem]
    exact ⟨_, hcandidate, hinput,
      (classify_of_authorizes responds hbound (hscope.append hentry) hcandidate hauthorizes).1⟩
  · intro name hname hother hdeclared hresponds
    constructor
    · intro argument hargument
      have hcandidate := Directive.candidate?_append hname hargument
      rw [Directive.ofParts, if_neg hother] at hcandidate
      have htoken : IsToken (name ++ ":" ++ argument) :=
        ((IsToken.of_isAsciiName hname).append (by decide)).append hargument
      exact isInvocation_of_wildcard responds hbound hmode hdeclared hresponds htoken hcandidate rfl
    · intro argument hargument
      have hcall : IsToken (Directive.call name argument) :=
        (((IsToken.of_isAsciiName hname).append (by decide)).append
          (.of_isAsciiName hargument)).append (by decide)
      have htext : scopeWord ++ ":" ++ name ++ "(" ++ argument ++ ")" =
          scopeWord ++ ":" ++ Directive.call name argument := by
        simp only [Directive.call, String.append_assoc]
      have hcandidate := Directive.candidate?_append Directive.isAsciiName_scopeWord hcall
      rw [Directive.ofParts_call Directive.lower_scopeWord hname hargument] at hcandidate
      rw [htext]
      exact isInvocation_of_wildcard responds hbound hmode hdeclared hresponds (hscope.append hcall)
        hcandidate rfl

/-- An entry with a call inside it, and a declared name with denied words, colons and a call in its
argument. -/
theorem odd_entries_can_be_typed :
    let policy : ScopePolicy := { mode := .allowList, entries := ["x:kind(3)!", "kind:*"] }
    let responds : String → Bool := (· == "kind")
    policy.mode = .allowList ∧ "x:kind(3)!" ∈ policy.entries ∧ IsToken "x:kind(3)!" ∧
      (∃ d, Directive.candidate? (scopeWord ++ ":" ++ "x:kind(3)!") = some d ∧
        d.userInput = "x:kind(3)!" ∧
        ((classify (some (scopeWord ++ ":" ++ "x:kind(3)!")) policy responds none).directives =
          [d] ↔ responds d.name = true)) ∧
      IsAsciiName "kind".toList ∧ Text.lower "kind" ≠ scopeWord ∧
      wildcardEntry "kind" ∈ policy.entries ∧ responds "kind" = true ∧
      IsToken "scope:delete(all)!" ∧ IsAsciiName "vip_3".toList ∧
      IsInvocation policy responds none ("kind" ++ ":" ++ "scope:delete(all)!") "kind"
        "scope:delete(all)!" ∧
      IsInvocation policy responds none (scopeWord ++ ":" ++ "kind" ++ "(" ++ "vip_3" ++ ")") "kind"
        "vip_3" := by
  intro policy responds
  have hmode : policy.mode = .allowList := rfl
  have hlisted : "x:kind(3)!" ∈ policy.entries := by decide
  have hentry : IsToken "x:kind(3)!" := by decide
  have hname : IsAsciiName "kind".toList := by decide
  have hother : Text.lower "kind" ≠ scopeWord := by decide +kernel
  have hdeclared : wildcardEntry "kind" ∈ policy.entries := by decide
  have hargument : IsToken "scope:delete(all)!" := by decide
  have hword : IsAsciiName "vip_3".toList := by decide
  have hbound : (none : Option Int) = none ∨ (none : Option Int) = some 0 := .inl rfl
  have hlaw := declared_scopes_can_be_typed hmode responds hbound
  have hkind := hlaw.2 "kind" hname hother hdeclared rfl
  exact ⟨hmode, hlisted, hentry, hlaw.1 _ hlisted hentry, hname, hother, hdeclared, rfl, hargument,
    hword, hkind.1 _ hargument, hkind.2 _ hword⟩

end ScopeSearch
