import ScopeSearch.Proofs.Declaration
import ScopeSearch.Proofs.FirstOccurrence
import ScopeSearch.Proofs.Partition

/-!
# Wider permissions keep what narrower ones allow

A policy that was made from a declaration approves a directive when what was typed for it, or its
name with a wildcard, is among the declared texts; this holds of the closed policy as well, which
declares none.  So declarations with more texts approve of more directives, and declarations with
the same texts approve of the same ones, whatever their order, repetitions and groups.

A token is read by its position alone.  Under wider permissions every position that was one of a
directive still is, with the same directive, and only such positions give up their words.
-/

set_option autoImplicit false

namespace ScopeSearch

/-! ## Policies -/

/-- A policy of normalized entries approves of what it lists, also when it lists nothing. -/
theorem authorizes_ofEntries_iff {entries : List String} {d : Directive} :
    authorizes (.ofEntries entries) d = true ↔
      d.userInput ∈ entries ∨ wildcardEntry d.name ∈ entries := by
  cases entries with
  | nil => simp [ScopePolicy.ofEntries, authorizes]
  | cons entry rest => simp [ScopePolicy.ofEntries, authorizes, isWildcarded]

/-- The policy of a declaration, and what it approves of. -/
theorem ofDeclaration_spec {raw : Value} (h : raw.IsDeclaration) :
    ∃ policy, ScopePolicy.ofDeclaration raw = .ok policy ∧
      ∀ d, authorizes policy d = true ↔
        d.userInput ∈ raw.declared.map entryText ∨
          wildcardEntry d.name ∈ raw.declared.map entryText := by
  refine ⟨_, ofDeclaration_eq h, ?_⟩
  intro d
  rw [authorizes_ofEntries_iff, mem_firstOccurrences, mem_firstOccurrences]

/-! ## Classifications -/

section Sublist

variable {α β : Type}

/-- What is collected from every element that gives something is collected in the same order when
more elements give something. -/
theorem filterMap_sublist_filterMap {f g : α → Option β} (h : ∀ x y, f x = some y → g x = some y)
    (xs : List α) : (xs.filterMap f).Sublist (xs.filterMap g) := by
  induction xs with
  | nil => exact List.Sublist.refl _
  | cons x rest ih =>
    rw [List.filterMap_cons, List.filterMap_cons]
    cases hf : f x with
    | some y =>
      rw [h x y hf]
      exact ih.cons_cons y
    | none =>
      cases g x with
      | none => exact ih
      | some y => exact ih.cons y

end Sublist

section Positions

variable {policy : ScopePolicy} {responds : String → Bool} {bound : Option Int}

/-- The directives of a term are the candidates at the positions where they are applied. -/
theorem classify_directives_eq (term : Option String) :
    (classify term policy responds bound).directives =
      (List.range (termTokens term).length).filterMap fun i =>
        if isAppliedAt policy responds bound (termTokens term) i then
          candidateAt (termTokens term) i
        else none := by
  have hread := fun i => (contribution_cases policy responds bound (termTokens term) i).2.1
  rw [← funext hread, ← filterMap_mapIdx_eq]
  rfl

/-- The words of a term are the tokens at the other positions. -/
theorem classify_words_eq (term : Option String) :
    (classify term policy responds bound).words =
      (List.range (termTokens term).length).filterMap fun i =>
        if !isAppliedAt policy responds bound (termTokens term) i then (termTokens term)[i]?
        else none := by
  have hread := fun i => (contribution_cases policy responds bound (termTokens term) i).1
  rw [← funext hread, ← filterMap_mapIdx_eq]
  rfl

/-- Only what a policy approves of shows in a classification. -/
theorem classify_congr {policy' : ScopePolicy}
    (h : ∀ d, authorizes policy d = authorizes policy' d) (term : Option String) :
    classify term policy responds bound = classify term policy' responds bound := by
  have hread : Reading.ofToken policy responds = Reading.ofToken policy' responds := by
    funext token
    unfold Reading.ofToken
    cases Directive.candidate? token with
    | none => rfl
    | some d => simp only [h d]
  unfold classify readings
  rw [hread]

end Positions

section Widening

variable {narrow wide : ScopePolicy} {responds responds' : String → Bool} {bound : Option Int}
  (happroved : ∀ d, authorizes narrow d = true → authorizes wide d = true)
  (hresponds : ∀ name, responds name = true → responds' name = true)

include happroved hresponds

/-- A place that applies under narrow permissions applies under wide ones. -/
theorem isAppliedAt_of_narrow {tokens : List String} {i : Nat}
    (h : isAppliedAt narrow responds bound tokens i = true) :
    isAppliedAt wide responds' bound tokens i = true := by
  rw [isAppliedAt_iff] at h ⊢
  obtain ⟨hwithin, d, hcandidate, hhas, hauthorizes⟩ := h
  exact ⟨hwithin, d, hcandidate, hresponds d.name hhas, happroved d hauthorizes⟩

/-- Wider permissions keep the directives and their order. -/
theorem directives_sublist (term : Option String) :
    (classify term narrow responds bound).directives.Sublist
      (classify term wide responds' bound).directives := by
  rw [classify_directives_eq, classify_directives_eq]
  apply filterMap_sublist_filterMap
  intro i d hd
  split at hd
  · next hi => rw [if_pos (isAppliedAt_of_narrow happroved hresponds hi), hd]
  · cases hd

/-- Wider permissions leave no words that narrower ones do not. -/
theorem words_sublist (term : Option String) :
    (classify term wide responds' bound).words.Sublist
      (classify term narrow responds bound).words := by
  rw [classify_words_eq, classify_words_eq]
  apply filterMap_sublist_filterMap
  intro i word hword
  split at hword
  · next hi =>
    have hnarrow : (!isAppliedAt narrow responds bound (termTokens term) i) = true := by
      rw [Bool.not_eq_true'] at hi ⊢
      by_contra happlied
      rw [Bool.not_eq_false] at happlied
      rw [isAppliedAt_of_narrow happroved hresponds happlied] at hi
      cases hi
    rw [if_pos hnarrow, hword]
  · cases hword

end Widening

/-- More declared texts and more scopes keep the directives of a term and their order, and add no
words; declarations of the same texts classify every term alike. -/
theorem widening_keeps_directives (term : Option String) (bound : Option Int) :
    (∀ (entries entries' : List Value) (responds responds' : String → Bool),
      entries.map entryText ⊆ entries'.map entryText →
      (∀ name, responds name = true → responds' name = true) →
        ∃ narrow wide, ScopePolicy.allow entries = .ok narrow ∧
          ScopePolicy.allow entries' = .ok wide ∧
          (classify term narrow responds bound).directives.Sublist
            (classify term wide responds' bound).directives ∧
          (classify term wide responds' bound).words.Sublist
            (classify term narrow responds bound).words) ∧
    ∀ raw raw' : Value, raw.IsDeclaration → raw'.IsDeclaration →
      (∀ text, text ∈ raw.declared.map entryText ↔ text ∈ raw'.declared.map entryText) →
        ∃ policy policy', ScopePolicy.ofDeclaration raw = .ok policy ∧
          ScopePolicy.ofDeclaration raw' = .ok policy' ∧
          ∀ responds, classify term policy responds bound =
            classify term policy' responds bound := by
  constructor
  · intro entries entries' responds responds' hentries hresponds
    have hlist : ∀ items : List Value, (Value.list items).IsDeclaration := fun _ => rfl
    obtain ⟨narrow, hnarrow, happroves⟩ := ofDeclaration_spec (hlist entries)
    obtain ⟨wide, hwide, happroves'⟩ := ofDeclaration_spec (hlist entries')
    have happroved : ∀ d, authorizes narrow d = true → authorizes wide d = true := by
      intro d hd
      rw [happroves] at hd
      rw [happroves']
      exact hd.imp (fun h => hentries h) (fun h => hentries h)
    exact ⟨narrow, wide, hnarrow, hwide, directives_sublist happroved hresponds term,
      words_sublist happroved hresponds term⟩
  · intro raw raw' hraw hraw' htexts
    obtain ⟨policy, hpolicy, happroves⟩ := ofDeclaration_spec hraw
    obtain ⟨policy', hpolicy', happroves'⟩ := ofDeclaration_spec hraw'
    refine ⟨policy, policy', hpolicy, hpolicy', ?_⟩
    intro responds
    apply classify_congr
    intro d
    rw [Bool.eq_iff_iff, happroves, happroves', htexts, htexts]

/-- A wildcard that is added as a member of an enumeration, and the same entries in groups of three
kinds, one of them null. -/
theorem added_wildcard_keeps_listed_scope :
    let entries : List Value := [.text "active"]
    let entries' : List Value := [.member (.text "kind:*"), .text "active", .text "active"]
    let groups : Value := .map [(.text "states", .tuple [.text "active"]), (.text "none", .null),
      (.text "kinds", .set [.textMember "kind:*"])]
    let responds : String → Bool := (· == "active")
    let responds' : String → Bool := fun name => name == "active" || name == "kind"
    let term := some "Ann scope:active kind:vip kind:gold"
    entries.map entryText ⊆ entries'.map entryText ∧
      (∀ name, responds name = true → responds' name = true) ∧
      (Value.list entries').IsDeclaration ∧ groups.IsDeclaration ∧
      (∀ text, text ∈ (Value.list entries').declared.map entryText ↔
        text ∈ groups.declared.map entryText) ∧
      (∃ narrow wide, ScopePolicy.allow entries = .ok narrow ∧
        ScopePolicy.allow entries' = .ok wide ∧
        (classify term narrow responds (some 3)).directives.Sublist
          (classify term wide responds' (some 3)).directives ∧
        (classify term wide responds' (some 3)).words.Sublist
          (classify term narrow responds (some 3)).words) ∧
      ∃ policy policy', ScopePolicy.ofDeclaration (.list entries') = .ok policy ∧
        ScopePolicy.ofDeclaration groups = .ok policy' ∧
        ∀ responds, classify term policy responds (some 3) =
          classify term policy' responds (some 3) := by
  intro entries entries' groups responds responds' term
  have hentries : entries.map entryText ⊆ entries'.map entryText := by decide +kernel
  have hresponds : ∀ name, responds name = true → responds' name = true := by
    intro name hname
    simp only [responds, responds'] at hname ⊢
    rw [hname, Bool.true_or]
  have hlist : (Value.list entries').IsDeclaration := rfl
  have hgroups : groups.IsDeclaration := by
    intro g hg
    revert g
    decide
  have htexts : ∀ text, text ∈ (Value.list entries').declared.map entryText ↔
      text ∈ groups.declared.map entryText := by
    have hgiven :
        (Value.list entries').declared.map entryText = ["kind:*", "active", "active"] := by
      decide +kernel
    have hgrouped : groups.declared.map entryText = ["active", "kind:*"] := by
      decide +kernel
    intro text
    rw [hgiven, hgrouped]
    simp [or_comm]
  obtain ⟨hwider, hsame⟩ := widening_keeps_directives term (some 3)
  exact ⟨hentries, hresponds, hlist, hgroups, htexts,
    hwider entries entries' responds responds' hentries hresponds, hsame _ _ hlist hgroups htexts⟩

end ScopeSearch
