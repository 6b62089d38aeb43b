import ScopeSearch.Proofs.Declaration
import ScopeSearch.Proofs.FirstOccurrence

/-!
# The normal form of a declaration

A declaration of scopes may be written in many ways.  Its policy keeps one of them: the texts of all
declared elements, each where it first stands, and a mode that tells whether there are any.  Whoever
declares these texts again, at once or in groups, gets the same policy.

A declaration that has no policy holds something in the place of entries that elements cannot be
taken from, or a text.  The first such place is the one that is reported.
-/

set_option autoImplicit false

namespace ScopeSearch

namespace Value

/-- A value is a text, written in characters or in octets. -/
def isTextual : Value → Bool
  | text _ => true
  | textMember _ => true
  | bytes _ => true
  | marked _ v => isTextual v
  | _ => false

/-- Something can be taken out of a value piece by piece: characters, octets, elements or keys. -/
def isIterable : Value → Bool
  | text _ => true
  | textMember _ => true
  | bytes _ => true
  | list _ => true
  | tuple _ => true
  | set _ => true
  | stream _ => true
  | map _ => true
  | marked _ v => isIterable v
  | _ => false

/-- A value that cannot stand in the place of entries. -/
def isRefused (v : Value) : Bool :=
  v.isTextual || !v.isIterable

/-- A value that cannot stand in the place of a group. -/
def isRefusedGroup (v : Value) : Bool :=
  !v.isNull && v.isRefused

/-- What is reported of a declaration: of a mapping its first group that is refused, of anything
else the declaration itself if it is refused. -/
def fault? (raw : Value) : Option PolicyError :=
  match raw.map? with
  | some groups => (groups.find? fun g => g.2.isRefusedGroup).map fun g =>
      { group := some g.1, kind := g.2.kind }
  | none => if raw.isRefused then some { group := none, kind := raw.kind } else none

/-- A declaration holds something that is refused. -/
def HoldsRefused (raw : Value) : Prop :=
  match raw.map? with
  | some groups => ∃ g ∈ groups, g.2 ≠ .null ∧ g.2.isRefused = true
  | none => raw.isRefused = true

end Value

/-- A policy is made of given texts: it lists their first occurrences, none of them twice, and its
mode tells whether there are any. -/
structure ScopePolicy.IsNormalFormOf (policy : ScopePolicy) (texts : List String) : Prop where
  entries : AreFirstOccurrences policy.entries texts
  nodup : policy.entries.Nodup
  mode : policy.mode = if policy.entries = [] then .disabled else .allowList

/-- A policy comes back when its entries are declared again: as a list, as a tuple, one by one, or
cut into consecutive groups of a mapping with null groups between them. -/
structure ScopePolicy.IsStable (policy : ScopePolicy) : Prop where
  list : ofDeclaration (.list (policy.entries.map .text)) = .ok policy
  tuple : ofDeclaration (.tuple (policy.entries.map .text)) = .ok policy
  allow : allow (policy.entries.map .text) = .ok policy
  mapping : ∀ groups : List (Value × Value), (∀ g ∈ groups, g.2.IsGroup) →
    (groups.flatMap fun g => g.2.elements?.getD []) = policy.entries.map .text →
      ofDeclaration (.map groups) = .ok policy

/-! ## Accepted declarations -/

/-- The policy of the first occurrences of some texts is their normal form. -/
theorem isNormalFormOf_ofEntries (texts : List String) :
    (ScopePolicy.ofEntries (firstOccurrences texts)).IsNormalFormOf texts := by
  have hfirst := areFirstOccurrences texts
  refine ⟨?_, ?_, ?_⟩
  · rwa [entries_ofEntries]
  · rw [entries_ofEntries]
    exact hfirst.nodup
  · rw [mode_ofEntries, entries_ofEntries]

/-- A declaration of normalized entries has the policy of these entries. -/
theorem ofDeclaration_of_declared (raw : Value) (hraw : raw.IsDeclaration) {texts : List String}
    (h : raw.declared = (firstOccurrences texts).map .text) :
    ScopePolicy.ofDeclaration raw = .ok (.ofEntries (firstOccurrences texts)) := by
  have hwritten : entryText ∘ Value.text = id := rfl
  rw [ofDeclaration_eq hraw, h, List.map_map, hwritten, List.map_id, firstOccurrences_idem]

/-- Declaring the policy of first occurrences again changes nothing. -/
theorem isStable_ofEntries (texts : List String) :
    (ScopePolicy.ofEntries (firstOccurrences texts)).IsStable := by
  have hlist : ScopePolicy.ofDeclaration (.list ((firstOccurrences texts).map .text)) =
      .ok (.ofEntries (firstOccurrences texts)) :=
    ofDeclaration_of_declared (.list _) rfl rfl
  refine ⟨?_, ?_, ?_, ?_⟩
  · rw [entries_ofEntries]
    exact hlist
  · rw [entries_ofEntries]
    exact ofDeclaration_of_declared (.tuple _) rfl rfl
  · rw [entries_ofEntries]
    exact hlist
  · intro groups hgroups hcut
    rw [entries_ofEntries] at hcut
    exact ofDeclaration_of_declared (.map groups) hgroups hcut

/-! ## Rejected declarations -/

/-- What is refused has no elements. -/
theorem isRefused_eq (v : Value) : v.isRefused = v.elements?.isNone := by
  fun_induction Value.elements? v with
  | case1 items => rfl
  | case2 items => rfl
  | case3 items => rfl
  | case4 items => rfl
  | case5 entries => rfl
  | case6 mark v ih => exact ih
  | case7 v hlist htuple hset hstream hmap hmarked =>
    cases v <;> simp_all [Value.isRefused, Value.isTextual, Value.isIterable]

/-- A group is refused exactly if it is a value, other than null, that is refused. -/
theorem isRefusedGroup_iff {v : Value} :
    v.isRefusedGroup = true ↔ v ≠ .null ∧ v.isRefused = true := by
  rw [Value.isRefusedGroup, Bool.and_eq_true, Bool.not_eq_true', isNull_eq_false_iff]

/-- Reading a collection fails exactly if it is refused, and the error names its group and its kind.
-/
theorem sequenceEntries_eq_error_iff {group : Option Value} {raw : Value} {e : PolicyError} :
    sequenceEntries group raw = .error e ↔
      raw.isRefused = true ∧ e = { group, kind := raw.kind } := by
  rw [isRefused_eq, sequenceEntries]
  cases raw.elements? with
  | some items => simp
  | none => simp [eq_comm]

/-- The groups of a mapping are read up to the first one that is refused. -/
theorem groupEntries_eq_error_iff {entries : List (Value × Value)} {e : PolicyError} :
    groupEntries entries = .error e ↔
      ∃ g, (entries.find? fun g => g.2.isRefusedGroup) = some g ∧
        e = { group := some g.1, kind := g.2.kind } := by
  induction entries with
  | nil => simp [groupEntries]
  | cons g rest ih =>
    obtain ⟨group, values⟩ := g
    rw [List.find?_cons]
    by_cases hnull : values = .null
    · subst hnull
      rw [groupEntries, ih]
      rfl
    · rw [groupEntries.eq_3 _ _ _ hnull]
      cases hrefused : values.isRefusedGroup with
      | true =>
        obtain ⟨-, hrefused⟩ := isRefusedGroup_iff.mp hrefused
        rw [sequenceEntries_eq_error_iff.mpr ⟨hrefused, rfl⟩]
        simp [bind, Except.bind, eq_comm]
      | false =>
        have hcollection : values.IsCollection := by
          rw [Value.IsCollection, Option.isSome_iff_ne_none, ne_eq, ← Option.isNone_iff_eq_none,
            ← isRefused_eq]
          intro h
          rw [isRefusedGroup_iff.mpr ⟨hnull, h⟩] at hrefused
          cases hrefused
        rw [sequenceEntries_eq hcollection]
        dsimp only
        rw [← ih]
        cases groupEntries rest <;> simp [bind, Except.bind, pure, Except.pure]

/-- A declaration is rejected with the first fault in it. -/
theorem ofDeclaration_eq_error_iff {raw : Value} (hraw : raw ≠ .null) {e : PolicyError} :
    ScopePolicy.ofDeclaration raw = .error e ↔ raw.fault? = some e := by
  have hentries : ScopePolicy.ofDeclaration raw = .error e ↔ declaredEntries raw = .error e := by
    rw [ScopePolicy.ofDeclaration.eq_2 _ hraw, flatten]
    cases declaredEntries raw <;> simp [Except.map, bind, Except.bind, pure, Except.pure]
  rw [hentries, declaredEntries, Value.fault?]
  cases raw.map? with
  | some groups =>
    dsimp only
    rw [groupEntries_eq_error_iff, Option.map_eq_some_iff]
    exact exists_congr fun g => and_congr_right fun _ => eq_comm
  | none =>
    dsimp only
    rw [sequenceEntries_eq_error_iff, Option.ite_none_right_eq_some, Option.some.injEq]
    exact and_congr_right fun _ => eq_comm

/-- A declaration has a fault exactly if it holds something that is refused. -/
theorem fault?_isSome_iff (raw : Value) : raw.fault?.isSome = true ↔ raw.HoldsRefused := by
  unfold Value.fault? Value.HoldsRefused
  cases raw.map? with
  | some groups => simp [List.find?_isSome, isRefusedGroup_iff]
  | none => cases raw.isRefused <;> simp

/-- A declaration that has a policy has one in normal form, which comes back when its entries are
declared again.  It has none exactly if it holds something that is refused, and then the first such
thing is the one reported. -/
theorem declaration_has_normal_form {raw : Value} (hraw : raw ≠ .null) :
    (∀ policy, ScopePolicy.ofDeclaration raw = .ok policy →
      policy.IsNormalFormOf (raw.declared.map entryText) ∧ policy.IsStable) ∧
    ((∃ e, ScopePolicy.ofDeclaration raw = .error e) ↔ raw.HoldsRefused) ∧
    ∀ e, ScopePolicy.ofDeclaration raw = .error e ↔ raw.fault? = some e := by
  refine ⟨?_, ?_, ?_⟩
  · intro policy hpolicy
    have hdeclaration := (ofDeclaration_ok_iff.mp ⟨policy, hpolicy⟩).resolve_left hraw
    rw [ofDeclaration_eq hdeclaration, Except.ok.injEq] at hpolicy
    rw [← hpolicy]
    exact ⟨isNormalFormOf_ofEntries _, isStable_ofEntries _⟩
  · rw [← fault?_isSome_iff, Option.isSome_iff_exists]
    exact exists_congr fun e => ofDeclaration_eq_error_iff hraw
  · intro e
    exact ofDeclaration_eq_error_iff hraw

/-- Groups with a null one among them, a member of an enumeration and repeated texts have one
policy, which comes back; of several groups that are texts or numbers the first is reported. -/
theorem grouped_declaration_has_normal_form :
    let raw : Value := .map [
      (.text "status", .list [.member (.text "active"), .text "idle", .text "active"]),
      (.text "other", .null), (.text "kind", .tuple [.text "idle", .text "kind:*"])]
    let policy : ScopePolicy := { mode := .allowList, entries := ["active", "idle", "kind:*"] }
    let faulty : Value := .map [(.text "status", .list [.text "active"]), (.text "other", .null),
      (.int 1, .text "idle"), (.text "kind", .int 3)]
    (ScopePolicy.ofDeclaration raw = .ok policy ∧ policy.IsStable) ∧
      ScopePolicy.ofDeclaration faulty = .error { group := some (.int 1), kind := "str" } := by
  intro raw policy faulty
  have hpolicy : ScopePolicy.ofDeclaration raw = .ok policy := rfl
  have hraw : raw ≠ .null := nofun
  have hfaulty : faulty ≠ .null := nofun
  obtain ⟨haccepted, -, -⟩ := declaration_has_normal_form hraw
  obtain ⟨-, -, hrejected⟩ := declaration_has_normal_form hfaulty
  exact ⟨⟨hpolicy, (haccepted policy hpolicy).2⟩, (hrejected _).mpr rfl⟩

end ScopeSearch
