import ScopeSearch.Dashboard
import ScopeSearch.Proofs.Outcome

/-!
# Which declarations of scopes can be read

A declaration is read twice, for its policy and for its groups.  The policy takes the elements of
every group as they are, so a group that is a mapping contributes its keys.  The groups are read as
declarations of their own, so a group that is a mapping has to hold collections again.  The two
readings therefore accept the same declarations except for what stands inside such a group.
-/

set_option autoImplicit false

namespace ScopeSearch

/-- A value has elements. -/
def Value.IsCollection (v : Value) : Prop :=
  v.elements?.isSome = true

/-- A value can stand for a group: it is null or has elements. -/
def Value.IsGroup (v : Value) : Prop :=
  v = .null ∨ v.IsCollection

/-- A declaration with entries: a mapping of groups, or a collection. -/
def Value.IsDeclaration (v : Value) : Prop :=
  match v.map? with
  | some entries => ∀ g ∈ entries, g.2.IsGroup
  | none => v.IsCollection

/-- The elements of a declaration: those of a collection, or those of all groups of a mapping one
behind the other, where a null group has none. -/
def Value.declared (v : Value) : List Value :=
  match v.map? with
  | some entries => entries.flatMap fun g => g.2.elements?.getD []
  | none => v.elements?.getD []

/-- Whatever stands inside a group of a mapping that is a mapping itself can stand for a group. -/
def Value.HasReadableGroups (v : Value) : Prop :=
  ∀ g ∈ v.map?.getD [], ∀ inner ∈ g.2.map?.getD [], inner.2.IsGroup

/-- A value is null. -/
def Value.isNull : Value → Bool
  | .null => true
  | _ => false

/-- The test for null passes null and nothing else. -/
theorem isNull_iff {v : Value} : v.isNull = true ↔ v = .null := by
  cases v <;> simp [Value.isNull]

/-- The test for null fails on every other value. -/
theorem isNull_eq_false_iff {v : Value} : v.isNull = false ↔ v ≠ .null := by
  rw [← Bool.not_eq_true, isNull_iff]

instance (v : Value) : Decidable v.IsGroup :=
  decidable_of_iff (v.isNull = true ∨ v.elements?.isSome = true) (or_congr_left isNull_iff)

instance (v : Value) : Decidable v.HasReadableGroups :=
  inferInstanceAs (Decidable (∀ g ∈ v.map?.getD [], ∀ inner ∈ g.2.map?.getD [], inner.2.IsGroup))

/-! ## Reading a policy -/

/-- Exactly the collections have elements to be read. -/
theorem sequenceEntries_ok_iff {group : Option Value} {raw : Value} :
    (∃ items, sequenceEntries group raw = .ok items) ↔ raw.IsCollection := by
  unfold sequenceEntries Value.IsCollection
  cases raw.elements? <;> simp

/-- The groups of a mapping have elements to be read if each is null or a collection. -/
theorem groupEntries_ok_iff {entries : List (Value × Value)} :
    (∃ items, groupEntries entries = .ok items) ↔ ∀ g ∈ entries, g.2.IsGroup := by
  induction entries with
  | nil => simp [groupEntries]
  | cons g rest ih =>
    obtain ⟨group, values⟩ := g
    rw [List.forall_mem_cons, ← ih]
    by_cases hnull : values = .null
    · subst hnull
      simp [groupEntries, Value.IsGroup]
    · rw [groupEntries.eq_3 _ _ _ hnull, exists_bind_eq_ok_iff]
      have hgroup : values.IsGroup ↔ ∃ items, sequenceEntries (some group) values = .ok items := by
        rw [sequenceEntries_ok_iff, Value.IsGroup, or_iff_right hnull]
      simp [hgroup, exists_bind_eq_ok_iff, pure, Except.pure]

/-- A declaration with elements is one that is a mapping of groups or a collection. -/
theorem declaredEntries_ok_iff {raw : Value} :
    (∃ items, declaredEntries raw = .ok items) ↔ raw.IsDeclaration := by
  unfold declaredEntries Value.IsDeclaration
  cases raw.map? with
  | none => exact sequenceEntries_ok_iff
  | some entries => exact groupEntries_ok_iff

/-- A declaration with entries is one that is a mapping of groups or a collection. -/
theorem flatten_ok_iff {raw : Value} :
    (∃ entries, flatten raw = .ok entries) ↔ raw.IsDeclaration := by
  rw [← declaredEntries_ok_iff, flatten, exists_bind_eq_ok_iff]
  simp [pure, Except.pure]

/-- A policy is that of a null declaration or of one with entries. -/
theorem ofDeclaration_ok_iff {raw : Value} :
    (∃ policy, ScopePolicy.ofDeclaration raw = .ok policy) ↔ raw = .null ∨ raw.IsDeclaration := by
  by_cases hnull : raw = .null
  · subst hnull
    simp [ScopePolicy.ofDeclaration]
  · rw [ScopePolicy.ofDeclaration.eq_2 _ hnull, exists_map_eq_ok_iff, flatten_ok_iff,
      or_iff_right hnull]

/-! ## What a policy holds -/

/-- What is read of a collection is its elements. -/
theorem sequenceEntries_eq {group : Option Value} {raw : Value} (h : raw.IsCollection) :
    sequenceEntries group raw = .ok (raw.elements?.getD []) := by
  obtain ⟨items, hitems⟩ := Option.isSome_iff_exists.mp h
  simp [sequenceEntries, hitems]

/-- What is read of groups is their elements, group by group. -/
theorem groupEntries_eq {entries : List (Value × Value)} (h : ∀ g ∈ entries, g.2.IsGroup) :
    groupEntries entries = .ok (entries.flatMap fun g => g.2.elements?.getD []) := by
  induction entries with
  | nil => rfl
  | cons g rest ih =>
    obtain ⟨group, values⟩ := g
    obtain ⟨hgroup, hrest⟩ := List.forall_mem_cons.mp h
    by_cases hnull : values = .null
    · subst hnull
      simpa [groupEntries, Value.elements?] using ih hrest
    · have hcollection : values.IsCollection := hgroup.resolve_left hnull
      rw [groupEntries.eq_3 _ _ _ hnull, sequenceEntries_eq hcollection, ih hrest]
      rfl

/-- The elements that are read are the declared ones. -/
theorem declaredEntries_eq {raw : Value} (h : raw.IsDeclaration) :
    declaredEntries raw = .ok raw.declared := by
  unfold Value.IsDeclaration at h
  unfold declaredEntries Value.declared
  cases hmap : raw.map? with
  | none =>
    rw [hmap] at h
    exact sequenceEntries_eq h
  | some entries =>
    rw [hmap] at h
    exact groupEntries_eq h

/-- The entries of a declaration are the texts of its elements, each once. -/
theorem flatten_eq {raw : Value} (h : raw.IsDeclaration) :
    flatten raw = .ok (firstOccurrences (raw.declared.map entryText)) := by
  rw [flatten, declaredEntries_eq h]
  rfl

/-- The policy of a declaration lists the texts of its elements, each once. -/
theorem ofDeclaration_eq {raw : Value} (h : raw.IsDeclaration) :
    ScopePolicy.ofDeclaration raw =
      .ok (.ofEntries (firstOccurrences (raw.declared.map entryText))) := by
  have hnull : raw ≠ .null := by
    rintro rfl
    cases h
  rw [ScopePolicy.ofDeclaration.eq_2 _ hnull, flatten_eq h]
  rfl

/-- A policy of entries lists them. -/
theorem entries_ofEntries (entries : List String) :
    (ScopePolicy.ofEntries entries).entries = entries := by
  cases entries <;> rfl

/-- A policy of entries allows them, and without entries it closes scope search. -/
theorem mode_ofEntries (entries : List String) :
    (ScopePolicy.ofEntries entries).mode = if entries = [] then .disabled else .allowList := by
  cases entries <;> rfl

/-! ## Reading groups -/

/-- A declaration whose groups can be read one by one, each as a declaration of its own; a group
that is false is left out. -/
def Value.IsReportable (v : Value) : Prop :=
  match v.map? with
  | some entries => ∀ g ∈ entries, g.2.isTruthy = true → g.2.IsDeclaration
  | none => v.IsCollection

/-- Groups are reported if each of them that is not false is a declaration of its own. -/
theorem groupsOf_ok_iff {entries : List (Value × Value)} {done : KeyedList String (List String)} :
    (∃ gs, groupsOf entries done = .ok gs) ↔
      ∀ g ∈ entries, g.2.isTruthy = true → g.2.IsDeclaration := by
  induction entries generalizing done with
  | nil => simp [groupsOf]
  | cons g rest ih =>
    obtain ⟨group, values⟩ := g
    rw [List.forall_mem_cons, groupsOf]
    cases values.isTruthy with
    | true =>
      rw [if_pos rfl, exists_bind_eq_ok_iff]
      simp only [ih, exists_and_right, flatten_ok_iff]
      simp
    | false =>
      rw [if_neg (by simp), exists_bind_eq_ok_iff]
      simp only [ih]
      simp

/-- The groups of a mapping are read one by one. -/
theorem groups_of_map? {raw : Value} {entries : List (Value × Value)}
    (h : raw.map? = some entries) : groups raw = groupsOf entries [] := by
  have hnull : raw ≠ .null := by
    rintro rfl
    cases h
  unfold groups
  split <;> simp_all

/-- Anything else is one group. -/
theorem groups_of_not_map {raw : Value} (hnull : raw ≠ .null) (h : raw.map? = none) :
    groups raw = (flatten raw).map fun entries => [(defaultGroup, entries)] := by
  unfold groups
  split <;> simp_all

/-- Groups are those of a null declaration or of one whose groups can be read. -/
theorem groups_ok_iff {raw : Value} :
    (∃ gs, groups raw = .ok gs) ↔ raw = .null ∨ raw.IsReportable := by
  by_cases hnull : raw = .null
  · subst hnull
    simp [groups]
  · rw [or_iff_right hnull, Value.IsReportable]
    cases hmap : raw.map? with
    | none =>
      rw [groups_of_not_map hnull hmap, exists_map_eq_ok_iff, flatten_ok_iff,
        Value.IsDeclaration, hmap]
    | some entries => rw [groups_of_map? hmap, groupsOf_ok_iff]

/-! ## Comparing the two -/

/-- A mapping is true when it has entries. -/
theorem isTruthy_of_map? {v : Value} {entries : List (Value × Value)}
    (h : v.map? = some entries) : v.isTruthy = !entries.isEmpty := by
  fun_induction Value.map? v with
  | case1 entries' =>
    obtain rfl : entries' = entries := by simpa using h
    rfl
  | case2 mark v ih =>
    rw [Value.isTruthy]
    exact ih h
  | case3 => cases h

/-- A group that the policy takes is read as a declaration of its own if everything inside it can
stand for a group. -/
theorem isDeclaration_iff_of_isGroup {v : Value} (h : v.IsGroup) :
    (v.isTruthy = true → v.IsDeclaration) ↔ ∀ inner ∈ v.map?.getD [], inner.2.IsGroup := by
  unfold Value.IsDeclaration
  cases hmap : v.map? with
  | none =>
    simp only [Option.getD_none, List.not_mem_nil, false_imp_iff, implies_true, iff_true]
    intro htruthy
    rcases h with rfl | hcollection
    · cases htruthy
    · exact hcollection
  | some inner =>
    rw [isTruthy_of_map? hmap]
    cases inner <;> simp

/-- Of the declarations that have a policy, those have groups whose groups are readable. -/
theorem groups_ok_iff_of_policy {raw : Value}
    (h : ∃ policy, ScopePolicy.ofDeclaration raw = .ok policy) :
    (∃ gs, groups raw = .ok gs) ↔ raw.HasReadableGroups := by
  rw [groups_ok_iff]
  rw [ofDeclaration_ok_iff] at h
  rcases h with rfl | h
  · simp [Value.HasReadableGroups, Value.map?]
  · unfold Value.IsDeclaration at h
    unfold Value.HasReadableGroups Value.IsReportable
    cases hmap : raw.map? with
    | none =>
      rw [hmap] at h
      simp [h]
    | some entries =>
      rw [hmap] at h
      have hnull : raw ≠ .null := by
        rintro rfl
        cases hmap
      rw [or_iff_right hnull]
      exact forall₂_congr fun g hg => isDeclaration_iff_of_isGroup (h g hg)

/-! ## After the policy has been read -/

/-- Reading the elements of a value leaves its entries. -/
theorem map?_drained (v : Value) : v.drained.map? = v.map? := by
  cases v <;> rfl

/-- Reading the elements of a value leaves it a collection or not. -/
theorem isCollection_drained (v : Value) : v.drained.IsCollection ↔ v.IsCollection := by
  cases v <;> exact Iff.rfl

/-- Reading the elements of a value leaves it true or false. -/
theorem isTruthy_drained (v : Value) : v.drained.isTruthy = v.isTruthy := by
  cases v <;> rfl

/-- Reading the elements of a value leaves it a declaration or not. -/
theorem isDeclaration_drained (v : Value) : v.drained.IsDeclaration ↔ v.IsDeclaration := by
  simp only [Value.IsDeclaration, map?_drained, isCollection_drained]

/-- What the elements of the streams among some groups do not matter for holds of the groups that
have been read when it held of them before. -/
theorem forall_mem_drainedGroups {P : Value × Value → Prop} {entries : List (Value × Value)}
    (hP : ∀ g ∈ entries, P (g.1, g.2.drained) ↔ P g) :
    (∀ g ∈ Value.drainedGroups entries, P g) ↔ ∀ g ∈ entries, P g := by
  induction entries with
  | nil => exact Iff.rfl
  | cons g rest ih =>
    rw [List.forall_mem_cons] at hP
    unfold Value.drainedGroups
    split
    · simp only [List.forall_mem_cons, ih hP.2]
    · simp only [List.forall_mem_cons, ih hP.2, hP.1]
    · exact Iff.rfl

/-- Reading the policy of a declaration leaves its groups as readable as they were. -/
theorem groups_afterPolicy_ok_iff {raw : Value} :
    (∃ gs, groups raw.afterPolicy = .ok gs) ↔ ∃ gs, groups raw = .ok gs := by
  rw [groups_ok_iff, groups_ok_iff]
  cases raw with
  | map entries =>
    have htruthy (v : Value) : (v.drained.isTruthy = true → v.drained.IsDeclaration) ↔
        (v.isTruthy = true → v.IsDeclaration) := by
      rw [isTruthy_drained, isDeclaration_drained]
    simpa [Value.afterPolicy, Value.IsReportable, Value.map?] using
      forall_mem_drainedGroups (P := fun g => g.2.isTruthy = true → g.2.IsDeclaration)
        fun g _ => htruthy g.2
  | stream items => simp [Value.afterPolicy, Value.drained, Value.IsReportable, Value.map?,
      Value.IsCollection, Value.elements?]
  | _ => exact Iff.rfl

end ScopeSearch
