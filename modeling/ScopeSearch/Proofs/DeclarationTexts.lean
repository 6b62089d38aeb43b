import ScopeSearch.Proofs.Declaration

/-!
# Declarations whose texts can be made

The program reads a declaration as texts, and a text cannot be made of an integer with too many
digits.  Reading succeeds exactly when the declaration can be read at all and the texts that this
takes can be made, and it then gives what it gives without a limit.

The policy takes the texts of the declared elements.  The groups take the texts of their names, and
of what stands inside a group that is a mapping itself, which the policy has not looked at.
-/

set_option autoImplicit false

namespace ScopeSearch

/-- The texts of the declared elements can be made. -/
def Value.HasEntryTexts (v : Value) : Prop :=
  ∀ item ∈ v.declared, hasEntryText item = true

/-- The names of the groups of a mapping and the texts of the elements that each group declares can
be made. -/
def Value.HasGroupTexts (v : Value) : Prop :=
  ∀ g ∈ v.map?.getD [], g.1.isWritable = true ∧ g.2.HasEntryTexts

instance (v : Value) : Decidable v.HasEntryTexts :=
  inferInstanceAs (Decidable (∀ item ∈ v.declared, hasEntryText item = true))

instance (v : Value) : Decidable v.HasGroupTexts :=
  inferInstanceAs (Decidable (∀ g ∈ v.map?.getD [], g.1.isWritable = true ∧ g.2.HasEntryTexts))

/-! ## Entries and policies -/

/-- Entries are read as without a limit if their texts can be made. -/
theorem readEntries_eq_ok_iff {raw : Value} {entries : List String} :
    readEntries raw = .ok entries ↔ flatten raw = .ok entries ∧ raw.HasEntryTexts := by
  have htexts (items : List Value) (hitems : declaredEntries raw = .ok items) :
      items.all hasEntryText = true ↔ raw.HasEntryTexts := by
    have hdeclared := declaredEntries_eq (declaredEntries_ok_iff.mp ⟨items, hitems⟩)
    obtain rfl : items = raw.declared := Except.ok.inj (hitems.symm.trans hdeclared)
    exact List.all_eq_true
  constructor
  · intro h
    obtain ⟨items, hitems, h⟩ := bind_eq_ok_iff.mp h
    have hitems := mapError_eq_ok_iff.mp hitems
    by_cases hall : items.all hasEntryText = true
    · rw [if_pos hall] at h
      have hentries : firstOccurrences (items.map entryText) = entries := Except.ok.inj h
      exact ⟨bind_eq_ok_iff.mpr ⟨items, hitems, congrArg Except.ok hentries⟩,
        (htexts items hitems).mp hall⟩
    · rw [if_neg hall] at h
      cases h
  · rintro ⟨h, hfit⟩
    obtain ⟨items, hitems, h⟩ := bind_eq_ok_iff.mp h
    have hentries : firstOccurrences (items.map entryText) = entries := Except.ok.inj h
    have hread : (declaredEntries raw).mapError DeclarationError.ofShape = .ok items :=
      mapError_eq_ok_iff.mpr hitems
    apply bind_eq_ok_iff.mpr
    refine ⟨items, hread, ?_⟩
    rw [if_pos ((htexts items hitems).mpr hfit)]
    exact congrArg Except.ok hentries

/-- A policy is read as without a limit if the texts of the elements can be made. -/
theorem read_eq_ok_iff {raw : Value} {policy : ScopePolicy} :
    ScopePolicy.read raw = .ok policy ↔
      ScopePolicy.ofDeclaration raw = .ok policy ∧ raw.HasEntryTexts := by
  by_cases hnull : raw = .null
  · subst hnull
    simp [ScopePolicy.read, ScopePolicy.ofDeclaration, Value.HasEntryTexts, Value.declared,
      Value.map?, Value.elements?]
  · rw [ScopePolicy.read.eq_2 _ hnull, ScopePolicy.ofDeclaration.eq_2 _ hnull, map_eq_ok_iff,
      map_eq_ok_iff]
    simp only [readEntries_eq_ok_iff]
    constructor
    · rintro ⟨entries, ⟨hentries, htexts⟩, hpolicy⟩
      exact ⟨⟨entries, hentries, hpolicy⟩, htexts⟩
    · rintro ⟨⟨entries, hentries, hpolicy⟩, htexts⟩
      exact ⟨entries, ⟨hentries, htexts⟩, hpolicy⟩

/-! ## Groups -/

/-- A value that is false declares nothing. -/
theorem declared_of_not_isTruthy {v : Value} (h : v.isTruthy = false) : v.declared = [] := by
  fun_induction Value.isTruthy v <;>
    simp_all [Value.declared, Value.map?, Value.elements?]

/-- The entries of a group are read as without a limit if their texts can be made. -/
theorem readGroup_eq_ok_iff {values : Value} {entries : List String} :
    readGroup values = .ok entries ↔
      (if values.isTruthy then flatten values else .ok []) = .ok entries ∧
        values.HasEntryTexts := by
  unfold readGroup
  cases htruthy : values.isTruthy with
  | true => exact readEntries_eq_ok_iff
  | false =>
    have htexts : values.HasEntryTexts := by
      simp [Value.HasEntryTexts, declared_of_not_isTruthy htruthy]
    simp [htexts]

/-- The groups of a mapping are read from the first one on. -/
theorem groupsOf_cons (group values : Value) (rest : List (Value × Value))
    (done : KeyedList String (List String)) :
    groupsOf ((group, values) :: rest) done =
      (if values.isTruthy then flatten values else .ok []) >>= fun entries =>
        groupsOf rest (KeyedList.put group.written entries done) := by
  rw [groupsOf]
  split <;> rfl

/-- Groups are read as without a limit if the texts of their names and of their elements can be
made. -/
theorem readGroupsOf_eq_ok_iff {entries : List (Value × Value)}
    {done gs : KeyedList String (List String)} :
    readGroupsOf entries done = .ok gs ↔
      groupsOf entries done = .ok gs ∧
        ∀ g ∈ entries, g.1.isWritable = true ∧ g.2.HasEntryTexts := by
  induction entries generalizing done with
  | nil => simp [readGroupsOf, groupsOf]
  | cons g rest ih =>
    obtain ⟨group, values⟩ := g
    rw [List.forall_mem_cons, groupsOf_cons, readGroupsOf]
    constructor
    · intro h
      obtain ⟨name, hname, h⟩ := bind_eq_ok_iff.mp h
      obtain ⟨hwritable, rfl⟩ := Value.write_eq_ok_iff.mp (mapError_eq_ok_iff.mp hname)
      obtain ⟨texts, htexts, hrest⟩ := bind_eq_ok_iff.mp h
      obtain ⟨hentries, hfit⟩ := readGroup_eq_ok_iff.mp htexts
      obtain ⟨hgroups, hall⟩ := ih.mp hrest
      exact ⟨bind_eq_ok_iff.mpr ⟨texts, hentries, hgroups⟩, ⟨hwritable, hfit⟩, hall⟩
    · rintro ⟨h, ⟨hwritable, hfit⟩, hall⟩
      obtain ⟨texts, hentries, hgroups⟩ := bind_eq_ok_iff.mp h
      have hname : group.write.mapError DeclarationError.longInteger = .ok group.written :=
        mapError_eq_ok_iff.mpr (Value.write_eq_ok_iff.mpr ⟨hwritable, rfl⟩)
      have htexts := readGroup_eq_ok_iff.mpr ⟨hentries, hfit⟩
      have hrest := ih.mpr ⟨hgroups, hall⟩
      exact bind_eq_ok_iff.mpr ⟨_, hname, bind_eq_ok_iff.mpr ⟨texts, htexts, hrest⟩⟩

/-- The groups of a mapping are read one by one. -/
theorem readGroups_of_map? {raw : Value} {entries : List (Value × Value)}
    (h : raw.map? = some entries) : readGroups raw = readGroupsOf entries [] := by
  have hnull : raw ≠ .null := by
    rintro rfl
    cases h
  unfold readGroups
  split <;> simp_all

/-- Anything else is one group. -/
theorem readGroups_of_not_map {raw : Value} (hnull : raw ≠ .null) (h : raw.map? = none) :
    readGroups raw = (readEntries raw).map fun entries => [(defaultGroup, entries)] := by
  unfold readGroups
  split <;> simp_all

/-- Once the policy of a declaration has been read, its groups are read as without a limit if the
texts of names and of elements inside them can be made. -/
theorem readGroups_eq_ok_iff {raw : Value} (h : raw.HasEntryTexts)
    {gs : KeyedList String (List String)} :
    readGroups raw = .ok gs ↔ groups raw = .ok gs ∧ raw.HasGroupTexts := by
  unfold Value.HasGroupTexts
  cases hmap : raw.map? with
  | some entries =>
    rw [readGroups_of_map? hmap, groups_of_map? hmap, readGroupsOf_eq_ok_iff, Option.getD_some]
  | none =>
    have hnone : ∀ g ∈ (none : Option (List (Value × Value))).getD [],
        g.1.isWritable = true ∧ g.2.HasEntryTexts := by simp
    rw [and_iff_left hnone]
    by_cases hnull : raw = .null
    · subst hnull
      simp [readGroups, groups]
    · rw [readGroups_of_not_map hnull hmap, groups_of_not_map hnull hmap]
      simp only [map_eq_ok_iff, readEntries_eq_ok_iff, and_iff_left h]

/-- Of the declarations that have a policy, those have groups whose groups are readable and have
texts. -/
theorem readGroups_ok_iff_of_policy {raw : Value}
    (h : ∃ policy, ScopePolicy.read raw = .ok policy) :
    (∃ gs, readGroups raw = .ok gs) ↔ raw.HasReadableGroups ∧ raw.HasGroupTexts := by
  obtain ⟨policy, hread⟩ := h
  obtain ⟨hpolicy, htexts⟩ := read_eq_ok_iff.mp hread
  simp only [readGroups_eq_ok_iff htexts, exists_and_right]
  rw [groups_ok_iff_of_policy ⟨policy, hpolicy⟩]

/-! ## After the policy has been read -/

/-- Reading the elements of a group leaves its texts as they were, once they can all be made. -/
theorem hasEntryTexts_drained {v : Value}
    (h : ∀ item ∈ v.elements?.getD [], hasEntryText item = true) :
    v.drained.HasEntryTexts ↔ v.HasEntryTexts := by
  cases v with
  | stream items => exact ⟨fun _ => h, fun _ => by simp [Value.HasEntryTexts, Value.drained,
      Value.declared, Value.map?, Value.elements?]⟩
  | _ => exact Iff.rfl

/-- The elements of the groups of a mapping are the declared ones. -/
theorem hasEntryTexts_map {entries : List (Value × Value)} :
    (Value.map entries).HasEntryTexts ↔
      ∀ g ∈ entries, ∀ item ∈ g.2.elements?.getD [], hasEntryText item = true := by
  have hdeclared : (Value.map entries).declared =
      entries.flatMap fun g => g.2.elements?.getD [] := rfl
  rw [Value.HasEntryTexts, hdeclared, List.forall_mem_flatMap]

/-- Elements that are left after reading were there before. -/
theorem mem_elements?_of_drained {v item : Value} (h : item ∈ v.drained.elements?.getD []) :
    item ∈ v.elements?.getD [] := by
  cases v with
  | stream items => simp [Value.drained, Value.elements?] at h
  | _ => exact h

/-- The texts of the elements that are left can be made if all could. -/
theorem hasEntryTexts_afterPolicy {raw : Value} (h : raw.HasEntryTexts) :
    raw.afterPolicy.HasEntryTexts := by
  cases raw with
  | map entries =>
    rw [hasEntryTexts_map] at h
    apply hasEntryTexts_map.mpr
    exact (forall_mem_drainedGroups fun g hg => iff_of_true
      (fun item hitem => h g hg item (mem_elements?_of_drained hitem)) (h g hg)).mpr h
  | stream items => simp [Value.HasEntryTexts, Value.afterPolicy, Value.drained, Value.declared,
      Value.map?, Value.elements?]
  | _ => exact h

/-- The texts of groups are as good after the policy has been read. -/
theorem hasGroupTexts_afterPolicy {raw : Value} (h : raw.HasEntryTexts) :
    raw.afterPolicy.HasGroupTexts ↔ raw.HasGroupTexts := by
  cases raw with
  | map entries =>
    exact forall_mem_drainedGroups fun g hg =>
      and_congr_right' (hasEntryTexts_drained (hasEntryTexts_map.mp h g hg))
  | _ => exact Iff.rfl

/-- Reading the policy of a declaration leaves its groups as readable as they were. -/
theorem readGroups_afterPolicy_ok_iff {raw : Value}
    (h : ∃ policy, ScopePolicy.read raw = .ok policy) :
    (∃ gs, readGroups raw.afterPolicy = .ok gs) ↔ ∃ gs, readGroups raw = .ok gs := by
  obtain ⟨policy, hread⟩ := h
  obtain ⟨-, htexts⟩ := read_eq_ok_iff.mp hread
  simp only [readGroups_eq_ok_iff htexts, readGroups_eq_ok_iff (hasEntryTexts_afterPolicy htexts),
    exists_and_right]
  rw [groups_afterPolicy_ok_iff, hasGroupTexts_afterPolicy htexts]

end ScopeSearch
