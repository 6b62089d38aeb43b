import ScopeSearch.Proofs.Declaration
import ScopeSearch.Proofs.FirstOccurrence
import ScopeSearch.Proofs.KeyedList

/-!
# The policy and the groups of one declaration

A declaration is read once for its policy, all groups at a time, and once for its groups, one at a
time.  When it is made of lists and tuples, both readings succeed and differ only in when repeated
entries are left out: at the end, or already within each group.  Both ways leave the same entries.
-/

set_option autoImplicit false

namespace ScopeSearch

namespace Value

/-- The elements of a list or a tuple. -/
def sequence? : Value → Option (List Value)
  | list items => some items
  | tuple items => some items
  | marked _ v => sequence? v
  | _ => none

/-- A value stands for entries plainly: it is null, a list or a tuple. -/
def IsPlain (v : Value) : Prop :=
  v = .null ∨ ∃ items, v.sequence? = some items

/-- A declaration is made of lists and tuples: it is one, or a mapping of such under names whose
texts differ; null may stand for any of them. -/
def IsPlainDeclaration (raw : Value) : Prop :=
  match raw.map? with
  | some groups => (groups.map fun g => g.1.written).Nodup ∧ ∀ g ∈ groups, g.2.IsPlain
  | none => raw.IsPlain

/-- The texts of the entries that a plain value stands for. -/
def entryTexts (v : Value) : List String :=
  (v.sequence?.getD []).map entryText

/-- The groups of a declaration as they are written: their names and the texts of their entries. -/
def writtenGroups (raw : Value) : List (String × List String) :=
  match raw.map? with
  | some groups => groups.map fun g => (g.1.written, g.2.entryTexts)
  | none => if raw.isNull then [] else [(defaultGroup, raw.entryTexts)]

end Value

/-! ## Plain values -/

/-- The elements of a sequence are its own, and it is true unless there are none. -/
theorem elements?_of_sequence? {v : Value} {items : List Value} (h : v.sequence? = some items) :
    v.elements? = some items ∧ v.map? = none ∧ v.isTruthy = !items.isEmpty := by
  fun_induction Value.sequence? v with
  | case1 xs =>
    cases h
    exact ⟨rfl, rfl, rfl⟩
  | case2 xs =>
    cases h
    exact ⟨rfl, rfl, rfl⟩
  | case3 mark v ih => exact ih h
  | case4 => cases h

/-- A plain value has the elements that it is written with. -/
theorem getD_elements?_of_isPlain {v : Value} (h : v.IsPlain) :
    (v.elements?.getD []).map entryText = v.entryTexts := by
  rw [Value.entryTexts]
  rcases h with rfl | ⟨items, hitems⟩
  · rfl
  · rw [hitems, (elements?_of_sequence? hitems).1]

/-- A plain group can be reported. -/
theorem isGroup_of_isPlain {v : Value} (h : v.IsPlain) : v.IsGroup := by
  rcases h with rfl | ⟨items, hitems⟩
  · exact .inl rfl
  · rw [Value.IsGroup, Value.IsCollection, (elements?_of_sequence? hitems).1]
    exact .inr rfl

/-- A sequence is flattened to the first occurrences of the texts in it. -/
theorem flatten_of_sequence? {v : Value} {items : List Value} (h : v.sequence? = some items) :
    flatten v = .ok (firstOccurrences v.entryTexts) := by
  obtain ⟨helements, hmap, -⟩ := elements?_of_sequence? h
  have hdeclaration : v.IsDeclaration := by
    rw [Value.IsDeclaration, hmap, Value.IsCollection, helements]
    rfl
  rw [flatten_eq hdeclaration, Value.declared, hmap, ← getD_elements?_of_isPlain (.inr ⟨_, h⟩)]

/-- A plain group is read with its entries, each once; one that is left out has none. -/
theorem readGroup_of_isPlain {v : Value} (h : v.IsPlain) :
    (if v.isTruthy then flatten v else .ok []) = .ok (firstOccurrences v.entryTexts) := by
  rcases h with rfl | ⟨items, hitems⟩
  · rfl
  · obtain ⟨-, -, htruthy⟩ := elements?_of_sequence? hitems
    rw [flatten_of_sequence? hitems, htruthy]
    cases items with
    | nil =>
      rw [Value.entryTexts, hitems]
      rfl
    | cons v rest => rfl

/-! ## The two readings -/

/-- Plain groups with distinct names are reported one behind the other. -/
theorem groupsOf_eq {entries : List (Value × Value)} {done : KeyedList String (List String)}
    (hplain : ∀ g ∈ entries, g.2.IsPlain)
    (hnames : (done.keys ++ entries.map fun g => g.1.written).Nodup) :
    groupsOf entries done =
      .ok (done ++ entries.map fun g => (g.1.written, firstOccurrences g.2.entryTexts)) := by
  induction entries generalizing done with
  | nil => simp [groupsOf]
  | cons g rest ih =>
    obtain ⟨group, values⟩ := g
    obtain ⟨hvalues, hrest⟩ := List.forall_mem_cons.mp hplain
    have hnew : group.written ∉ done.keys := by
      intro hmem
      rw [List.nodup_append] at hnames
      exact hnames.2.2 _ hmem _ List.mem_cons_self rfl
    have hlater : (KeyedList.keys (done ++ [(group.written, firstOccurrences values.entryTexts)]) ++
        rest.map fun g => g.1.written).Nodup := by
      simpa using hnames
    have hstep : groupsOf ((group, values) :: rest) done =
        groupsOf rest (done.put group.written (firstOccurrences values.entryTexts)) := by
      have hread := readGroup_of_isPlain hvalues
      rw [groupsOf]
      split at hread
      · next htruthy =>
        rw [if_pos htruthy, hread]
        rfl
      · next hfalse =>
        rw [if_neg hfalse, hread]
        rfl
    rw [hstep, KeyedList.put_of_not_mem hnew, ih hrest hlater]
    simp

/-- The groups of a plain declaration are the written ones, the entries of each reduced to their
first occurrences. -/
theorem groups_eq {raw : Value} (h : raw.IsPlainDeclaration) :
    groups raw = .ok (raw.writtenGroups.map fun g => (g.1, firstOccurrences g.2)) := by
  unfold Value.IsPlainDeclaration at h
  unfold Value.writtenGroups
  cases hmap : raw.map? with
  | some entries =>
    rw [hmap] at h
    rw [groups_of_map? hmap, groupsOf_eq h.2 (by simpa using h.1), List.map_map]
    rfl
  | none =>
    rw [hmap] at h
    rcases h with rfl | ⟨items, hitems⟩
    · rfl
    · have hnull : raw ≠ .null := by
        rintro rfl
        cases hitems
      rw [groups_of_not_map hnull hmap, flatten_of_sequence? hitems,
        isNull_eq_false_iff.mpr hnull]
      rfl

/-- The policy of a plain declaration lists the first occurrences of what all groups are written
with. -/
theorem ofDeclaration_of_isPlainDeclaration {raw : Value} (h : raw.IsPlainDeclaration) :
    ∃ policy, ScopePolicy.ofDeclaration raw = .ok policy ∧
      policy.entries = firstOccurrences (raw.writtenGroups.map Prod.snd).flatten := by
  by_cases hnull : raw = .null
  · subst hnull
    exact ⟨_, rfl, rfl⟩
  · have hdeclared : raw.IsDeclaration ∧
        raw.declared.map entryText = (raw.writtenGroups.map Prod.snd).flatten := by
      unfold Value.IsPlainDeclaration at h
      unfold Value.IsDeclaration Value.declared Value.writtenGroups
      cases hmap : raw.map? with
      | some entries =>
        rw [hmap] at h
        refine ⟨fun g hg => isGroup_of_isPlain (h.2 g hg), ?_⟩
        dsimp only
        rw [List.map_flatMap, List.map_map, ← List.flatMap_def]
        exact List.flatMap_congr fun g hg => getD_elements?_of_isPlain (h.2 g hg)
      | none =>
        rw [hmap] at h
        refine ⟨(isGroup_of_isPlain h).resolve_left hnull, ?_⟩
        dsimp only
        rw [getD_elements?_of_isPlain h, isNull_eq_false_iff.mpr hnull]
        simp
    exact ⟨_, ofDeclaration_eq hdeclared.1, by rw [entries_ofEntries, hdeclared.2]⟩

/-- A declaration that is made of lists and tuples has a policy and groups.  The groups bear the
names that are written, and each lists the first occurrences of its own entries.  The policy lists
the first occurrences of what all groups list. -/
theorem groups_agree_with_policy {raw : Value} (h : raw.IsPlainDeclaration) :
    ∃ gs policy, groups raw = .ok gs ∧ ScopePolicy.ofDeclaration raw = .ok policy ∧
      AreFirstOccurrences policy.entries (gs.flatMap Prod.snd) ∧
      List.Forall₂ (fun group written => group.1 = written.1 ∧ group.2.Nodup ∧
        AreFirstOccurrences group.2 written.2) gs raw.writtenGroups := by
  obtain ⟨policy, hpolicy, hentries⟩ := ofDeclaration_of_isPlainDeclaration h
  refine ⟨_, policy, groups_eq h, hpolicy, ?_, ?_⟩
  · -- reducing each group first changes nothing
    rw [areFirstOccurrences_iff, hentries, ← firstOccurrences_flatMap, List.flatMap_map,
      List.flatMap_map]
  · rw [List.forall₂_map_left_iff, List.forall₂_same]
    intro written _
    exact ⟨rfl, (areFirstOccurrences _).nodup, areFirstOccurrences _⟩

/-- Entries that are written in several groups, or twice in one, once as a text and once as a member
of an enumeration. -/
theorem overlapping_groups_agree_with_policy :
    let raw : Value := .map [
      (.text "status", .list [.text "idle", .member (.text "active"), .text "idle"]),
      (.text "other", .null), (.int 1, .tuple [.text "kind:*", .text "active"]),
      (.text "more", .list [])]
    raw.IsPlainDeclaration ∧ ∃ gs policy, groups raw = .ok gs ∧
      ScopePolicy.ofDeclaration raw = .ok policy ∧
      AreFirstOccurrences policy.entries (gs.flatMap Prod.snd) ∧
      gs.map Prod.fst = ["status", "other", "1", "more"] := by
  intro raw
  have hplain : raw.IsPlainDeclaration := by
    refine ⟨by decide, ?_⟩
    simp [Value.IsPlain, Value.sequence?]
  obtain ⟨gs, policy, hgs, hpolicy, hentries, hgroups⟩ := groups_agree_with_policy hplain
  refine ⟨hplain, gs, policy, hgs, hpolicy, hentries, ?_⟩
  have hnames : gs.map Prod.fst = raw.writtenGroups.map Prod.fst := by
    rw [← List.forall₂_eq_eq_eq, List.forall₂_map_left_iff, List.forall₂_map_right_iff]
    exact hgroups.imp fun _ _ h => h.1
  rw [hnames]
  decide

end ScopeSearch
