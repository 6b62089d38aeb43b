import ScopeSearch.Proofs.KeywordCondition
import ScopeSearch.Proofs.Renaming
import ScopeSearch.Proofs.RunSteps

/-!
# Names of binds in a condition

A bind of a scope is renamed into the namespace of its invocation, which succeeds unless a backslash
in its name cannot stand in a replacement text.  So the names in a condition are names of patterns
or stand in namespaces of invocations, and the names of the page are none of them.
-/

set_option autoImplicit false

namespace ScopeSearch

/-! ## Usable names -/

/-- The name of a bind can stand in the name that takes its place. -/
def IsUsableName (name : String) : Prop :=
  ∃ parts, Text.replacementParts name.toList = .ok parts

/-- What stands in front of a replacement text without a backslash stands for itself. -/
theorem replacementPartsWithin_append {front : List Char} (h : '\\' ∉ front) (steps : Nat)
    (s : List Char) :
    Text.replacementPartsWithin (front.length + steps) (front ++ s) =
      (Text.replacementPartsWithin steps s).map (front.map .character ++ ·) := by
  induction front with
  | nil =>
    rw [List.length_nil, Nat.zero_add, List.nil_append]
    cases Text.replacementPartsWithin steps s <;> rfl
  | cons c rest ih =>
    rw [List.mem_cons, not_or] at h
    rw [List.length_cons, Nat.add_right_comm, List.cons_append, Text.replacementPartsWithin, ih h.2]
    · cases Text.replacementPartsWithin steps s <;> rfl
    · exact fun hc => h.1 hc.symm

/-- A name in a namespace, behind its colon, can be a replacement exactly if the name can. -/
theorem exists_replacementParts_iff (index : Nat) (name : String) :
    (∃ parts, Text.replacementParts (':' :: (invocationSpace index ++ name).toList) = .ok parts) ↔
      IsUsableName name := by
  have hbackslash : Text.isWord '\\' = false := by decide +kernel
  have hfront : '\\' ∉ ':' :: (invocationSpace index).toList := by
    rw [List.mem_cons, not_or]
    refine ⟨by decide, ?_⟩
    intro h
    rw [isWord_of_mem_invocationSpace h] at hbackslash
    cases hbackslash
  rw [IsUsableName, String.toList_append, ← List.cons_append, Text.replacementParts,
    List.length_append, replacementPartsWithin_append hfront, exists_map_eq_ok_iff]
  rfl

/-- A name without a backslash is usable. -/
theorem isUsableName_of_not_mem {name : String} (h : '\\' ∉ name.toList) : IsUsableName name :=
  ⟨_, replacementPartsWithin_of_not_mem h (Nat.le_refl _)⟩

/-- Binds are renamed into the namespace of an invocation exactly if all their names are usable. -/
theorem exists_rebindInto_iff (index : Nat) (sql : String) (done : Binds)
    (binds : List (String × Value)) :
    (∃ moved, rebindInto (invocationSpace index) sql done binds = .ok moved) ↔
      ∀ name ∈ KeyedList.keys binds, IsUsableName name := by
  induction binds generalizing sql done with
  | nil => simp [rebindInto]
  | cons bind rest ih =>
    obtain ⟨name, v⟩ := bind
    have hfirst : (∃ renamed, renamePlaceholder name (invocationSpace index ++ name) sql =
        .ok renamed) ↔ IsUsableName name := by
      rw [renamePlaceholder, exists_bind_eq_ok_iff, ← exists_replacementParts_iff index]
      constructor
      · rintro ⟨parts, hparts, -⟩
        exact ⟨parts, hparts⟩
      · rintro ⟨parts, hparts⟩
        exact ⟨parts, hparts, _, rfl⟩
    rw [rebindInto, exists_bind_eq_ok_iff]
    simp only [ih, KeyedList.keys_cons, List.forall_mem_cons, ← hfirst, exists_and_right]

/-- Renamed binds stand in the namespace that they are renamed into. -/
theorem mem_keys_of_rebindInto {space sql : String} {done : Binds} {binds : List (String × Value)}
    {moved : String × Binds} (h : rebindInto space sql done binds = .ok moved) {name : String}
    (hname : name ∈ moved.2.keys) : name ∈ done.keys ∨ ∃ n, name = space ++ n := by
  induction binds generalizing sql done with
  | nil =>
    obtain rfl : (sql, done) = moved := by simpa [rebindInto] using h
    exact Or.inl hname
  | cons bind rest ih =>
    obtain ⟨old, v⟩ := bind
    rw [rebindInto, bind_eq_ok_iff] at h
    obtain ⟨renamed, -, hrest⟩ := h
    rcases ih hrest with hput | hspace
    · rw [KeyedList.keys_put] at hput
      split at hput
      · exact Or.inl hput
      · rw [List.mem_append, List.mem_singleton] at hput
        exact hput.imp_right fun hname => ⟨old, hname⟩
    · exact Or.inr hspace

namespace Resource

variable {r : Resource}

/-! ## Names in the condition -/

/-- A name in the condition of an invocation stands in its namespace. -/
theorem mem_keys_scopeCondition {index : Nat} {name : String} {argument : Option String}
    {c : Condition} (h : r.scopeCondition index name argument = .ok c) {bind : String}
    (hbind : bind ∈ c.binds.keys) : ∃ n, bind = invocationSpace index ++ n := by
  rw [scopeCondition_eq] at h
  cases hscope : r.scopes.find? name with
  | none => simp [hscope] at h
  | some scope =>
    rw [hscope] at h
    dsimp only at h
    cases hresult : scope argument with
    | error f => simp [hresult, applied] at h
    | ok given =>
      rw [hresult, applied] at h
      cases hmoved : rebind (invocationSpace index) given.sql given.binds with
      | error e => simp [hmoved] at h
      | ok moved =>
        obtain rfl : { sql := moved.1, binds := moved.2 } = c := by simpa [hmoved] using h
        exact (mem_keys_of_rebindInto hmoved hbind).resolve_left (by simp)

/-- The binds of invocations all have names in a namespace. -/
theorem mem_keys_scopeConditions {index : Nat} {invocations : List (String × Option String)}
    {cs : List Condition} (h : r.scopeConditions index invocations = .ok cs) {c : Condition}
    (hc : c ∈ cs) {bind : String} (hbind : bind ∈ c.binds.keys) :
    ∃ i n, bind = invocationSpace i ++ n := by
  induction invocations generalizing index cs with
  | nil =>
    obtain rfl : [] = cs := by simpa [scopeConditions] using h
    simp at hc
  | cons invocation rest ih =>
    rw [scopeConditions, bind_eq_ok_iff] at h
    obtain ⟨first, hfirst, hrest⟩ := h
    rw [bind_eq_ok_iff] at hrest
    obtain ⟨cs', hcs', hcons⟩ := hrest
    obtain rfl : first :: cs' = cs := by simpa [pure, Except.pure] using hcons
    rcases List.mem_cons.mp hc with rfl | hc
    · exact ⟨index, mem_keys_scopeCondition hfirst hbind⟩
    · exact ih hcs' hc

end Resource

/-- A name in the keyword condition is the name of a pattern. -/
theorem mem_keys_keywordCondition {table : String} {dialect : Dialect} {f : KeywordFilter}
    {c : Condition} (hc : c ∈ keywordCondition table dialect f) {bind : String}
    (hbind : bind ∈ c.binds.keys) : ∃ i, bind = keywordPlaceholder i := by
  rw [keywordCondition] at hc
  split at hc
  · simp at hc
  · obtain rfl := List.mem_singleton.mp hc
    rw [KeyedList.ofPairs_of_nodup (keywordBinds_nodup f), keys_keywordBinds] at hbind
    obtain ⟨i, -, rfl⟩ := List.mem_map.mp hbind
    exact ⟨i, rfl⟩

/-- A name in binds that those of conditions are put into is there, or in one of the conditions. -/
theorem mem_keys_foldl_putAll {cs : List Condition} {binds : Binds} {bind : String}
    (hbind : bind ∈ KeyedList.keys (cs.foldl (fun binds c => binds.putAll c.binds) binds)) :
    bind ∈ binds.keys ∨ ∃ c ∈ cs, bind ∈ c.binds.keys := by
  induction cs generalizing binds with
  | nil => exact Or.inl hbind
  | cons c rest ih =>
    rcases ih hbind with hfirst | ⟨d, hd, hbind⟩
    · obtain ⟨p, hp, rfl⟩ := List.mem_map.mp hfirst
      rcases KeyedList.mem_putAll hp with hp | hp
      · exact Or.inl (List.mem_map_of_mem hp)
      · exact Or.inr ⟨c, List.mem_cons_self, List.mem_map_of_mem hp⟩
    · exact Or.inr ⟨d, List.mem_cons_of_mem c hd, hbind⟩

/-- A name in joined conditions is a name in one of them. -/
theorem mem_keys_joinConditions {cs : List Condition} {bind : String}
    (hbind : bind ∈ (joinConditions cs).binds.keys) : ∃ c ∈ cs, bind ∈ c.binds.keys :=
  (mem_keys_foldl_putAll hbind).resolve_left (by simp)

namespace Resource

variable {r : Resource} {result : SearchResult} {dialect : Dialect} {c : Condition}

/-- A name in a condition is the name of a pattern or stands in the namespace of an invocation. -/
theorem mem_keys_whereClause (h : r.whereClause result dialect = .ok c) {bind : String}
    (hbind : bind ∈ c.binds.keys) :
    (∃ i, bind = keywordPlaceholder i) ∨ ∃ i n, bind = invocationSpace i ++ n := by
  rw [whereClause_eq, map_eq_ok_iff] at h
  obtain ⟨cs, hcs, rfl⟩ := h
  obtain ⟨d, hd, hbind⟩ := mem_keys_joinConditions hbind
  rcases List.mem_append.mp hd with hd | hd
  · exact Or.inl (mem_keys_keywordCondition hd hbind)
  · exact Or.inr (mem_keys_scopeConditions hcs hd hbind)

/-- The names of the page are none of those in a condition. -/
theorem disjoint_whereClause_pageBinds (h : r.whereClause result dialect = .ok c)
    (limit : Option Int) (offset : Int) :
    List.Disjoint c.binds.keys (KeyedList.keys (pageBinds limit offset)) := by
  intro bind hbind hpage
  have hletter : bind.toList.head? = some 's' := by
    rcases mem_keys_whereClause h hbind with ⟨i, rfl⟩ | ⟨i, n, rfl⟩
    · rw [toList_keywordPlaceholder]
      rfl
    · rw [String.toList_append, toList_invocationSpace]
      rfl
  cases limit with
  | none => simp [pageBinds] at hpage
  | some n =>
    obtain rfl | rfl : bind = "limit" ∨ bind = "offset" := by simpa [pageBinds] using hpage
    · cases hletter
    · cases hletter

/-- A statement has the binds of its condition, and those of its page behind them. -/
theorem statement_binds {limit : Option Int} {offset : Int}
    (h : List.Disjoint c.binds.keys (KeyedList.keys (pageBinds limit offset))) :
    (r.statement c dialect limit offset).binds = c.binds ++ pageBinds limit offset := by
  change c.binds.putAll (pageBinds limit offset) = _
  cases limit with
  | none => exact (List.append_nil c.binds).symm
  | some n =>
    simp only [pageBinds, KeyedList.keys_cons, KeyedList.keys_nil, List.disjoint_cons_right] at h
    have hoffset : "offset" ∉ (c.binds ++ [("limit", Value.int n)]).keys := by
      simpa using h.2.1
    rw [pageBinds, KeyedList.putAll_cons, KeyedList.putAll_cons,
      KeyedList.put_of_not_mem h.1, KeyedList.put_of_not_mem hoffset, List.append_assoc]
    rfl

end Resource

end ScopeSearch
