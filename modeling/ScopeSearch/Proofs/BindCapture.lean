import ScopeSearch.Proofs.KeywordCondition
import ScopeSearch.Proofs.Renaming

/-!
# Joined conditions do not capture binds

The condition of a search is made of conditions that know nothing of each other and may use the same
names.  Each is moved into a namespace of its own, which changes none of what it says, and the names
of all namespaces and of the keyword patterns differ.  So the joined condition says that all of them
hold: every placeholder has the value that its own condition gave it.
-/

set_option autoImplicit false

namespace ScopeSearch

/-- The condition that the invocation of a scope gives, if it gives one. -/
def Resource.invoke (r : Resource) (invocation : String × Option String) : Option Condition :=
  (r.scopes.find? invocation.1).bind fun scope => (scope invocation.2).toOption

/-- A condition of a scope binds its own placeholders, under names that are words and that do not
begin like a namespace. -/
structure Condition.IsWellBound (c : Condition) : Prop extends c.IsClosed where
  isName : ∀ name ∈ c.binds.keys, IsName name.toList
  unreserved : ∀ name ∈ c.binds.keys, ¬ spaceWord <+: name.toList

/-! ## Moved conditions -/

/-- A condition is what another one becomes when it is moved into a namespace. -/
structure Condition.IsMoved (space : String) (c moved : Condition) : Prop where
  binds : moved.binds = c.binds.map fun b => (space ++ b.1, b.2)
  pieces : pieces moved.sql = (ScopeSearch.pieces c.sql).map (Piece.moveInto space c.binds.keys)

namespace Condition

/-- The binds of a moved condition have the names of the namespace, in the same order. -/
theorem IsMoved.keys_eq {space : String} {c moved : Condition} (h : IsMoved space c moved) :
    moved.binds.keys = c.binds.keys.map (space ++ ·) := by
  rw [h.binds, keys_moved]

/-- A placeholder of a closed condition is moved, whatever it is called. -/
theorem IsClosed.moveInto_placeholder {c : Condition} (hc : c.IsClosed) (space : String)
    {n : List Char} (h : Piece.placeholder n ∈ ScopeSearch.pieces c.sql) :
    String.ofList n ∈ c.binds.keys ∧
      Piece.moveInto space c.binds.keys (.placeholder n) =
        .placeholder (space ++ String.ofList n).toList := by
  have hbound := hc.bound _ (List.mem_filterMap.mpr ⟨_, h, rfl⟩)
  refine ⟨hbound, ?_⟩
  rw [Piece.moveInto, if_pos hbound, String.toList_append, String.toList_ofList]

/-- A closed condition is closed wherever it is moved. -/
theorem IsMoved.isClosed {space : String} {c moved : Condition} (h : IsMoved space c moved)
    (hc : c.IsClosed) : moved.IsClosed := by
  refine ⟨?_, ?_⟩
  · rw [h.binds]
    exact nodup_keys_moved space hc.nodup
  · intro name hname
    rw [placeholders, h.pieces, List.mem_filterMap] at hname
    obtain ⟨_, hmoved, hname⟩ := hname
    obtain ⟨piece, hpiece, rfl⟩ := List.mem_map.mp hmoved
    cases piece with
    | character d => cases hname
    | placeholder n =>
      obtain ⟨hbound, hmoved⟩ := hc.moveInto_placeholder space hpiece
      rw [hmoved, Piece.name?, String.ofList_toList, Option.some.injEq] at hname
      rw [h.keys_eq, ← hname]
      exact List.mem_map_of_mem hbound

/-- A closed condition says the same wherever it is moved. -/
theorem IsMoved.resolved_eq {space : String} {c moved : Condition} (h : IsMoved space c moved)
    (hc : c.IsClosed) : moved.resolved = c.resolved := by
  rw [resolved, resolved, resolve, resolve, h.pieces, List.map_map, h.binds]
  apply List.map_congr_left
  intro piece hpiece
  cases piece with
  | character d => rfl
  | placeholder n =>
    have hfind := KeyedList.find?_map_key (f := (space ++ ·))
      (fun a b hab => (String.append_right_inj space).mp hab) (String.ofList n) c.binds
    rw [Function.comp_apply, (hc.moveInto_placeholder space hpiece).2, Piece.resolve, Piece.resolve,
      String.ofList_toList, hfind]

/-- The names of a well-bound condition can be moved into the namespace of any invocation: what is
moved begins like a namespace then, and no name that is still to be moved does. -/
theorem IsWellBound.canMoveInto {c : Condition} (hc : c.IsWellBound) (index : Nat) :
    CanMoveInto (invocationSpace index) c.binds.keys := by
  refine ⟨hc.isName, hc.nodup, ?_⟩
  apply List.pairwise_of_forall_mem_list
  rintro earlier - later hlater rfl
  apply hc.unreserved _ hlater
  rw [String.toList_append, toList_invocationSpace, List.append_assoc]
  exact List.prefix_append _ _

end Condition

/-- An invocation that gives a well-bound condition moves it into its namespace. -/
theorem scopeCondition_spec {r : Resource} (index : Nat) {invocation : String × Option String}
    {c : Condition} (h : r.invoke invocation = some c) (hc : c.IsWellBound) :
    ∃ moved, r.scopeCondition index invocation.1 invocation.2 = .ok moved ∧
      c.IsMoved (invocationSpace index) moved := by
  obtain ⟨scope, hscope, hcondition⟩ := Option.bind_eq_some_iff.mp h
  have hok : scope invocation.2 = .ok c := by
    cases happlied : scope invocation.2 with
    | error e => simp [happlied, Except.toOption] at hcondition
    | ok c' => simpa [happlied, Except.toOption] using hcondition
  obtain ⟨sql, hrebind, hpieces⟩ := rebind_spec (fun _ => isWord_of_mem_invocationSpace) c.sql
    (hc.canMoveInto index)
  refine ⟨{ sql, binds := c.binds.map fun b => (invocationSpace index ++ b.1, b.2) }, ?_,
    ⟨rfl, hpieces⟩⟩
  rw [Resource.scopeCondition, hscope]
  simp only [hok, hrebind]

/-- Conditions are moved one after the other into the namespaces of the numbers from an index on. -/
inductive AreMoved : Nat → List Condition → List Condition → Prop
  | nil (index : Nat) : AreMoved index [] []
  | cons {index : Nat} {c moved : Condition} {cs rest : List Condition}
    (head : c.IsMoved (invocationSpace index) moved) (tail : AreMoved (index + 1) cs rest) :
    AreMoved index (c :: cs) (moved :: rest)

/-- Invocations that give well-bound conditions move them into their namespaces. -/
theorem scopeConditions_spec {r : Resource} (index : Nat)
    {invocations : List (String × Option String)} {cs : List Condition}
    (h : invocations.map r.invoke = cs.map some) (hcs : ∀ c ∈ cs, c.IsWellBound) :
    ∃ moved, r.scopeConditions index invocations = .ok moved ∧ AreMoved index cs moved := by
  induction invocations generalizing index cs with
  | nil =>
    obtain rfl : cs = [] := by simpa using h.symm
    exact ⟨[], rfl, .nil index⟩
  | cons invocation rest ih =>
    cases cs with
    | nil => simp at h
    | cons c cs =>
      rw [List.map_cons, List.map_cons, List.cons.injEq] at h
      rw [List.forall_mem_cons] at hcs
      obtain ⟨first, hfirst, hmoved⟩ := scopeCondition_spec index h.1 hcs.1
      obtain ⟨others, hothers, hrest⟩ := ih (index + 1) h.2 hcs.2
      refine ⟨first :: others, ?_, .cons hmoved hrest⟩
      rw [Resource.scopeConditions, hfirst]
      simp only [bind, Except.bind, hothers, pure, Except.pure]

namespace AreMoved

variable {index : Nat} {cs moved : List Condition}

/-- Moved conditions bind all their placeholders if they did before. -/
theorem isClosed (h : AreMoved index cs moved) (hcs : ∀ c ∈ cs, c.IsClosed) :
    ∀ c ∈ moved, c.IsClosed := by
  induction h with
  | nil index => simp
  | cons head tail ih =>
    rw [List.forall_mem_cons] at hcs ⊢
    exact ⟨head.isClosed hcs.1, ih hcs.2⟩

/-- Moved conditions say the same. -/
theorem resolved_eq (h : AreMoved index cs moved) (hcs : ∀ c ∈ cs, c.IsClosed) :
    moved.map Condition.resolved = cs.map Condition.resolved := by
  induction h with
  | nil index => rfl
  | cons head tail ih =>
    rw [List.forall_mem_cons] at hcs
    rw [List.map_cons, List.map_cons, head.resolved_eq hcs.1, ih hcs.2]

/-- No bind is lost. -/
theorem length_binds (h : AreMoved index cs moved) :
    (moved.flatMap Condition.binds).length = (cs.flatMap Condition.binds).length := by
  induction h with
  | nil index => rfl
  | cons head tail ih => simp [head.binds, ih]

/-- Every name is in the namespace of some number from the index on. -/
theorem exists_space (h : AreMoved index cs moved) {name : String}
    (hname : name ∈ KeyedList.keys (moved.flatMap Condition.binds)) :
    ∃ i n, index ≤ i ∧ name = invocationSpace i ++ n := by
  induction h with
  | nil index => simp at hname
  | cons head tail ih =>
    rw [List.flatMap_cons, KeyedList.keys_append, List.mem_append, head.keys_eq] at hname
    rcases hname with hname | hname
    · obtain ⟨n, -, rfl⟩ := List.mem_map.mp hname
      exact ⟨_, n, Nat.le_refl _, rfl⟩
    · obtain ⟨i, n, hi, rfl⟩ := ih hname
      exact ⟨i, n, by omega, rfl⟩

/-- The names of different invocations differ. -/
theorem nodup (h : AreMoved index cs moved) (hcs : ∀ c ∈ cs, c.IsClosed) :
    (KeyedList.keys (moved.flatMap Condition.binds)).Nodup := by
  induction h with
  | nil index => simp
  | cons head tail ih =>
    rw [List.forall_mem_cons] at hcs
    rw [List.flatMap_cons, KeyedList.keys_append, List.nodup_append]
    refine ⟨(head.isClosed hcs.1).nodup, ih hcs.2, ?_⟩
    -- A name of both would be in the namespaces of two numbers.
    rintro a ha b hb rfl
    rw [head.keys_eq] at ha
    obtain ⟨n, -, rfl⟩ := List.mem_map.mp ha
    obtain ⟨i, m, hi, hname⟩ := tail.exists_space hb
    have hindex := (invocationSpace_append_inj hname).1
    omega

end AreMoved

/-! ## The whole condition -/

/-- On a table and attributes without colons, in a dialect that quotes them without one, a result
whose invocations all give well-bound conditions has a condition.  Every placeholder in it is bound,
every name is bound once, and there are as many binds as patterns and binds of the invocations
together.  With its values in place it is the conjunction of the keyword filter and of the
conditions of the invocations, each with its own values in place. -/
theorem conditions_join_without_capture (r : Resource) {dialect : Dialect}
    (hquote : dialect.AddsNoColon) {result : SearchResult} (hresult : result.IsInterpretation)
    {conditions : List Condition}
    (hinvoked : result.scopeInvocations.map r.invoke = conditions.map some)
    (hbound : ∀ c ∈ conditions, c.IsWellBound) (htable : ':' ∉ r.table.toList)
    (hattributes : ∀ a ∈ result.filter.attributes, ':' ∉ a.toList) :
    ∃ whole, r.whereClause result dialect = .ok whole ∧ whole.binds.keys.Nodup ∧
      (∀ name ∈ placeholders whole.sql, name ∈ whole.binds.keys) ∧
      resolve whole.binds whole.sql =
        conjunction (keywordMeaning r.table dialect result.filter ++
          conditions.map fun c => resolve c.binds c.sql) ∧
      whole.binds.length =
        result.filter.parameters.length + (conditions.flatMap Condition.binds).length := by
  obtain ⟨moved, hmoved, hmove⟩ := scopeConditions_spec 0 hinvoked hbound
  have hclosed : ∀ c ∈ conditions, c.IsClosed := fun c hc => (hbound c hc).toIsClosed
  obtain ⟨hkeyword, hmeaning, hpatterns⟩ :=
    keywordCondition_spec hresult hquote htable hattributes
  have hnames : (KeyedList.keys ((keywordCondition r.table dialect result.filter ++ moved).flatMap
      Condition.binds)).Nodup := by
    rw [List.flatMap_append, hpatterns, KeyedList.keys_append, List.nodup_append]
    refine ⟨keywordBinds_nodup _, hmove.nodup hclosed, ?_⟩
    rintro a ha b hb rfl
    rw [keys_keywordBinds] at ha
    obtain ⟨i, -, rfl⟩ := List.mem_map.mp ha
    obtain ⟨j, n, -, hname⟩ := hmove.exists_space hb
    exact keywordPlaceholder_ne i j n hname
  have hall : ∀ c ∈ keywordCondition r.table dialect result.filter ++ moved, c.IsClosed :=
    List.forall_mem_append.mpr ⟨hkeyword, hmove.isClosed hclosed⟩
  obtain ⟨hwhole, hresolved⟩ := joinConditions_resolved hall hnames
  refine ⟨_, ?_, hwhole.nodup, hwhole.bound, ?_, ?_⟩
  · rw [Resource.whereClause, hmoved]
    rfl
  · rw [← Condition.resolved, hresolved, List.map_append, hmeaning, hmove.resolved_eq hclosed]
    rfl
  · rw [joinConditions_binds hnames, List.flatMap_append, hpatterns, List.length_append,
      hmove.length_binds, keywordBinds, List.length_mapIdx]

/-- A scope that is invoked twice, with one name a part of the other, keeps the values of both
invocations. -/
theorem scope_invoked_twice_keeps_its_values :
    let sql := "kind = :value OR note::value = :value_2"
    let r : Resource :=
      { table := "customers"
        scopes := [("kind", ScopeTemplate.toScope
          { sql, binds := some [("value_2", .int 1)], parameter := some "value" })] }
    let c (argument : String) : Condition :=
      { sql, binds := [("value_2", .int 1), ("value", .text argument)] }
    let result := SearchResult.parse (some "Ann kind:gold kind:vip") (· == "kind") .unrestricted
      ["name", "note"] none
    ∃ whole, r.whereClause result .sqlite = .ok whole ∧ whole.binds.length = 6 ∧
      resolve whole.binds whole.sql =
        conjunction (keywordMeaning r.table .sqlite result.filter ++
          [resolve (c "gold").binds sql, resolve (c "vip").binds sql]) := by
  intro sql r c result
  have hinvocations : result.scopeInvocations = [("kind", some "gold"), ("kind", some "vip")] := by
    decide +kernel
  have hinvoked : result.scopeInvocations.map r.invoke = [c "gold", c "vip"].map some := by
    rw [hinvocations]
    rfl
  have hbound (argument : String) : (c argument).IsWellBound := by
    have hplaceholders : placeholders sql = ["value", "value_2"] := by decide +kernel
    have hkeys : (c argument).binds.keys = ["value_2", "value"] := rfl
    have hnames : ∀ name ∈ ["value_2", "value"], name.toList ≠ [] ∧
        name.toList.all Text.isWord = true ∧ ¬ spaceWord <+: name.toList := by
      decide +kernel
    refine ⟨⟨by simp [hkeys], ?_⟩, ?_, ?_⟩
    · intro name hname
      rw [hplaceholders] at hname
      rw [hkeys]
      simpa [or_comm] using hname
    · intro name hname
      rw [hkeys] at hname
      obtain ⟨hne, hword, -⟩ := hnames name hname
      exact ⟨hne, List.all_eq_true.mp hword⟩
    · intro name hname
      rw [hkeys] at hname
      exact (hnames name hname).2.2
  obtain ⟨whole, hwhole, -, -, hresolved, hlength⟩ :=
    conditions_join_without_capture r Dialect.addsNoColon_sqlite ⟨_, _, _, _, _, rfl⟩ hinvoked
      (by simp [hbound]) (by decide +kernel) (by decide +kernel)
  exact ⟨whole, hwhole, hlength, hresolved⟩

end ScopeSearch
