import ScopeSearch.Proofs.Reference

/-!
# When renaming one bind after the other is one renaming

The binds of a condition are moved into a namespace in their order, each in the text that the one
before left behind.  That the references to all of them move at a time needs one thing of the names:
none of them is what an earlier one has moved to.

* If there is no such name, every piece of a condition goes through one renaming at most.
* If there is one, the condition that refers to the earlier name alone tells the two apart.  Its
  reference moves, is taken for one to the later name and moves again; a name never gets shorter, so
  it does not come back to what the first move made of it.
-/

set_option autoImplicit false

namespace ScopeSearch

/-- A condition in which all references to given names move into a namespace at a time, and all else
stays. -/
def withReferencesMoved (space : String) (names : List String) (sql : String) : String :=
  String.ofList ((pieces sql).flatMap fun p => (p.moveInto space names).text)

/-- The pieces of a text, one behind the other, are the text. -/
theorem ofList_text_pieces (sql : String) :
    String.ofList ((pieces sql).flatMap Piece.text) = sql := by
  rw [pieces, flatMap_text_piecesFrom, String.ofList_toList]

/-- A condition that is one reference. -/
theorem pieces_reference {name : String} (h : IsName name.toList) :
    pieces (":" ++ name) = [.placeholder name.toList] := by
  have htext : (":" ++ name).toList = ':' :: (name.toList ++ []) := by
    rw [String.toList_append, List.append_nil]
    rfl
  rw [pieces, htext, piecesFrom_placeholder (by simp) h (by simp [EndsWord])]
  rfl

section Captured

variable {space : String} {names : List String}

/-- A placeholder moves at the turn of its own name. -/
theorem moveEach_cons_self (name : String) (rest : List String) :
    (Piece.placeholder name.toList).moveEach space (name :: rest) =
      (Piece.placeholder (space ++ name).toList).moveEach space rest := by
  rw [moveEach_cons, Piece.rename, if_pos rfl]

/-- A placeholder stays at the turn of another name. -/
theorem moveEach_cons_of_ne {name : String} {n : List Char} (hn : n ≠ name.toList)
    (rest : List String) :
    (Piece.placeholder n).moveEach space (name :: rest) =
      (Piece.placeholder n).moveEach space rest := by
  rw [moveEach_cons, Piece.rename, if_neg hn]

/-- Moving names one after the other does not shorten the name of a reference, and lengthens it if
it is one of them. -/
theorem moveEach_placeholder (hspace : space.toList ≠ []) (names : List String) (n : List Char) :
    ∃ m, (Piece.placeholder n).moveEach space names = .placeholder m ∧ n.length ≤ m.length ∧
      (String.ofList n ∈ names → n.length < m.length) := by
  induction names generalizing n with
  | nil => exact ⟨n, rfl, Nat.le_refl _, by simp⟩
  | cons name rest ih =>
    by_cases hn : n = name.toList
    · subst hn
      obtain ⟨m, hm, hlength, -⟩ := ih (space ++ name).toList
      have hpos := List.length_pos_iff.mpr hspace
      rw [String.toList_append, List.length_append] at hlength
      refine ⟨m, ?_, by omega, fun _ => by omega⟩
      rw [moveEach_cons_self, hm]
    · obtain ⟨m, hm, hlength, hlonger⟩ := ih n
      refine ⟨m, ?_, hlength, ?_⟩
      · rw [moveEach_cons_of_ne hn, hm]
      · intro hmem
        apply hlonger
        apply (List.mem_cons.mp hmem).resolve_left
        rintro rfl
        exact hn String.toList_ofList.symm

/-- When a name is what an earlier one moves to, the references to one of the names end up elsewhere
than behind one move. -/
theorem exists_moveEach_ne (hspace : space.toList ≠ []) (hnodup : names.Nodup)
    (hcaptured : ¬ names.Pairwise fun earlier later => later ≠ space ++ earlier) :
    ∃ name ∈ names, (Piece.placeholder name.toList).moveEach space names ≠
      .placeholder (space ++ name).toList := by
  induction names with
  | nil => exact absurd List.Pairwise.nil hcaptured
  | cons name rest ih =>
    rw [List.nodup_cons] at hnodup
    by_cases hhead : space ++ name ∈ rest
    · -- what the first name moves to is still to be moved, so it gets longer
      obtain ⟨m, hm, -, hlonger⟩ := moveEach_placeholder hspace rest (space ++ name).toList
      rw [String.ofList_toList] at hlonger
      refine ⟨name, List.mem_cons_self, ?_⟩
      rw [moveEach_cons_self, hm]
      intro hsame
      rw [Piece.placeholder.inj hsame] at hlonger
      exact Nat.lt_irrefl _ (hlonger hhead)
    · have hrest : ¬ rest.Pairwise fun earlier later => later ≠ space ++ earlier := by
        intro hrest
        apply hcaptured
        rw [List.pairwise_cons]
        refine ⟨?_, hrest⟩
        rintro later hlater rfl
        exact hhead hlater
      obtain ⟨other, hother, hne⟩ := ih hnodup.2 hrest
      have hdiffer : other.toList ≠ name.toList := by
        intro hsame
        exact hnodup.1 (String.toList_inj.mp hsame ▸ hother)
      refine ⟨other, List.mem_cons_of_mem name hother, ?_⟩
      rwa [moveEach_cons_of_ne hdiffer]

end Captured

/-- Moving binds with words for names into a namespace gives every bind its new name, keeps values
and order, and merges no two of them.  It moves the references in every condition at a time exactly
if no bind is called what an earlier one is moved to. -/
theorem rebind_moves_at_a_time_iff {space : String} (hspace : IsName space.toList) {binds : Binds}
    (hnames : ∀ name ∈ binds.keys, IsName name.toList) (hnodup : binds.keys.Nodup) :
    ∃ moved : String → String,
      (∀ sql, rebind space sql binds = .ok (moved sql, binds.map fun b => (space ++ b.1, b.2))) ∧
      (KeyedList.keys (binds.map fun b => (space ++ b.1, b.2))).Nodup ∧
      ((∀ sql, moved sql = withReferencesMoved space binds.keys sql) ↔
        binds.keys.Pairwise fun earlier later => later ≠ space ++ earlier) := by
  have hspec (sql : String) := rebind_moveEach hspace.all_word sql hnames hnodup
  choose moved hmoved hpieces using hspec
  have htext (sql : String) : moved sql =
      String.ofList ((pieces sql).flatMap fun p => (p.moveEach space binds.keys).text) := by
    rw [← ofList_text_pieces (moved sql), hpieces, List.flatMap_map]
  refine ⟨moved, hmoved, nodup_keys_moved space hnodup, ?_, ?_⟩
  · intro hall
    by_contra hcaptured
    obtain ⟨name, hname, hne⟩ := exists_moveEach_ne hspace.ne_nil hnodup hcaptured
    obtain ⟨m, hm, -, -⟩ := moveEach_placeholder hspace.ne_nil binds.keys name.toList
    -- the condition that refers to this name alone
    have hsame := hall (":" ++ name)
    have hinto : (Piece.placeholder name.toList).moveInto space binds.keys =
        .placeholder (space ++ name).toList := by
      rw [Piece.moveInto, String.ofList_toList, if_pos hname, String.toList_append]
    rw [htext, withReferencesMoved, pieces_reference (hnames name hname), String.ofList_inj,
      List.flatMap_singleton, List.flatMap_singleton, hm, hinto] at hsame
    apply hne
    rw [hm, (List.cons.inj hsame).2]
  · intro huncaptured sql
    rw [htext, withReferencesMoved]
    simp only [moveEach_eq_moveInto hnodup huncaptured]

/-- Names of which one begins like another and one is the other behind the namespace: in one order
references move twice, in the other one all at a time. -/
theorem later_name_captures_moved_name :
    let binds : Binds := [("id", .int 1), ("id_2", .int 2), ("scope_0_id", .int 3)]
    (∃ moved : String → String,
      (∀ sql, rebind "scope_0_" sql binds =
        .ok (moved sql, binds.map fun b => ("scope_0_" ++ b.1, b.2))) ∧
      ∃ sql, moved sql ≠ withReferencesMoved "scope_0_" binds.keys sql) ∧
    ∃ moved : String → String,
      (∀ sql, rebind "scope_0_" sql binds.reverse =
        .ok (moved sql, binds.reverse.map fun b => ("scope_0_" ++ b.1, b.2))) ∧
      ∀ sql, moved sql = withReferencesMoved "scope_0_" (KeyedList.keys binds.reverse) sql := by
  intro binds
  have hname : ∀ name ∈ ["scope_0_", "id", "id_2", "scope_0_id"], IsName name.toList := by
    have hword : ∀ name ∈ ["scope_0_", "id", "id_2", "scope_0_id"],
        name.toList ≠ [] ∧ name.toList.all Text.isWord = true := by
      decide +kernel
    intro name hmem
    obtain ⟨hne, hall⟩ := hword name hmem
    exact ⟨hne, List.all_eq_true.mp hall⟩
  obtain ⟨hspace, hnames⟩ := List.forall_mem_cons.mp hname
  have hkeys : ∀ name ∈ binds.keys, IsName name.toList := hnames
  have hkeys' : ∀ name ∈ KeyedList.keys binds.reverse, IsName name.toList := fun name hmem =>
    hnames name (List.mem_reverse.mp hmem)
  obtain ⟨moved, hmoved, -, hiff⟩ := rebind_moves_at_a_time_iff hspace hkeys (by decide)
  obtain ⟨moved', hmoved', -, hiff'⟩ := rebind_moves_at_a_time_iff hspace hkeys' (by decide)
  refine ⟨⟨moved, hmoved, ?_⟩, moved', hmoved', hiff'.mpr (by decide)⟩
  rw [← not_forall, hiff]
  decide

end ScopeSearch
