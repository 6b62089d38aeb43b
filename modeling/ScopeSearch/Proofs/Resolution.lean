import ScopeSearch.Proofs.KeyedList
import ScopeSearch.Proofs.List
import ScopeSearch.Proofs.Placeholder
import ScopeSearch.Resource

/-!
# What a condition says once its placeholders are resolved

A condition means its text with the bound values in place of its placeholders.  Conditions are
joined with separators that keep their placeholders apart, so the pieces of the whole are those of
the parts.  When moreover every part is bound by its own binds, and the names of all binds differ,
the whole means the conjunction of what its parts mean.
-/

set_option autoImplicit false

namespace ScopeSearch

/-- A piece of a condition whose placeholders are resolved; a placeholder without a bind has no
value. -/
inductive ResolvedPiece where
  | character (c : Char)
  | value (v : Option Value)

/-- A text whose placeholders are resolved. -/
abbrev ResolvedText := List ResolvedPiece

/-- What a piece amounts to under some binds. -/
def Piece.resolve (binds : Binds) : Piece → ResolvedPiece
  | character c => .character c
  | placeholder n => .value (binds.find? (String.ofList n))

/-- A text with the values of binds in place of its placeholders. -/
def resolve (binds : Binds) (sql : String) : ResolvedText :=
  (pieces sql).map (Piece.resolve binds)

/-- A text without placeholders. -/
def verbatim (s : String) : ResolvedText :=
  s.toList.map .character

/-- Resolved texts in parentheses, of which all have to hold. -/
def conjunction (parts : List ResolvedText) : ResolvedText :=
  (verbatim " AND ").intercalate (parts.map fun part => verbatim "(" ++ part ++ verbatim ")")

namespace Condition

/-- A condition with its own binds in place of its placeholders. -/
def resolved (c : Condition) : ResolvedText :=
  resolve c.binds c.sql

/-- A condition binds all its placeholders, each name once. -/
structure IsClosed (c : Condition) : Prop where
  nodup : c.binds.keys.Nodup
  bound : ∀ name ∈ placeholders c.sql, name ∈ c.binds.keys

end Condition

/-! ## Joined texts -/

/-- A character that is neither a colon nor part of a word. -/
structure IsApart (c : Char) : Prop where
  ne_colon : c ≠ ':'
  not_word : Text.isWord c = false

/-- A text without colons that begins and ends apart from words. -/
def IsSeparator (sep : String) : Prop :=
  ∃ first middle last, sep.toList = first :: (middle ++ [last]) ∧ IsApart first ∧
    ':' ∉ middle ∧ IsApart last

/-- A blank keeps names apart. -/
theorem isApart_space : IsApart ' ' :=
  ⟨by decide, by decide +kernel⟩

/-- The word between conditions that all have to hold separates them. -/
theorem isSeparator_and : IsSeparator " AND " :=
  ⟨' ', ['A', 'N', 'D'], ' ', by decide +kernel, isApart_space, by decide, isApart_space⟩

/-- The word between conditions of which one has to hold separates them. -/
theorem isSeparator_or : IsSeparator " OR " :=
  ⟨' ', ['O', 'R'], ' ', by decide +kernel, isApart_space, by decide, isApart_space⟩

namespace IsSeparator

variable {sep : String}

/-- The pieces of texts around a separator are theirs and the separator. -/
theorem pieces_intercalate (h : IsSeparator sep) (parts : List String) :
    pieces (sep.intercalate parts) =
      (sep.toList.map .character).intercalate (parts.map pieces) := by
  obtain ⟨first, middle, last, htext, hfirst, hmiddle, hlast⟩ := h
  rw [pieces, String.toList_intercalate, htext]
  induction parts with
  | nil => simp [piecesFrom]
  | cons part rest ih =>
    cases rest with
    | nil => simp [pieces]
    | cons next rest =>
      have hrest (s : List Char) : piecesFrom none 0 (middle ++ last :: s) =
          middle.map .character ++ .character last :: piecesFrom none 0 s := by
        rw [piecesFrom_append_cons none middle s hlast.ne_colon hlast.not_word,
          piecesFrom_of_no_colon none hmiddle]
      simp only [List.map_cons] at ih ⊢
      rw [List.intercalate_cons_cons, List.append_assoc, List.cons_append, List.append_assoc,
        List.singleton_append,
        piecesFrom_append_cons none part.toList _ hfirst.ne_colon hfirst.not_word, hrest, ih,
        List.intercalate_cons_cons]
      simp [pieces]

/-- Texts around a separator are resolved one by one. -/
theorem resolve_intercalate (h : IsSeparator sep) (binds : Binds) (parts : List String) :
    resolve binds (sep.intercalate parts) =
      (verbatim sep).intercalate (parts.map (resolve binds)) := by
  rw [resolve, h.pieces_intercalate, map_intercalate, List.map_map, List.map_map]
  rfl

/-- A separator holds no placeholders. -/
theorem placeholders_intercalate (h : IsSeparator sep) (parts : List String) :
    placeholders (sep.intercalate parts) = parts.flatMap placeholders := by
  rw [placeholders, h.pieces_intercalate, filterMap_intercalate _ (by simp [Piece.name?]),
    List.flatMap_map]
  rfl

end IsSeparator

/-- The pieces of a text in parentheses are its own, in parentheses. -/
theorem pieces_parenthesized (sql : String) :
    pieces ("(" ++ sql ++ ")") = .character '(' :: (pieces sql ++ [.character ')']) := by
  have hopen := piecesFrom_append_cons none [] (c := '(') (sql.toList ++ [')']) (by decide)
    (by decide +kernel)
  have hclose := piecesFrom_append_cons none sql.toList (c := ')') [] (by decide)
    (by decide +kernel)
  have htext : ("(" ++ sql ++ ")").toList = [] ++ '(' :: (sql.toList ++ [')']) := by
    simp
  rw [pieces, htext, hopen, hclose, pieces]
  simp [piecesFrom]

/-- Joined conditions are resolved part by part. -/
theorem resolve_joinConditions (binds : Binds) (cs : List Condition) :
    resolve binds (joinConditions cs).sql = conjunction (cs.map fun c => resolve binds c.sql) := by
  have hpart (sql : String) :
      resolve binds ("(" ++ sql ++ ")") = verbatim "(" ++ resolve binds sql ++ verbatim ")" := by
    simp [resolve, pieces_parenthesized, verbatim, Piece.resolve]
  rw [joinConditions, isSeparator_and.resolve_intercalate, conjunction, List.map_map,
    List.map_map]
  simp only [Function.comp_def, hpart]

/-- The placeholders of joined conditions are those of the conditions. -/
theorem placeholders_joinConditions (cs : List Condition) :
    placeholders (joinConditions cs).sql = cs.flatMap fun c => placeholders c.sql := by
  have hpart (sql : String) : placeholders ("(" ++ sql ++ ")") = placeholders sql := by
    simp [placeholders, pieces_parenthesized, Piece.name?, List.filterMap_cons]
  rw [joinConditions, isSeparator_and.placeholders_intercalate, List.flatMap_map]
  simp only [hpart]

/-! ## Joined binds -/

/-- The binds of conditions whose names all differ are put behind each other. -/
theorem joinConditions_binds {cs : List Condition}
    (h : (KeyedList.keys (cs.flatMap Condition.binds)).Nodup) :
    (joinConditions cs).binds = cs.flatMap Condition.binds := by
  have hfold (done : Binds)
      (hdone : (KeyedList.keys (done ++ cs.flatMap Condition.binds)).Nodup) :
      cs.foldl (fun binds c => binds.putAll c.binds) done =
        done ++ cs.flatMap Condition.binds := by
    clear h
    induction cs generalizing done with
    | nil => simp
    | cons c rest ih =>
      rw [List.flatMap_cons, ← List.append_assoc] at hdone
      have hput : KeyedList.putAll done c.binds = done ++ c.binds := by
        apply KeyedList.putAll_of_nodup
        rw [KeyedList.keys_append, KeyedList.keys_append] at hdone
        exact (List.nodup_append.mp hdone).1
      rw [List.foldl_cons, hput, ih _ hdone, List.flatMap_cons, List.append_assoc]
  exact hfold [] h

/-- A closed condition says the same under more binds, as long as no name has two. -/
theorem Condition.IsClosed.resolve_eq {c : Condition} (hc : c.IsClosed) {binds : Binds}
    (hbinds : binds.keys.Nodup) (hsub : c.binds ⊆ binds) : resolve binds c.sql = c.resolved := by
  unfold Condition.resolved resolve
  apply List.map_congr_left
  intro piece hpiece
  cases piece with
  | character d => rfl
  | placeholder n =>
    have hname : String.ofList n ∈ placeholders c.sql :=
      List.mem_filterMap.mpr ⟨_, hpiece, rfl⟩
    obtain ⟨⟨_, v⟩, hbind, rfl⟩ := List.mem_map.mp (hc.bound _ hname)
    rw [Piece.resolve, Piece.resolve, KeyedList.find?_of_mem hbinds (hsub hbind),
      KeyedList.find?_of_mem hc.nodup hbind]

/-- Closed conditions with different names join to a closed condition, which says that all of them
hold. -/
theorem joinConditions_resolved {cs : List Condition} (hcs : ∀ c ∈ cs, c.IsClosed)
    (hnames : (KeyedList.keys (cs.flatMap Condition.binds)).Nodup) :
    (joinConditions cs).IsClosed ∧
      (joinConditions cs).resolved = conjunction (cs.map Condition.resolved) := by
  have hbinds := joinConditions_binds hnames
  have hsub {c : Condition} (hc : c ∈ cs) : c.binds ⊆ cs.flatMap Condition.binds :=
    fun b hb => List.mem_flatMap.mpr ⟨c, hc, hb⟩
  refine ⟨⟨by rwa [hbinds], ?_⟩, ?_⟩
  · intro name hname
    rw [placeholders_joinConditions, List.mem_flatMap] at hname
    obtain ⟨c, hc, hname⟩ := hname
    rw [hbinds]
    exact List.map_subset Prod.fst (hsub hc) ((hcs c hc).bound name hname)
  · rw [Condition.resolved, hbinds, resolve_joinConditions]
    congr 1
    exact List.map_congr_left fun c hc => (hcs c hc).resolve_eq hnames (hsub hc)

end ScopeSearch
