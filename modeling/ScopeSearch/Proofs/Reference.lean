import ScopeSearch.Proofs.Renaming

/-!
# When a condition refers to a bind

A condition refers to a bind by a single colon, the name, and no word behind it.  The search for
such a place, the replacement at such places and the pieces of a condition agree on where they are:
a place is found exactly if it is a piece.  The texts of all pieces are the condition again, so the
condition in which a bind is renamed is known from its pieces.
-/

set_option autoImplicit false

namespace ScopeSearch

/-- A condition refers to a bind: the name stands behind a single colon and is followed by no
word. -/
def RefersTo (name sql : String) : Prop :=
  ∃ before after, sql.toList = before ++ ':' :: (name.toList ++ after) ∧
    before.getLast? ≠ some ':' ∧ EndsWord after

/-! ## Places of a name -/

/-- A placeholder is met exactly behind a single colon, where its name stands as a whole word. -/
theorem placeholderHere_iff_exists {name : List Char} (hname : IsName name) {p : Option Char}
    {s : List Char} :
    placeholderHere name p s = true ↔
      p ≠ some ':' ∧ ∃ after, s = name ++ after ∧ EndsWord after := by
  by_cases hp : p = some ':'
  · simp [placeholderHere, hp]
  · constructor
    · intro h
      have hprefix : name <+: s := by
        simp only [placeholderHere, Bool.and_eq_true, List.isPrefixOf_iff_prefix] at h
        exact h.1.2
      obtain ⟨after, rfl⟩ := hprefix
      refine ⟨hp, after, rfl, ?_⟩
      -- a word behind the name would be read together with it
      by_contra hends
      obtain ⟨more, rest, rfl, hmore, hrest⟩ := exists_name_of_not_endsWord hends
      have hword : ∀ c ∈ name ++ more, Text.isWord c = true := by
        intro c hc
        obtain hc | hc := List.mem_append.mp hc
        · exact hname.all_word c hc
        · exact hmore.all_word c hc
      rw [← List.append_assoc, placeholderHere_iff hp hname hword hrest] at h
      exact hmore.ne_nil (List.append_right_eq_self.mp h)
    · rintro ⟨-, after, rfl, hends⟩
      exact (placeholderHere_iff hp hname hname.all_word hends).mpr rfl

/-- A text has a placeholder exactly if it can be cut around a single colon and the whole name. -/
theorem hasPlaceholder_iff_exists {name : List Char} (hname : IsName name) (p : Option Char)
    (s : List Char) :
    hasPlaceholder name p s = true ↔ ∃ before after, s = before ++ ':' :: (name ++ after) ∧
      before.getLast?.or p ≠ some ':' ∧ EndsWord after := by
  induction s generalizing p with
  | nil => simp [hasPlaceholder]
  | cons c rest ih =>
    rw [hasPlaceholder, Bool.or_eq_true, Bool.and_eq_true, beq_iff_eq,
      placeholderHere_iff_exists hname, ih]
    constructor
    · rintro (⟨rfl, hp, after, rfl, hends⟩ | ⟨before, after, rfl, hlast, hends⟩)
      · exact ⟨[], after, rfl, hp, hends⟩
      · refine ⟨c :: before, after, rfl, ?_, hends⟩
        rw [List.getLast?_cons]
        cases hbefore : before.getLast? <;> simpa [hbefore] using hlast
    · rintro ⟨before, after, hs, hlast, hends⟩
      cases before with
      | nil =>
        obtain ⟨rfl, rfl⟩ := List.cons_eq_cons.mp hs
        exact .inl ⟨rfl, hlast, after, rfl, hends⟩
      | cons d before =>
        obtain ⟨rfl, rfl⟩ := List.cons_eq_cons.mp hs
        refine .inr ⟨before, after, rfl, ?_, hends⟩
        rw [List.getLast?_cons] at hlast
        cases hbefore : before.getLast? <;> simpa [hbefore] using hlast

/-- The search for a name finds it exactly where the condition refers to it. -/
theorem hasPlaceholder_iff_refersTo {name : String} (hname : IsName name.toList) (sql : String) :
    hasPlaceholder name.toList none sql.toList = true ↔ RefersTo name sql := by
  rw [hasPlaceholder_iff_exists hname, RefersTo]
  simp

/-! ## Pieces of a name -/

/-- Of what stands in front of a text only a colon matters. -/
theorem hasPlaceholder_congr {name : List Char} {p q : Option Char}
    (h : p = some ':' ↔ q = some ':') (s : List Char) :
    hasPlaceholder name p s = hasPlaceholder name q s := by
  cases s with
  | nil => rfl
  | cons c rest => rw [hasPlaceholder, hasPlaceholder, placeholderHere_congr h]

/-- A word holds no place of a name. -/
theorem hasPlaceholder_word {name : List Char} (p : Option Char) {found : List Char}
    (h : IsName found) (rest : List Char) :
    hasPlaceholder name p (found ++ rest) = hasPlaceholder name none rest := by
  have hword (q : Option Char) (s : List Char) (hs : ∀ c ∈ s, Text.isWord c = true) :
      hasPlaceholder name q (s ++ rest) = hasPlaceholder name (s.getLast?.or q) rest := by
    induction s generalizing q with
    | nil => rfl
    | cons c tail ih =>
      have hc : c ≠ ':' := by
        rintro rfl
        have hcolon := hs ':' List.mem_cons_self
        rw [isWord_colon] at hcolon
        cases hcolon
      rw [List.cons_append, hasPlaceholder, ih _ fun d hd => hs d (List.mem_cons_of_mem c hd),
        List.getLast?_cons, beq_eq_false_iff_ne.mpr hc, Bool.false_and, Bool.false_or]
      cases tail.getLast? <;> rfl
  rw [hword p found h.all_word]
  exact hasPlaceholder_congr (h.getLast?_eq_colon_iff p) rest

/-- A placeholder is a piece of a text exactly if the text has it. -/
theorem mem_piecesFrom_iff {name : List Char} (hname : IsName name) (p : Option Char)
    (s : List Char) :
    Piece.placeholder name ∈ piecesFrom p 0 s ↔ hasPlaceholder name p s = true := by
  induction p, s using piece_induction with
  | nil p => simp [piecesFrom, hasPlaceholder]
  | placeholder p found rest hp hfound hrest ih =>
    have hhere := placeholderHere_iff hp hname hfound.all_word hrest
    rw [piecesFrom_placeholder hp hfound hrest, hasPlaceholder, hasPlaceholder_word _ hfound,
      Bool.or_eq_true, Bool.and_eq_true, hhere, List.mem_cons, ih, Piece.placeholder.injEq,
      beq_self_eq_true, eq_comm (a := name)]
    simp
  | character p c rest hstarts ih =>
    have hnone : ¬ (c = ':' ∧ placeholderHere name p rest = true) := by
      rintro ⟨rfl, hhere⟩
      obtain ⟨hp, after, rfl, -⟩ := (placeholderHere_iff_exists hname).mp hhere
      refine hstarts ⟨rfl, hp, fun hends => ?_⟩
      obtain ⟨d, tail, rfl⟩ := List.exists_cons_of_ne_nil hname.ne_nil
      have hd := hends d (by simp)
      rw [hname.all_word d List.mem_cons_self] at hd
      cases hd
    rw [piecesFrom_character hstarts, hasPlaceholder, Bool.or_eq_true, Bool.and_eq_true,
      beq_iff_eq, or_iff_right hnone, List.mem_cons, or_iff_right (by simp), ih]

/-- A condition refers to a bind exactly by its pieces. -/
theorem refersTo_iff_mem_pieces {name : String} (hname : IsName name.toList) (sql : String) :
    RefersTo name sql ↔ Piece.placeholder name.toList ∈ pieces sql := by
  rw [← hasPlaceholder_iff_refersTo hname, pieces, mem_piecesFrom_iff hname]

/-! ## The text of pieces -/

/-- A piece as it stands in a condition. -/
def Piece.text : Piece → List Char
  | character c => [c]
  | placeholder name => ':' :: name

/-- The pieces of a text keep all of it. -/
theorem flatMap_text_piecesFrom (p : Option Char) (s : List Char) :
    (piecesFrom p 0 s).flatMap Piece.text = s := by
  induction p, s using piece_induction with
  | nil p => rfl
  | placeholder p name rest hp hname hrest ih =>
    rw [piecesFrom_placeholder hp hname hrest, List.flatMap_cons, ih]
    rfl
  | character p c rest hstarts ih =>
    rw [piecesFrom_character hstarts, List.flatMap_cons, ih]
    rfl

/-- A condition in which every reference to a bind has another name, and all else stays. -/
def withReferenceRenamed (name newName sql : String) : String :=
  String.ofList ((pieces sql).flatMap fun p => (p.rename name.toList newName.toList).text)

/-- Renaming a bind gives the condition with its references renamed; it refers to the new name if it
did to the old one, and no longer to the old one. -/
theorem renamePlaceholder_eq {name newName : String} (hname : IsName name.toList)
    (hnew : IsName newName.toList) (hne : newName ≠ name) (sql : String) :
    renamePlaceholder name newName sql = .ok (withReferenceRenamed name newName sql) ∧
      ¬ RefersTo name (withReferenceRenamed name newName sql) ∧
      (RefersTo name sql → RefersTo newName (withReferenceRenamed name newName sql)) := by
  obtain ⟨renamed, hrenamed, hpieces⟩ := renamePlaceholder_spec hname hnew sql
  obtain rfl : renamed = withReferenceRenamed name newName sql := by
    rw [withReferenceRenamed, ← List.flatMap_map, ← hpieces, pieces, flatMap_text_piecesFrom,
      String.ofList_toList]
  refine ⟨hrenamed, ?_, ?_⟩
  · rw [refersTo_iff_mem_pieces hname, hpieces, List.mem_map]
    rintro ⟨piece, -, hpiece⟩
    cases piece with
    | character c => cases hpiece
    | placeholder n =>
      rw [Piece.rename, Piece.placeholder.injEq] at hpiece
      split at hpiece
      · exact hne (String.toList_inj.mp hpiece)
      · next hn => exact hn hpiece
  · intro hrefers
    rw [refersTo_iff_mem_pieces hname] at hrefers
    rw [refersTo_iff_mem_pieces hnew, hpieces, List.mem_map]
    exact ⟨_, hrefers, by rw [Piece.rename, if_pos rfl]⟩

end ScopeSearch
