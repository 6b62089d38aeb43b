import Mathlib.Data.List.Infix
import ScopeSearch.Proofs.KeyedList
import ScopeSearch.Proofs.Outcome
import ScopeSearch.Proofs.Placeholder

/-!
# Renaming binds one after the other

The binds of a condition are renamed one after the other, each in the text that the one before left
behind, so every piece goes through the renamings in turn.  As long as no bind is called what an
earlier one was renamed to, this is one renaming of all pieces at a time: every placeholder of a
bind goes into the namespace, and all else stays.
-/

set_option autoImplicit false

namespace ScopeSearch

/-- A piece in which one name is replaced. -/
def Piece.rename (name newName : List Char) : Piece → Piece
  | character c => character c
  | placeholder n => placeholder (if n = name then newName else n)

/-- A piece in which the names of binds are moved into a namespace. -/
def Piece.moveInto (space : String) (names : List String) : Piece → Piece
  | character c => character c
  | placeholder n =>
    placeholder (if String.ofList n ∈ names then space.toList ++ n else n)

/-! ## One bind -/

/-- The place of a bind is found at a single colon, in front of all of the word that follows. -/
theorem placeholderHere_iff {p : Option Char} {name found rest : List Char} (hp : p ≠ some ':')
    (hname : IsName name) (hfound : ∀ c ∈ found, Text.isWord c = true) (hrest : EndsWord rest) :
    placeholderHere name p (found ++ rest) = true ↔ found = name := by
  have hlast : name.getLast?.getD ':' = name.getLast hname.ne_nil := by
    rw [List.getLast?_eq_some_getLast hname.ne_nil]
    rfl
  have hboundary (after : Option Char) :
      Text.isBoundary (some (name.getLast?.getD ':')) after = true ↔
        ∀ c ∈ after, Text.isWord c = false := by
    rw [hlast, Text.isBoundary, Text.isWord?, hname.all_word _ (List.getLast_mem hname.ne_nil)]
    cases after <;> simp [Text.isWord?]
  unfold placeholderHere
  rw [Bool.and_eq_true, Bool.and_eq_true, List.isPrefixOf_iff_prefix, hboundary]
  constructor
  · rintro ⟨⟨-, hprefix⟩, hends⟩
    -- The bind is a part of the word, and the word does not go on behind it.
    have hpart : name <+: found := by
      obtain ⟨t, ht⟩ := hprefix
      have hwords := congrArg (List.takeWhile Text.isWord) ht
      rw [List.takeWhile_append_of_pos hname.all_word, List.takeWhile_append_of_pos hfound,
        hrest.takeWhile_eq_nil, List.append_nil] at hwords
      exact ⟨t.takeWhile Text.isWord, hwords⟩
    obtain ⟨more, rfl⟩ := hpart
    rw [List.append_assoc, List.drop_left] at hends
    cases more with
    | nil => exact List.append_nil name
    | cons c tail =>
      have hc := hends c (by simp)
      rw [hfound c (by simp)] at hc
      cases hc
  · rintro rfl
    refine ⟨⟨by simpa using hp, List.prefix_append _ _⟩, ?_⟩
    rw [List.drop_left]
    exact hrest

/-- Only a colon in front of a text matters. -/
theorem placeholderHere_congr {name : List Char} {p q : Option Char}
    (h : p = some ':' ↔ q = some ':') (rest : List Char) :
    placeholderHere name p rest = placeholderHere name q rest := by
  have hpq : (p != some ':') = (q != some ':') := by
    rw [Bool.eq_iff_iff]
    simpa using not_congr h
  rw [placeholderHere, placeholderHere, hpq]

section Replace

variable {name replacement : List Char}

/-- Of what stands in front of a text only a colon matters to a renaming. -/
theorem replacePlaceholder_congr {p q : Option Char} (h : p = some ':' ↔ q = some ':')
    (s : List Char) :
    replacePlaceholder name replacement p 0 s = replacePlaceholder name replacement q 0 s := by
  cases s with
  | nil => simp [replacePlaceholder]
  | cons c rest => rw [replacePlaceholder, replacePlaceholder, placeholderHere_congr h]

/-- The characters of a replaced placeholder are passed over. -/
theorem replacePlaceholder_skip (p : Option Char) {found : List Char} (h : IsName found)
    (rest : List Char) :
    replacePlaceholder name replacement p found.length (found ++ rest) =
      replacePlaceholder name replacement none 0 rest := by
  have hskip (q : Option Char) (s : List Char) :
      replacePlaceholder name replacement q s.length (s ++ rest) =
        replacePlaceholder name replacement (s.getLast?.or q) 0 rest := by
    induction s generalizing q with
    | nil => simp
    | cons c tail ih =>
      rw [List.length_cons, List.cons_append, replacePlaceholder, ih, List.getLast?_cons]
      cases tail.getLast? <;> simp
  rw [hskip]
  exact replacePlaceholder_congr (h.getLast?_eq_colon_iff p) rest

/-- A character other than a colon stays. -/
theorem replacePlaceholder_cons_of_ne {p : Option Char} {c : Char} (hc : c ≠ ':')
    (rest : List Char) :
    replacePlaceholder name replacement p 0 (c :: rest) =
      c :: replacePlaceholder name replacement (some c) 0 rest := by
  rw [replacePlaceholder, if_neg (fun h => hc h.1)]

/-- A word stays. -/
theorem replacePlaceholder_word (p : Option Char) {found : List Char} (h : IsName found)
    (rest : List Char) :
    replacePlaceholder name replacement p 0 (found ++ rest) =
      found ++ replacePlaceholder name replacement none 0 rest := by
  have hword (q : Option Char) (s : List Char) (hs : ∀ c ∈ s, Text.isWord c = true) :
      replacePlaceholder name replacement q 0 (s ++ rest) =
        s ++ replacePlaceholder name replacement (s.getLast?.or q) 0 rest := by
    induction s generalizing q with
    | nil => simp
    | cons c tail ih =>
      have hc : c ≠ ':' := by
        rintro rfl
        have := hs ':' (by simp)
        rw [isWord_colon] at this
        cases this
      rw [List.cons_append, replacePlaceholder_cons_of_ne hc,
        ih _ fun d hd => hs d (by simp [hd]), List.getLast?_cons, List.cons_append]
      cases tail.getLast? <;> simp
  rw [hword p found h.all_word]
  congr 1
  exact replacePlaceholder_congr (h.getLast?_eq_colon_iff p) rest

/-- The placeholder at the beginning of a text is replaced if it is the one that is looked for. -/
theorem replacePlaceholder_placeholder {p : Option Char} {found rest : List Char}
    (hp : p ≠ some ':') (hname : IsName name) (hfound : IsName found) (hrest : EndsWord rest) :
    replacePlaceholder name replacement p 0 (':' :: (found ++ rest)) =
      (if found = name then replacement else ':' :: found) ++
        replacePlaceholder name replacement none 0 rest := by
  have hhere := placeholderHere_iff hp hname hfound.all_word hrest
  rw [replacePlaceholder]
  by_cases hsame : found = name
  · subst hsame
    rw [if_pos ⟨rfl, hhere.mpr rfl⟩, if_pos rfl, replacePlaceholder_skip _ hfound]
  · rw [if_neg (fun h => hsame (hhere.mp h.2)), if_neg hsame, replacePlaceholder_word _ hfound,
      List.cons_append]

/-- A character that begins no placeholder stays. -/
theorem replacePlaceholder_character {p : Option Char} {c : Char} {rest : List Char}
    (hname : IsName name) (h : ¬ StartsPlaceholder p c rest) :
    replacePlaceholder name replacement p 0 (c :: rest) =
      c :: replacePlaceholder name replacement (some c) 0 rest := by
  rw [replacePlaceholder, if_neg]
  rintro ⟨hc, hhere⟩
  by_cases hp : p = some ':'
  · simp [placeholderHere, hp] at hhere
  · have hrest : EndsWord rest := by
      by_contra hends
      exact h ⟨hc, hp, hends⟩
    rw [← List.nil_append rest, placeholderHere_iff hp hname (by simp) hrest] at hhere
    exact hname.ne_nil hhere.symm

end Replace

/-- A replacement does not make a text go on with a word. -/
theorem endsWord_replacePlaceholder (name newName : List Char) (p : Option Char) {s : List Char}
    (h : EndsWord s) : EndsWord (replacePlaceholder name (':' :: newName) p 0 s) := by
  cases s with
  | nil => simp [EndsWord, replacePlaceholder]
  | cons c rest =>
    rw [replacePlaceholder]
    split
    · intro d hd
      obtain rfl : ':' = d := by simpa using hd
      exact isWord_colon
    · intro d hd
      exact h d (by simpa using hd)

/-- Replacing one placeholder by another renames it in every piece of the text. -/
theorem piecesFrom_replacePlaceholder {name newName : List Char} (hname : IsName name)
    (hnew : IsName newName) (p : Option Char) (s : List Char) :
    piecesFrom p 0 (replacePlaceholder name (':' :: newName) p 0 s) =
      (piecesFrom p 0 s).map (Piece.rename name newName) := by
  induction p, s using piece_induction with
  | nil p => simp [replacePlaceholder, piecesFrom]
  | placeholder p found rest hp hfound hrest ih =>
    -- What is left of the text still goes on with no word, so the new name is read as a whole.
    have hends := endsWord_replacePlaceholder name newName none hrest
    rw [replacePlaceholder_placeholder hp hname hfound hrest,
      piecesFrom_placeholder hp hfound hrest, List.map_cons, ← ih, Piece.rename]
    split
    · exact piecesFrom_placeholder hp hnew hends
    · exact piecesFrom_placeholder hp hfound hends
  | character p c rest hstarts ih =>
    have hstarts' : ¬ StartsPlaceholder p c
        (replacePlaceholder name (':' :: newName) (some c) 0 rest) := fun h =>
      hstarts ⟨h.1, h.2.1, fun hrest => h.2.2 (endsWord_replacePlaceholder _ _ _ hrest)⟩
    rw [replacePlaceholder_character hname hstarts, piecesFrom_character hstarts',
      piecesFrom_character hstarts, List.map_cons, ih, Piece.rename]

/-- A replacement text without a backslash stands for itself. -/
theorem replacementPartsWithin_of_not_mem {s : List Char} (h : '\\' ∉ s) {steps : Nat}
    (hsteps : s.length ≤ steps) :
    Text.replacementPartsWithin steps s = .ok (s.map .character) := by
  induction s generalizing steps with
  | nil => cases steps <;> rfl
  | cons c rest ih =>
    rw [List.mem_cons, not_or] at h
    cases steps with
    | zero => simp at hsteps
    | succ steps =>
      have hrest := ih h.2 (Nat.le_of_succ_le_succ hsteps)
      rw [Text.replacementPartsWithin, hrest]
      · rfl
      · exact fun hc => h.1 hc.symm

/-- Renaming a bind succeeds and renames it in every piece of the text. -/
theorem renamePlaceholder_spec {name newName : String} (hname : IsName name.toList)
    (hnew : IsName newName.toList) (sql : String) :
    ∃ renamed, renamePlaceholder name newName sql = .ok renamed ∧
      pieces renamed = (pieces sql).map (Piece.rename name.toList newName.toList) := by
  have hplain : '\\' ∉ ':' :: newName.toList := by
    have hbackslash : Text.isWord '\\' = false := by decide +kernel
    rw [List.mem_cons, not_or]
    exact ⟨by decide, hnew.not_mem hbackslash⟩
  have hparts := replacementPartsWithin_of_not_mem hplain (Nat.le_refl _)
  have hexpand (s found : List Char) :
      Text.expandReplacement (s.map .character) found = s := by
    induction s with
    | nil => rfl
    | cons c rest ih => simpa [Text.expandReplacement] using ih
  refine ⟨String.ofList (replacePlaceholder name.toList (':' :: newName.toList) none 0 sql.toList),
    ?_, ?_⟩
  · rw [renamePlaceholder, Text.replacementParts, hparts]
    simp only [bind, Except.bind, pure, Except.pure, hexpand]
  · rw [pieces, String.toList_ofList, piecesFrom_replacePlaceholder hname hnew, pieces]

/-! ## All binds -/

/-- A piece in which the names of binds are moved into a namespace one after the other. -/
def Piece.moveEach (space : String) (names : List String) (piece : Piece) : Piece :=
  names.foldl (fun p name => p.rename name.toList (space ++ name).toList) piece

/-- Without names no piece moves. -/
theorem moveEach_nil (space : String) : Piece.moveEach space [] = id :=
  rfl

/-- The first name is renamed before the others. -/
theorem moveEach_cons (space name : String) (rest : List String) (piece : Piece) :
    piece.moveEach space (name :: rest) =
      (piece.rename name.toList (space ++ name).toList).moveEach space rest :=
  rfl

/-- The names of the binds of a condition can be moved into a namespace one after the other: they
are words, none is there twice, and none is what an earlier one is moved to. -/
structure CanMoveInto (space : String) (names : List String) : Prop where
  isName : ∀ name ∈ names, IsName name.toList
  nodup : names.Nodup
  uncaptured : names.Pairwise fun earlier later => later ≠ space ++ earlier

/-- A word in front of a name makes a name. -/
theorem IsName.append {space name : List Char} (hspace : ∀ c ∈ space, Text.isWord c = true)
    (h : IsName name) : IsName (space ++ name) := by
  refine ⟨by simp [h.ne_nil], ?_⟩
  intro c hc
  rw [List.mem_append] at hc
  exact hc.elim (hspace c) (h.all_word c)

/-- Moving one bind and then the others moves all of them. -/
theorem moveInto_rename {space name : String} {names : List String} (hname : name ∉ names)
    (hmoved : space ++ name ∉ names) (piece : Piece) :
    (piece.rename name.toList (space ++ name).toList).moveInto space names =
      piece.moveInto space (name :: names) := by
  cases piece with
  | character c => rfl
  | placeholder n =>
    by_cases hn : n = name.toList
    · subst hn
      simp [Piece.rename, Piece.moveInto, hmoved]
    · have hn' : String.ofList n ≠ name := by
        rintro rfl
        exact hn (by simp)
      simp [Piece.rename, Piece.moveInto, hn, hn']

/-- Names that do not capture each other are moved at a time. -/
theorem moveEach_eq_moveInto {space : String} {names : List String} (hnodup : names.Nodup)
    (huncaptured : names.Pairwise fun earlier later => later ≠ space ++ earlier) (piece : Piece) :
    piece.moveEach space names = piece.moveInto space names := by
  induction names generalizing piece with
  | nil => cases piece <;> simp [moveEach_nil, Piece.moveInto]
  | cons name rest ih =>
    rw [List.nodup_cons] at hnodup
    rw [List.pairwise_cons] at huncaptured
    have hcaptured : space ++ name ∉ rest := fun hmem => huncaptured.1 _ hmem rfl
    rw [moveEach_cons, ih hnodup.2 huncaptured.2, moveInto_rename hnodup.1 hcaptured]

/-- Renaming one bind after the other moves every placeholder by one name after the other, and
gives every bind its new name. -/
theorem rebindInto_spec {space : String} (hspace : ∀ c ∈ space.toList, Text.isWord c = true)
    (sql : String) {done : Binds} {binds : List (String × Value)}
    (hisName : ∀ name ∈ KeyedList.keys binds, IsName name.toList)
    (hnodup : (KeyedList.keys binds).Nodup)
    (hdone : ∀ name ∈ KeyedList.keys binds, space ++ name ∉ done.keys) :
    ∃ moved, rebindInto space sql done binds =
        .ok (moved, done ++ binds.map fun b => (space ++ b.1, b.2)) ∧
      pieces moved = (pieces sql).map (Piece.moveEach space (KeyedList.keys binds)) := by
  induction binds generalizing sql done with
  | nil =>
    exact ⟨sql, by simp [rebindInto], by simp [moveEach_nil]⟩
  | cons b rest ih =>
    obtain ⟨name, v⟩ := b
    rw [KeyedList.keys_cons] at hisName hnodup hdone
    rw [List.nodup_cons] at hnodup
    rw [List.forall_mem_cons] at hisName hdone
    have hnew : IsName (space ++ name).toList := by
      rw [String.toList_append]
      exact hisName.1.append hspace
    -- The other binds are moved in the text in which this one has been renamed already.
    obtain ⟨renamed, hrenamed, hpieces⟩ := renamePlaceholder_spec hisName.1 hnew sql
    have hput : KeyedList.put (space ++ name) v done = done ++ [(space ++ name, v)] :=
      KeyedList.put_of_not_mem hdone.1
    have hrest : ∀ n ∈ KeyedList.keys rest,
        space ++ n ∉ KeyedList.keys (done ++ [(space ++ name, v)]) := by
      intro n hn
      have hne : n ≠ name := by
        rintro rfl
        exact hnodup.1 hn
      simp [hdone.2 n hn, hne]
    obtain ⟨moved, hmoved, hmovedPieces⟩ := ih renamed hisName.2 hnodup.2 hrest
    refine ⟨moved, ?_, ?_⟩
    · rw [rebindInto, hrenamed]
      simp only [bind, Except.bind, hput, hmoved]
      simp
    · rw [hmovedPieces, hpieces, List.map_map]
      exact List.map_congr_left fun piece _ => (moveEach_cons space name _ piece).symm

/-- Moved binds have the old names behind the namespace. -/
theorem keys_moved (space : String) (binds : Binds) :
    KeyedList.keys (binds.map fun b => (space ++ b.1, b.2)) = binds.keys.map (space ++ ·) := by
  simp [KeyedList.keys]

/-- No two binds are moved to one name. -/
theorem nodup_keys_moved (space : String) {binds : Binds} (h : binds.keys.Nodup) :
    (KeyedList.keys (binds.map fun b => (space ++ b.1, b.2))).Nodup := by
  rw [keys_moved]
  exact h.map fun m n hmn => (String.append_right_inj space).mp hmn

/-- Moving a condition into a namespace moves its binds, and its placeholders by one name after the
other. -/
theorem rebind_moveEach {space : String} (hspace : ∀ c ∈ space.toList, Text.isWord c = true)
    (sql : String) {binds : Binds} (hisName : ∀ name ∈ binds.keys, IsName name.toList)
    (hnodup : binds.keys.Nodup) :
    ∃ moved, rebind space sql binds = .ok (moved, binds.map fun b => (space ++ b.1, b.2)) ∧
      pieces moved = (pieces sql).map (Piece.moveEach space binds.keys) :=
  rebindInto_spec hspace sql hisName hnodup (by simp)

/-- Binds that do not capture each other are moved at a time. -/
theorem rebind_spec {space : String} (hspace : ∀ c ∈ space.toList, Text.isWord c = true)
    (sql : String) {binds : Binds} (h : CanMoveInto space binds.keys) :
    ∃ moved, rebind space sql binds = .ok (moved, binds.map fun b => (space ++ b.1, b.2)) ∧
      pieces moved = (pieces sql).map (Piece.moveInto space binds.keys) := by
  obtain ⟨moved, hmoved, hpieces⟩ := rebind_moveEach hspace sql h.isName h.nodup
  refine ⟨moved, hmoved, hpieces.trans ?_⟩
  exact List.map_congr_left fun piece _ => moveEach_eq_moveInto h.nodup h.uncaptured piece

end ScopeSearch
