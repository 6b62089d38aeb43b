import Mathlib.Data.List.TakeWhile
import ScopeSearch.Bind

/-!
# Placeholders of a condition

A condition is cut into pieces: its placeholders, each a single colon with the whole word behind it,
and the characters that belong to none.  Three facts carry every argument about conditions.

* A text is read piece by piece: either a placeholder stands at its beginning, or its first
  character is a piece of its own.  This gives an induction over texts.
* Renaming one placeholder in a text renames it in every piece and leaves the other pieces alone.
* A character that is neither a colon nor part of a word keeps the pieces on its two sides apart.
-/

set_option autoImplicit false

namespace ScopeSearch

/-- A piece of a condition. -/
inductive Piece where
  /-- A character that belongs to no placeholder. -/
  | character (c : Char)
  /-- A single colon and the word behind it. -/
  | placeholder (name : List Char)
  deriving DecidableEq

/-- The pieces of a text that follows `previous`; the next `skip` characters belong to the
placeholder that was read last. -/
def piecesFrom : Option Char → Nat → List Char → List Piece
  | _, _, [] => []
  | _, skip + 1, c :: rest => piecesFrom (some c) skip rest
  | previous, 0, c :: rest =>
    let name := rest.takeWhile Text.isWord
    if c = ':' ∧ previous ≠ some ':' ∧ name ≠ [] then
      .placeholder name :: piecesFrom (some c) name.length rest
    else .character c :: piecesFrom (some c) 0 rest

/-- The pieces of a condition. -/
def pieces (sql : String) : List Piece :=
  piecesFrom none 0 sql.toList

/-- The name that a piece refers to a bind by. -/
def Piece.name? : Piece → Option String
  | character _ => none
  | placeholder name => some (String.ofList name)

/-- The names of the placeholders of a condition, in order. -/
def placeholders (sql : String) : List String :=
  (pieces sql).filterMap Piece.name?

/-- A word of any script, of at least one character. -/
structure IsName (s : List Char) : Prop where
  ne_nil : s ≠ []
  all_word : ∀ c ∈ s, Text.isWord c = true

/-- A text does not go on with a word. -/
def EndsWord (s : List Char) : Prop :=
  ∀ c ∈ s.head?, Text.isWord c = false

/-- A placeholder stands at the beginning of a text with the first character `c`. -/
def StartsPlaceholder (previous : Option Char) (c : Char) (rest : List Char) : Prop :=
  c = ':' ∧ previous ≠ some ':' ∧ ¬ EndsWord rest

/-- A colon is no word character. -/
theorem isWord_colon : Text.isWord ':' = false := by
  decide +kernel

/-! ## Words -/

/-- A text that does not go on with a word has none at its beginning. -/
theorem EndsWord.takeWhile_eq_nil {s : List Char} (h : EndsWord s) :
    s.takeWhile Text.isWord = [] := by
  cases s with
  | nil => rfl
  | cons c tail => rw [List.takeWhile_cons, h c (by simp)]; rfl

/-- The word at the beginning of a text is all of the word that is followed by no other. -/
theorem IsName.takeWhile_append {name rest : List Char} (h : IsName name) (hrest : EndsWord rest) :
    (name ++ rest).takeWhile Text.isWord = name := by
  rw [List.takeWhile_append_of_pos h.all_word, hrest.takeWhile_eq_nil, List.append_nil]

/-- A text that goes on with a word begins with one that is followed by no other. -/
theorem exists_name_of_not_endsWord {s : List Char} (h : ¬ EndsWord s) :
    ∃ name rest, s = name ++ rest ∧ IsName name ∧ EndsWord rest := by
  refine ⟨s.takeWhile Text.isWord, s.dropWhile Text.isWord, ?_, ⟨?_, ?_⟩, ?_⟩
  · exact List.takeWhile_append_dropWhile.symm
  · intro hnil
    apply h
    intro c hc
    cases s with
    | nil => simp at hc
    | cons d tail =>
      obtain rfl : d = c := by simpa using hc
      by_contra hword
      simp [List.takeWhile_cons, hword] at hnil
  · exact fun c hc => List.mem_takeWhile_imp hc
  · intro c hc
    have hne : s.dropWhile Text.isWord ≠ [] := by
      intro hnil
      simp [hnil] at hc
    have hhead := List.head_dropWhile_not Text.isWord hne
    rw [List.head?_eq_some_head hne] at hc
    cases hc
    simpa using hhead

/-- What is not part of words is not part of a name. -/
theorem IsName.not_mem {name : List Char} (h : IsName name) {c : Char}
    (hc : Text.isWord c = false) : c ∉ name := by
  intro hmem
  rw [h.all_word c hmem] at hc
  cases hc

/-- Behind a name there is no more a colon than at the beginning of a text. -/
theorem IsName.getLast?_eq_colon_iff {name : List Char} (h : IsName name) (q : Option Char) :
    name.getLast?.or q = some ':' ↔ none = some ':' := by
  have hlast : name.getLast h.ne_nil ≠ ':' := by
    intro hcolon
    exact h.not_mem isWord_colon (hcolon ▸ List.getLast_mem h.ne_nil)
  rw [List.getLast?_eq_some_getLast h.ne_nil]
  simpa using hlast

/-- A text is empty, begins with a placeholder, or begins with a character of its own; what is
preserved from the rest to the whole in the last two cases holds of every text.  What follows a
placeholder is read as if nothing stood in front of it. -/
theorem piece_induction {motive : Option Char → List Char → Prop} (nil : ∀ p, motive p [])
    (placeholder : ∀ p name rest, p ≠ some ':' → IsName name → EndsWord rest →
      motive none rest → motive p (':' :: (name ++ rest)))
    (character : ∀ p c rest, ¬ StartsPlaceholder p c rest → motive (some c) rest →
      motive p (c :: rest))
    (p : Option Char) (s : List Char) : motive p s := by
  -- A placeholder is read with all of its word, so the rest may be shorter by many characters.
  induction hn : s.length using Nat.strong_induction_on generalizing p s with
  | _ n ih =>
    cases s with
    | nil => exact nil p
    | cons c rest =>
      by_cases hstarts : StartsPlaceholder p c rest
      · obtain ⟨rfl, hp, hword⟩ := hstarts
        obtain ⟨name, tail, rfl, hname, htail⟩ := exists_name_of_not_endsWord hword
        apply placeholder p name tail hp hname htail
        refine ih tail.length ?_ none tail rfl
        simp only [← hn, List.length_cons, List.length_append]
        omega
      · apply character p c rest hstarts
        exact ih rest.length (by simp [← hn]) (some c) rest rfl

/-! ## Reading pieces -/

/-- Only a colon in front of a text matters. -/
theorem piecesFrom_congr {p q : Option Char} (h : p = some ':' ↔ q = some ':') (s : List Char) :
    piecesFrom p 0 s = piecesFrom q 0 s := by
  cases s with
  | nil => simp [piecesFrom]
  | cons c rest => simp only [piecesFrom, ne_eq, h]

/-- Characters that belong to a placeholder are passed over. -/
theorem piecesFrom_skip (p : Option Char) {name : List Char} (h : IsName name) (rest : List Char) :
    piecesFrom p name.length (name ++ rest) = piecesFrom none 0 rest := by
  have hskip (q : Option Char) (s : List Char) :
      piecesFrom q s.length (s ++ rest) = piecesFrom (s.getLast?.or q) 0 rest := by
    induction s generalizing q with
    | nil => simp
    | cons c tail ih =>
      rw [List.length_cons, List.cons_append, piecesFrom, ih, List.getLast?_cons]
      cases tail.getLast? <;> simp
  rw [hskip]
  exact piecesFrom_congr (h.getLast?_eq_colon_iff p) rest

/-- A placeholder at the beginning of a text is its first piece. -/
theorem piecesFrom_placeholder {p : Option Char} {name rest : List Char} (hp : p ≠ some ':')
    (hname : IsName name) (hrest : EndsWord rest) :
    piecesFrom p 0 (':' :: (name ++ rest)) = .placeholder name :: piecesFrom none 0 rest := by
  simp only [piecesFrom, hname.takeWhile_append hrest]
  rw [if_pos ⟨trivial, hp, hname.ne_nil⟩, piecesFrom_skip _ hname]

/-- Any other character at the beginning of a text is its first piece. -/
theorem piecesFrom_character {p : Option Char} {c : Char} {rest : List Char}
    (h : ¬ StartsPlaceholder p c rest) :
    piecesFrom p 0 (c :: rest) = .character c :: piecesFrom (some c) 0 rest := by
  rw [piecesFrom, if_neg]
  rintro ⟨hc, hp, hname⟩
  exact h ⟨hc, hp, fun hends => hname hends.takeWhile_eq_nil⟩

/-- A character that is neither a colon nor part of a word keeps what stands in front of it apart
from what stands behind it. -/
theorem piecesFrom_append_cons (p : Option Char) (s : List Char) {c : Char} (rest : List Char)
    (hcolon : c ≠ ':') (hword : Text.isWord c = false) :
    piecesFrom p 0 (s ++ c :: rest) =
      piecesFrom p 0 s ++ .character c :: piecesFrom none 0 rest := by
  have hends (t : List Char) (ht : EndsWord t) : EndsWord (t ++ c :: rest) := by
    cases t with
    | nil =>
      intro d hd
      obtain rfl : c = d := by simpa using hd
      exact hword
    | cons d tail => exact fun e he => ht e (by simpa using he)
  induction p, s using piece_induction with
  | nil p =>
    rw [List.nil_append, piecesFrom_character (fun h => hcolon h.1)]
    rw [piecesFrom_congr (q := none) (by simpa using hcolon) rest]
    simp [piecesFrom]
  | placeholder p name tail hp hname htail ih =>
    rw [List.cons_append, List.append_assoc, piecesFrom_placeholder hp hname (hends tail htail),
      piecesFrom_placeholder hp hname htail, ih, List.cons_append]
  | character p d tail hstarts ih =>
    have hstarts' : ¬ StartsPlaceholder p d (tail ++ c :: rest) := fun h =>
      hstarts ⟨h.1, h.2.1, fun ht => h.2.2 (hends tail ht)⟩
    rw [List.cons_append, piecesFrom_character hstarts', piecesFrom_character hstarts, ih,
      List.cons_append]

/-- A text without colons has no placeholders. -/
theorem piecesFrom_of_no_colon (p : Option Char) {s : List Char} (h : ':' ∉ s) :
    piecesFrom p 0 s = s.map .character := by
  induction s generalizing p with
  | nil => simp [piecesFrom]
  | cons c rest ih =>
    rw [List.mem_cons, not_or] at h
    rw [piecesFrom_character (fun hstarts => h.1 hstarts.1.symm), ih _ h.2, List.map_cons]

end ScopeSearch
