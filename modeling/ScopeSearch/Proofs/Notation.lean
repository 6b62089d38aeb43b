import Mathlib.Data.List.DropRight
import Mathlib.Order.Bounds.Basic
import ScopeSearch.Proofs.Candidate
import ScopeSearch.Proofs.LowerCase
import ScopeSearch.Proofs.Token

/-!
# Where a notation is found

Both notations of a scope hang on one character behind a word: the colon of a candidate and the
parenthesis of a call.  A scan over the text, which carries the word that it has just read, finds
the first position where the character follows a word and what is behind it can be read.  Hence the
parts of a directive are told by positions alone:

* a candidate is split at the first colon that follows an ASCII word character and precedes another
  character of the line; the name is the word in front of it, and the rest of the line is behind it;
* a call is the first word in front of a parenthesis with a word and a closing parenthesis behind.

A word is the longest run of ASCII word characters that ends or begins at a position.
-/

set_option autoImplicit false

namespace ScopeSearch

/-- The longest run of ASCII word characters that ends in front of a position. -/
def wordBefore (s : List Char) (i : Nat) : List Char :=
  (s.take i).rtakeWhile Text.isAsciiWord

/-- The longest run of ASCII word characters that begins at a position. -/
def wordFrom (s : List Char) (i : Nat) : List Char :=
  (s.drop i).takeWhile Text.isAsciiWord

/-- The longest run of characters other than line feeds that begins at a position. -/
def lineFrom (s : List Char) (i : Nat) : List Char :=
  (s.drop i).takeWhile (· ≠ '\n')

/-- The character in front of a position is an ASCII word character. -/
def FollowsWord (s : List Char) (i : Nat) : Prop :=
  0 < i ∧ ∃ c, s[i - 1]? = some c ∧ Text.isAsciiWord c = true

/-- A colon that a token can be split at. -/
structure IsSplit (s : List Char) (i : Nat) : Prop where
  colon : s[i]? = some ':'
  follows_word : FollowsWord s i
  line_continues : ∃ c, s[i + 1]? = some c ∧ c ≠ '\n'

/-- The parenthesis of a call. -/
structure IsCall (s : List Char) (i : Nat) : Prop where
  opens : s[i]? = some '('
  follows_word : FollowsWord s i
  argument_ne_nil : wordFrom s (i + 1) ≠ []
  closes : s[i + 1 + (wordFrom s (i + 1)).length]? = some ')'

instance (s : List Char) (i : Nat) : Decidable (FollowsWord s i) :=
  decidable_of_iff (0 < i ∧ (s[i - 1]?).any Text.isAsciiWord = true)
    (and_congr_right' (Option.any_eq_true _ _))

instance (s : List Char) (i : Nat) : Decidable (IsSplit s i) :=
  decidable_of_iff (s[i]? = some ':' ∧ FollowsWord s i ∧ (s[i + 1]?).any (· != '\n') = true) <| by
    rw [Option.any_eq_true]
    exact ⟨fun ⟨hcolon, hword, c, hc, hne⟩ => ⟨hcolon, hword, c, hc, bne_iff_ne.mp hne⟩,
      fun ⟨hcolon, hword, c, hc, hne⟩ => ⟨hcolon, hword, c, hc, bne_iff_ne.mpr hne⟩⟩

instance (s : List Char) (i : Nat) : Decidable (IsCall s i) :=
  decidable_of_iff (s[i]? = some '(' ∧ FollowsWord s i ∧ wordFrom s (i + 1) ≠ [] ∧
      s[i + 1 + (wordFrom s (i + 1)).length]? = some ')')
    ⟨fun h => ⟨h.1, h.2.1, h.2.2.1, h.2.2.2⟩,
      fun h => ⟨h.opens, h.follows_word, h.argument_ne_nil, h.closes⟩⟩

/-! ## The scan for a character behind a word -/

section Scan

variable {β : Type} (mark : Char) (follow? : List Char → Option β)

/-- The first word that is followed by a character and then by what `follow?` reads; `word` is the
word that ends at the beginning of the text, reversed. -/
def findBehindWord (word : List Char) : List Char → Option (List Char × β)
  | [] => none
  | c :: rest =>
    match if c = mark ∧ word ≠ [] then follow? rest else none with
    | some found => some (word.reverse, found)
    | none => findBehindWord (if Text.isAsciiWord c then c :: word else []) rest

/-- The word in front of a position and what `follow?` reads behind it. -/
def foundAt? (s : List Char) (i : Nat) : Option (List Char × β) :=
  if s[i]? = some mark ∧ wordBefore s i ≠ [] then
    (follow? (s.drop (i + 1))).map fun found => (wordBefore s i, found)
  else none

variable {mark follow?}

/-- The word in front of a place is the longest run of word characters that ends there. -/
theorem wordBefore_append (pre s : List Char) :
    wordBefore (pre ++ s) pre.length = pre.rtakeWhile Text.isAsciiWord := by
  rw [wordBefore, List.take_left]

/-- `pre` is what the scan has passed, and its last word is the one that the scan carries. -/
theorem findBehindWord_eq_findSome? (pre s : List Char) :
    findBehindWord mark follow? (pre.rtakeWhile Text.isAsciiWord).reverse s =
      (List.range' pre.length s.length).findSome? (foundAt? mark follow? (pre ++ s)) := by
  induction s generalizing pre with
  | nil => rfl
  | cons c rest ih =>
    have hhere : foundAt? mark follow? (pre ++ c :: rest) pre.length =
        (if c = mark ∧ pre.rtakeWhile Text.isAsciiWord ≠ [] then follow? rest else none).map
          fun found => (pre.rtakeWhile Text.isAsciiWord, found) := by
      have hdrop : (pre ++ c :: rest).drop (pre.length + 1) = rest := by
        simp
      rw [foundAt?, wordBefore_append, hdrop, apply_ite (Option.map _)]
      simp
    have hword : (if Text.isAsciiWord c then c :: (pre.rtakeWhile Text.isAsciiWord).reverse
        else []) = ((pre ++ [c]).rtakeWhile Text.isAsciiWord).reverse := by
      rw [List.rtakeWhile_concat]
      split <;> simp
    have hnext := ih (pre ++ [c])
    rw [List.append_assoc, List.singleton_append, List.length_append,
      List.length_singleton] at hnext
    rw [List.length_cons, List.range'_succ, List.findSome?_cons, hhere, findBehindWord, hword,
      hnext]
    simp only [ne_eq, List.reverse_eq_nil_iff, List.reverse_reverse]
    cases (if c = mark ∧ ¬ pre.rtakeWhile Text.isAsciiWord = [] then follow? rest else none) <;> rfl

/-- The scan from the beginning of a text finds what is found at the first place that has something.
-/
theorem findBehindWord_nil (s : List Char) :
    findBehindWord mark follow? [] s =
      (List.range s.length).findSome? (foundAt? mark follow? s) := by
  have h : findBehindWord mark follow? [] s =
      (List.range' 0 s.length).findSome? (foundAt? mark follow? s) :=
    findBehindWord_eq_findSome? [] s
  rw [h, List.range_eq_range']

end Scan

/-! ## The first position -/

/-- Something is found only at a mark. -/
theorem getElem?_eq_of_foundAt? {β : Type} {mark : Char} {follow? : List Char → Option β}
    {s : List Char} {i : Nat} (h : (foundAt? mark follow? s i).isSome = true) :
    s[i]? = some mark ∧ i < s.length := by
  unfold foundAt? at h
  split at h
  · next hhere => exact ⟨hhere.1, (List.getElem?_eq_some_iff.mp hhere.1).1⟩
  · simp at h

/-- The search over places returns what stands at the least one that has something. -/
theorem findSome?_range_of_isLeast {α : Type} {f : Nat → Option α} {i n : Nat} (hi : i < n)
    (h : IsLeast {j | (f j).isSome = true} i) : (List.range n).findSome? f = f i := by
  obtain ⟨a, ha⟩ := Option.isSome_iff_exists.mp h.1
  rw [ha, List.findSome?_eq_some_iff]
  refine ⟨List.range i, i, List.range' (i + 1) (n - i - 1), ?_, ha, ?_⟩
  · rw [List.range_eq_range', List.range_eq_range', ← List.range'_succ]
    have hsplit := List.range'_append_1 (s := 0) (m := i) (n := n - i - 1 + 1)
    rw [Nat.zero_add] at hsplit
    rw [hsplit]
    congr 1
    omega
  · intro j hj
    have hlt := List.mem_range.mp hj
    by_contra hsome
    have hle := h.2 (Option.isSome_iff_ne_none.mpr hsome)
    omega

section Scan

variable {β : Type} {mark : Char} {follow? : List Char → Option β} {s : List Char}

/-- The scan finds nothing exactly if no place has something. -/
theorem findBehindWord_eq_none_iff :
    findBehindWord mark follow? [] s = none ↔
      ∀ i, ¬ (foundAt? mark follow? s i).isSome = true := by
  rw [findBehindWord_nil, List.findSome?_eq_none_iff]
  constructor
  · intro h i hsome
    have hi := (getElem?_eq_of_foundAt? hsome).2
    rw [h i (List.mem_range.mpr hi)] at hsome
    cases hsome
  · intro h i _
    simpa using h i

/-- The scan finds what stands at the least place that has something. -/
theorem findBehindWord_of_isLeast {i : Nat}
    (h : IsLeast {j | (foundAt? mark follow? s j).isSome = true} i) :
    findBehindWord mark follow? [] s = foundAt? mark follow? s i := by
  rw [findBehindWord_nil]
  exact findSome?_range_of_isLeast (getElem?_eq_of_foundAt? h.1).2 h

/-- The word in front of a place is not empty exactly if a word character stands there. -/
theorem wordBefore_ne_nil_iff {i : Nat} (hi : i ≤ s.length) :
    wordBefore s i ≠ [] ↔ FollowsWord s i := by
  unfold wordBefore FollowsWord
  cases i with
  | zero => simp
  | succ i =>
    have hlast : s.take (i + 1) = s.take i ++ [s[i]] := by simp
    rw [hlast, List.rtakeWhile_concat, Nat.add_sub_cancel,
      List.getElem?_eq_getElem (Nat.lt_of_succ_le hi)]
    split
    · next hword => simp [hword]
    · next hword => simp [hword]

/-- A place has something exactly if it is a mark between a word and what may follow it. -/
theorem foundAt?_isSome_iff {i : Nat} :
    (foundAt? mark follow? s i).isSome = true ↔
      s[i]? = some mark ∧ FollowsWord s i ∧ (follow? (s.drop (i + 1))).isSome = true := by
  unfold foundAt?
  by_cases hmark : s[i]? = some mark
  · obtain ⟨hi, -⟩ := List.getElem?_eq_some_iff.mp hmark
    rw [← wordBefore_ne_nil_iff (Nat.le_of_lt hi)]
    by_cases hword : wordBefore s i = [] <;> simp [hmark, hword]
  · simp [hmark]

end Scan

/-- What is found at a place is the word in front of it and what follows it. -/
theorem foundAt?_of_isSome {β : Type} {mark : Char} {follow? : List Char → Option β}
    {s : List Char} {i : Nat} {found : β} (h : (foundAt? mark follow? s i).isSome = true)
    (hfound : follow? (s.drop (i + 1)) = some found) :
    foundAt? mark follow? s i = some (wordBefore s i, found) := by
  unfold foundAt? at h ⊢
  split at h
  · next hhere => rw [if_pos hhere, hfound, Option.map_some]
  · simp at h

/-! ## The colon of a candidate -/

/-- The rest of the line behind a colon, which must not be empty. -/
def lineBehind? (s : List Char) : Option (List Char) :=
  if lineContinues s then some (s.takeWhile (· ≠ '\n')) else none

/-- Splitting at a colon is a scan for a colon and the rest of a line. -/
theorem splitAtColon_eq_findBehindWord (word s : List Char) :
    splitAtColon word s = findBehindWord ':' lineBehind? word s := by
  induction s generalizing word with
  | nil => rfl
  | cons c rest ih =>
    rw [splitAtColon, findBehindWord]
    by_cases hhere : c = ':' ∧ word ≠ []
    · obtain ⟨rfl, hword⟩ := hhere
      by_cases hline : lineContinues rest = true
      · simp [hword, hline, lineBehind?]
      · simp [hline, lineBehind?, ih]
        rfl
    · rw [if_neg hhere, if_neg (fun h => hhere ⟨h.1, by simpa using h.2.1⟩)]
      split <;> exact ih _

/-- The rest of a line is whatever stands in front of the line feed, if that is not empty. -/
theorem lineBehind?_eq_some_iff {s line : List Char} :
    lineBehind? s = some line ↔
      line = s.takeWhile (· ≠ '\n') ∧ ∃ c, s.head? = some c ∧ c ≠ '\n' := by
  unfold lineBehind?
  cases s with
  | nil => simp [lineContinues]
  | cons c rest =>
    by_cases hc : c = '\n'
    · simp [lineContinues, hc]
    · simp only [lineContinues, bne_iff_ne, ne_eq, hc, not_false_eq_true, if_true,
        Option.some.injEq, List.head?_cons, exists_eq_left', and_true]
      exact eq_comm

/-- The scan for a colon finds something exactly at the places to split at. -/
theorem isSplit_iff {s : List Char} {i : Nat} :
    IsSplit s i ↔ (foundAt? ':' lineBehind? s i).isSome = true := by
  rw [foundAt?_isSome_iff, Option.isSome_iff_exists]
  simp only [lineBehind?_eq_some_iff, List.head?_drop, exists_eq_left]
  exact ⟨fun h => ⟨h.colon, h.follows_word, h.line_continues⟩, fun h => ⟨h.1, h.2.1, h.2.2⟩⟩

/-- A text is not split exactly if it has no place to split at. -/
theorem splitAtColon_eq_none_iff {s : List Char} :
    splitAtColon [] s = none ↔ ∀ i, ¬ IsSplit s i := by
  simp only [splitAtColon_eq_findBehindWord, findBehindWord_eq_none_iff, isSplit_iff]

/-- A text is split at the least place to split at. -/
theorem splitAtColon_of_isLeast {s : List Char} {i : Nat} (h : IsLeast {j | IsSplit s j} i) :
    splitAtColon [] s = some (wordBefore s i, lineFrom s (i + 1)) := by
  have hline : lineBehind? (s.drop (i + 1)) = some (lineFrom s (i + 1)) := by
    rw [lineBehind?_eq_some_iff, List.head?_drop]
    exact ⟨rfl, h.1.line_continues⟩
  simp only [isSplit_iff] at h
  rw [splitAtColon_eq_findBehindWord, findBehindWord_of_isLeast h, foundAt?_of_isSome h.1 hline]

/-! ## The parenthesis of a call -/

/-- The search for a call is a scan for an opening parenthesis and the argument behind it. -/
theorem findCall_eq_findBehindWord (word s : List Char) :
    findCall word s = findBehindWord '(' callArgument? word s := by
  induction s generalizing word with
  | nil => rfl
  | cons c rest ih =>
    rw [findCall, findBehindWord]
    by_cases hhere : c = '(' ∧ word ≠ []
    · obtain ⟨rfl, hword⟩ := hhere
      rw [if_pos ⟨rfl, by simpa using hword⟩, if_pos ⟨rfl, hword⟩]
      cases callArgument? rest with
      | some argument => rfl
      | none => exact ih []
    · rw [if_neg hhere, if_neg (fun h => hhere ⟨h.1, by simpa using h.2⟩)]
      split <;> exact ih _

/-- The argument of a call is a word that a closing parenthesis follows. -/
theorem callArgument?_eq_some_iff {s argument : List Char} :
    callArgument? s = some argument ↔
      argument = s.takeWhile Text.isAsciiWord ∧ argument ≠ [] ∧
        s[argument.length]? = some ')' := by
  have hbehind : (s.dropWhile Text.isAsciiWord).head? =
      s[(s.takeWhile Text.isAsciiWord).length]? := by
    have hparts := List.takeWhile_append_dropWhile (p := Text.isAsciiWord) (l := s)
    calc (s.dropWhile Text.isAsciiWord).head?
      _ = (s.takeWhile Text.isAsciiWord ++ s.dropWhile Text.isAsciiWord)[
            (s.takeWhile Text.isAsciiWord).length]? := by
          rw [List.getElem?_append_right le_rfl, Nat.sub_self, List.head?_eq_getElem?]
      _ = s[(s.takeWhile Text.isAsciiWord).length]? := by rw [hparts]
  unfold callArgument?
  dsimp only
  rw [hbehind]
  constructor
  · intro h
    split at h
    · next hargument =>
      rw [Option.some.injEq] at h
      subst h
      exact ⟨rfl, by simpa using hargument.1, hargument.2⟩
    · cases h
  · rintro ⟨rfl, hne, hclose⟩
    rw [if_pos ⟨by simpa using hne, hclose⟩]

/-- The scan for an opening parenthesis finds something exactly at the calls. -/
theorem isCall_iff {s : List Char} {i : Nat} :
    IsCall s i ↔ (foundAt? '(' callArgument? s i).isSome = true := by
  rw [foundAt?_isSome_iff, Option.isSome_iff_exists]
  simp only [callArgument?_eq_some_iff, exists_eq_left, List.getElem?_drop]
  exact ⟨fun h => ⟨h.opens, h.follows_word, h.argument_ne_nil, h.closes⟩,
    fun h => ⟨h.1, h.2.1, h.2.2.1, h.2.2.2⟩⟩

/-- No call is found exactly if there is none. -/
theorem findCall_eq_none_iff {s : List Char} :
    findCall [] s = none ↔ ∀ i, ¬ IsCall s i := by
  simp only [findCall_eq_findBehindWord, findBehindWord_eq_none_iff, isCall_iff]

/-- The call that is found is the least one. -/
theorem findCall_of_isLeast {s : List Char} {i : Nat} (h : IsLeast {j | IsCall s j} i) :
    findCall [] s = some (wordBefore s i, wordFrom s (i + 1)) := by
  have hargument : callArgument? (s.drop (i + 1)) = some (wordFrom s (i + 1)) := by
    rw [callArgument?_eq_some_iff, List.getElem?_drop]
    exact ⟨rfl, h.1.argument_ne_nil, h.1.closes⟩
  simp only [isCall_iff] at h
  rw [findCall_eq_findBehindWord, findBehindWord_of_isLeast h, foundAt?_of_isSome h.1 hargument]

/-! ## The parts of a directive -/

namespace Directive

/-- A token stands for a directive when a colon in it has a word in front and a character of the
line behind it.  The first such colon decides: the directive is made of the longest word in front of
it and of the rest of the line, which for a token of a term is the whole rest of the token. -/
theorem candidate_is_split_at_first_colon (token : String) :
    (candidate? token = none ↔ ∀ i, ¬ IsSplit token.toList i) ∧
      ∀ i, IsLeast {j | IsSplit token.toList j} i →
        candidate? token = some (ofParts (String.ofList (wordBefore token.toList i))
          (String.ofList (lineFrom token.toList (i + 1)))) ∧
        ∀ term, token ∈ Text.split term →
          lineFrom token.toList (i + 1) = token.toList.drop (i + 1) := by
  constructor
  · rw [candidate?, Option.map_eq_none_iff, splitAtColon_eq_none_iff]
  · intro i hi
    constructor
    · rw [candidate?, splitAtColon_of_isLeast hi, Option.map_some]
    · intro term hmem
      have hline := (isToken_of_mem_split hmem).line_feed_not_mem
      exact takeWhile_of_line_feed_not_mem fun h => hline (List.mem_of_mem_drop h)

/-- A number with a property that no smaller one has is the least with it. -/
theorem isLeast_of_forall_lt {P : Nat → Prop} {i : Nat} (hi : P i) (hbefore : ∀ j < i, ¬ P j) :
    IsLeast {j | P j} i := by
  refine ⟨hi, ?_⟩
  intro j hj
  by_contra hlt
  exact hbefore j (Nat.lt_of_not_le hlt) hj

/-- The first colons begin the token, follow a letter that is none of the ASCII alphabet, or end
their line. -/
theorem candidate_behind_odd_colons :
    let token := ":é:a:\nkind:b:c\nd"
    IsLeast {j | IsSplit token.toList j} 10 ∧
      candidate? token =
        some { userInput := "kind:b:c", name := "kind", argument := some "b:c" } := by
  intro token
  have hfirst : IsLeast {j | IsSplit token.toList j} 10 :=
    isLeast_of_forall_lt (by decide +kernel) (by decide +kernel)
  refine ⟨hfirst, ?_⟩
  rw [((candidate_is_split_at_first_colon token).2 10 hfirst).1]
  decide +kernel

/-- The word that introduces a scope is made of plain letters. -/
theorem scopeWord_isPlain : ∀ d ∈ scopeWord.toList, Text.IsPlainLetter d := by
  have hletters : scopeWord.toList.all (fun d => d.isLower && d != 'i' && d != 'k') = true := rfl
  intro d hd
  have hletter := List.all_eq_true.mp hletters d hd
  simp only [Bool.and_eq_true, bne_iff_ne] at hletter
  exact ⟨hletter.1.1, hletter.1.2, hletter.2⟩

/-- Behind the introducing word, in capitals or small letters, the first call decides: its name is
the longest word in front of the parenthesis and its argument the word inside.  Without a call the
whole text is the name.  In front of any other word, the word is the name and the text behind the
colon the argument. -/
theorem parts_make_directive (left right : String) :
    (left.toLower = scopeWord →
      (ofParts left right).userInput = right ∧
      (∀ i, IsLeast {j | IsCall right.toList j} i →
        (ofParts left right).name = String.ofList (wordBefore right.toList i) ∧
        (ofParts left right).argument = some (String.ofList (wordFrom right.toList (i + 1)))) ∧
      ((∀ i, ¬ IsCall right.toList i) →
        (ofParts left right).name = right ∧ (ofParts left right).argument = none)) ∧
    (left.toLower ≠ scopeWord →
      ofParts left right =
        { userInput := left ++ ":" ++ right, name := left, argument := some right }) := by
  simp only [ne_eq, ← Text.lower_eq_iff scopeWord_isPlain]
  constructor
  · intro hleft
    unfold ofParts
    rw [if_pos hleft]
    refine ⟨?_, ?_, ?_⟩
    · split <;> rfl
    · intro i hi
      rw [findCall_of_isLeast hi]
      exact ⟨rfl, rfl⟩
    · intro hnone
      rw [findCall_eq_none_iff.mpr hnone]
      exact ⟨rfl, rfl⟩
  · intro hleft
    rw [ofParts, if_neg hleft]
    rfl

/-- The first parentheses hold nothing, follow another one, or follow no ASCII word character. -/
theorem call_behind_odd_parentheses :
    let right := "f()(x).(y)é(1)kind_2(vip_3))b(c)"
    "ScoPE".toLower = scopeWord ∧ IsLeast {j | IsCall right.toList j} 20 ∧
      (ofParts "ScoPE" right).userInput = right ∧
      (ofParts "ScoPE" right).name = "kind_2" ∧
      (ofParts "ScoPE" right).argument = some "vip_3" := by
  intro right
  have hleft : "ScoPE".toLower = scopeWord := by decide +kernel
  have hfirst : IsLeast {j | IsCall right.toList j} 20 :=
    isLeast_of_forall_lt (by decide +kernel) (by decide +kernel)
  obtain ⟨hinput, hcall, -⟩ := (parts_make_directive "ScoPE" right).1 hleft
  obtain ⟨hname, hargument⟩ := hcall 20 hfirst
  refine ⟨hleft, hfirst, hinput, ?_, ?_⟩
  · rw [hname]
    decide +kernel
  · rw [hargument]
    decide +kernel

end Directive

end ScopeSearch
