import ScopeSearch.Json
import ScopeSearch.Number.Numeral

/-!
# Reading JSON

The grammar of JSON as a relation between a text, what stands at its beginning and what follows
that.  A reading chooses nothing: spaces are skipped as far as they reach, a number or a word takes
every character that it can, and in every other place the next character alone tells how to go on.
So a text says at most one thing, which is the law that this file establishes.

Numbers are kept as they are written, and beside those of the standard there are the words `NaN`,
`Infinity` and `-Infinity`.  Inside a string an escape of a code unit stands for a character, or two
of them for one beyond the first plane; half of such a pair stands for none and is not accepted.
-/

set_option autoImplicit false

namespace ScopeSearch.Json

/-- What a JSON text says. -/
inductive Content where
  | null
  | truth (b : Bool)
  | number (numeral : String)
  | text (s : String)
  | array (items : List Content)
  | object (members : List (String × Content))

/-! ## Numbers and words -/

def IsDigits (s : List Char) : Prop :=
  s ≠ [] ∧ ∀ c ∈ s, c.isDigit = true

/-- Digits without a zero in front of others. -/
def IsWhole (s : List Char) : Prop :=
  IsDigits s ∧ (s.head? = some '0' → s = ['0'])

inductive IsFraction : List Char → Prop
  | absent : IsFraction []
  | point {digits : List Char} : IsDigits digits → IsFraction ('.' :: digits)

inductive IsExponent : List Char → Prop
  | absent : IsExponent []
  | power {e : Char} {sign digits : List Char} : e ∈ ['e', 'E'] → sign ∈ [[], ['+'], ['-']] →
      IsDigits digits → IsExponent (e :: (sign ++ digits))

/-- A number without its sign. -/
inductive IsMagnitude : List Char → Prop
  | finite {whole fraction exponent : List Char} : IsWhole whole → IsFraction fraction →
      IsExponent exponent → IsMagnitude (whole ++ fraction ++ exponent)
  | infinite : IsMagnitude "Infinity".toList

/-- The text of a number. -/
inductive IsNumeral : List Char → Prop
  | signed {sign s : List Char} : sign ∈ [[], ['-']] → IsMagnitude s → IsNumeral (sign ++ s)
  | nan : IsNumeral "NaN".toList

def words : List (List Char × Content) :=
  [("null".toList, .null), ("true".toList, .truth true), ("false".toList, .truth false)]

/-- What a text without spaces, marks and quotes says. -/
inductive Denotes : List Char → Content → Prop
  | word {s : List Char} {v : Content} : (s, v) ∈ words → Denotes s v
  | number {s : List Char} : IsNumeral s → Denotes s (.number (String.ofList s))

/-- A number without a sign begins with a digit or with the letter of infinity. -/
theorem IsMagnitude.head {s : List Char} (h : IsMagnitude s) :
    ∃ c rest, s = c :: rest ∧ (c.isDigit = true ∨ c = 'I') := by
  cases h with
  | finite hwhole _ _ =>
    obtain ⟨⟨hne, hdigits⟩, -⟩ := hwhole
    obtain ⟨d, digits, rfl⟩ := List.exists_cons_of_ne_nil hne
    exact ⟨d, _, rfl, .inl (hdigits d List.mem_cons_self)⟩
  | infinite => exact ⟨'I', _, rfl, .inr rfl⟩

/-- A numeral begins with a digit, a minus, or the letter of one of the two numbers that are words.
-/
theorem IsNumeral.head {s : List Char} (h : IsNumeral s) :
    ∃ c rest, s = c :: rest ∧ (c.isDigit = true ∨ c ∈ ['I', '-', 'N']) := by
  cases h with
  | signed hsign hs =>
    obtain ⟨c, rest, rfl, hc⟩ := hs.head
    rcases (by simpa using hsign : _ = [] ∨ _ = ['-']) with rfl | rfl
    · exact ⟨c, rest, rfl, hc.imp_right (by simp [·])⟩
    · exact ⟨'-', _, rfl, .inr (by simp)⟩
  | nan => exact ⟨'N', _, rfl, .inr (by simp)⟩

/-- No numeral is one of the words. -/
theorem IsNumeral.not_mem_words {s : List Char} (h : IsNumeral s) (v : Content) :
    (s, v) ∉ words := by
  obtain ⟨c, rest, rfl, hc⟩ := h.head
  intro hword
  have hword : c = 'n' ∨ c = 't' ∨ c = 'f' := by
    simp only [words, List.mem_cons, Prod.mk.injEq, List.not_mem_nil, or_false] at hword
    rcases hword with ⟨hs, -⟩ | ⟨hs, -⟩ | ⟨hs, -⟩
    · exact .inl (List.cons.inj hs).1
    · exact .inr (.inl (List.cons.inj hs).1)
    · exact .inr (.inr (List.cons.inj hs).1)
  rcases hword with rfl | rfl | rfl <;> revert hc <;> decide

/-- The empty text says nothing. -/
theorem not_denotes_nil (v : Content) : ¬ Denotes [] v := by
  intro h
  generalize hs : ([] : List Char) = s at h
  cases h with
  | word hword =>
    subst hs
    simp [words] at hword
  | number hnumeral =>
    obtain ⟨c, rest, hcons, -⟩ := hnumeral.head
    simp [← hs] at hcons

/-- A word or number says one thing. -/
theorem Denotes.unique {s : List Char} {v v' : Content} (h : Denotes s v) (h' : Denotes s v') :
    v = v' := by
  cases h with
  | word hword =>
    cases h' with
    | word hword' =>
      simp only [words, List.mem_cons, Prod.mk.injEq, List.not_mem_nil, or_false] at hword hword'
      rcases hword with ⟨rfl, rfl⟩ | ⟨rfl, rfl⟩ | ⟨rfl, rfl⟩ <;>
        simpa [eq_comm] using hword'
    | number hnumeral => exact absurd hword (hnumeral.not_mem_words v)
  | number hnumeral =>
    cases h' with
    | word hword => exact absurd hword (hnumeral.not_mem_words v')
    | number _ => rfl

/-! ## Strings -/

/-- A character that stands for itself inside a string. -/
def IsPlain (c : Char) : Prop :=
  0x20 ≤ c.toNat ∧ c ≠ '"' ∧ c ≠ '\\'

/-- What an escape of one character stands for. -/
def escaped? (c : Char) : Option Char :=
  [('"', '"'), ('\\', '\\'), ('/', '/'), ('b', Char.ofNat 8), ('f', Char.ofNat 12), ('n', '\n'),
    ('r', '\r'), ('t', '\t')].lookup c

/-- Four hexadecimal digits write a code unit. -/
def IsCode (digits : List Char) (code : Nat) : Prop :=
  Number.allDigits 16 digits = true ∧ Number.digitsValue 16 digits = code

/-- A string up to its closing quote, as the characters that it stands for. -/
inductive ReadsString : List Char → List Char → List Char → Prop
  | close {rest : List Char} : ReadsString ('"' :: rest) [] rest
  | plain {c : Char} {s text rest : List Char} : IsPlain c → ReadsString s text rest →
      ReadsString (c :: s) (c :: text) rest
  | escape {e c : Char} {s text rest : List Char} : escaped? e = some c →
      ReadsString s text rest → ReadsString ('\\' :: e :: s) (c :: text) rest
  | code {a b c d x : Char} {s text rest : List Char} : IsCode [a, b, c, d] x.toNat →
      ReadsString s text rest → ReadsString ('\\' :: 'u' :: a :: b :: c :: d :: s) (x :: text) rest
  | pair {a b c d a' b' c' d' x : Char} {high low : Nat} {s text rest : List Char} :
      IsCode [a, b, c, d] (0xD800 + high) → IsCode [a', b', c', d'] (0xDC00 + low) →
      high < 0x400 → low < 0x400 → x.toNat = 0x10000 + 0x400 * high + low →
      ReadsString s text rest →
      ReadsString ('\\' :: 'u' :: a :: b :: c :: d :: '\\' :: 'u' :: a' :: b' :: c' :: d' :: s)
        (x :: text) rest

/-- Four hexadecimal digits write one code unit. -/
theorem IsCode.unique {digits : List Char} {m n : Nat} (h : IsCode digits m)
    (h' : IsCode digits n) : m = n :=
  h.2.symm.trans h'.2

/-- The code of a character is no half of a pair. -/
theorem toNat_ne_high (x : Char) {high : Nat} (h : high < 0x400) : x.toNat ≠ 0xD800 + high := by
  intro heq
  have hvalid : x.toNat < 0xD800 ∨ (0xDFFF < x.toNat ∧ x.toNat < 0x110000) := x.valid
  omega

/-- The letter of an escape by code unit has no meaning as a short escape. -/
theorem escaped?_u : escaped? 'u' = none := rfl

/-- A string is read in one way. -/
theorem ReadsString.unique {s text text' rest rest' : List Char} (h : ReadsString s text rest)
    (h' : ReadsString s text' rest') : text = text' ∧ rest = rest' := by
  induction h generalizing text' with
  | close =>
    cases h' with
    | close => exact ⟨rfl, rfl⟩
    | plain hplain _ => exact absurd rfl hplain.2.1
  | plain hplain _ ih =>
    cases h' with
    | close => exact absurd rfl hplain.2.1
    | plain _ hrest => simpa using ih hrest
    | escape _ _ => exact absurd rfl hplain.2.2
    | code _ _ => exact absurd rfl hplain.2.2
    | pair _ _ _ _ _ _ => exact absurd rfl hplain.2.2
  | escape hescaped _ ih =>
    cases h' with
    | plain hplain _ => exact absurd rfl hplain.2.2
    | escape hescaped' hrest =>
      obtain rfl := Option.some.inj (hescaped.symm.trans hescaped')
      simpa using ih hrest
    | code _ _ => simp [escaped?_u] at hescaped
    | pair _ _ _ _ _ _ => simp [escaped?_u] at hescaped
  | code hcode _ ih =>
    cases h' with
    | plain hplain _ => exact absurd rfl hplain.2.2
    | escape hescaped _ => simp [escaped?_u] at hescaped
    | code hcode' hrest =>
      obtain rfl := Char.toNat_inj.mp (hcode.unique hcode')
      simpa using ih hrest
    | pair hhigh _ hlt _ _ _ => exact absurd (hcode.unique hhigh) (toNat_ne_high _ hlt)
  | pair hhigh hlow hlt _ hx _ ih =>
    cases h' with
    | plain hplain _ => exact absurd rfl hplain.2.2
    | escape hescaped _ => simp [escaped?_u] at hescaped
    | code hcode _ => exact absurd (hcode.unique hhigh) (toNat_ne_high _ hlt)
    | pair hhigh' hlow' _ _ hx' hrest =>
      have hhighs := hhigh.unique hhigh'
      have hlows := hlow.unique hlow'
      obtain rfl := Char.toNat_inj.mp (hx.trans (by omega : _ = _) |>.trans hx'.symm)
      simpa using ih hrest

/-! ## Values -/

def isSpace (c : Char) : Bool :=
  c == ' ' || c == '\t' || c == '\n' || c == '\r'

/-- A character of a number or a word. -/
def isBare (c : Char) : Bool :=
  c.isAlphanum || c == '+' || c == '-' || c == '.'

/-- A text without the spaces in front of it. -/
def skip (s : List Char) : List Char :=
  s.dropWhile isSpace

mutual

/-- A value at the beginning of a text, and what follows it. -/
inductive Reads : List Char → Content → List Char → Prop
  | bare {s : List Char} {v : Content} : Denotes ((skip s).takeWhile isBare) v →
      Reads s v ((skip s).dropWhile isBare)
  | text {s t text rest : List Char} : skip s = '"' :: t → ReadsString t text rest →
      Reads s (.text (String.ofList text)) rest
  | emptyArray {s t rest : List Char} : skip s = '[' :: t → skip t = ']' :: rest →
      Reads s (.array []) rest
  | array {s t u rest : List Char} {v : Content} {vs : List Content} : skip s = '[' :: t →
      Reads t v u → ReadsItems u vs rest → Reads s (.array (v :: vs)) rest
  | emptyObject {s t rest : List Char} : skip s = '\x7b' :: t → skip t = '\x7d' :: rest →
      Reads s (.object []) rest
  | object {s t u rest : List Char} {m : String × Content} {ms : List (String × Content)} :
      skip s = '\x7b' :: t → ReadsMember t m u → ReadsMembers u ms rest →
      Reads s (.object (m :: ms)) rest

/-- The elements of an array behind the first one, and what follows the array. -/
inductive ReadsItems : List Char → List Content → List Char → Prop
  | close {s rest : List Char} : skip s = ']' :: rest → ReadsItems s [] rest
  | next {s t u rest : List Char} {v : Content} {vs : List Content} : skip s = ',' :: t →
      Reads t v u → ReadsItems u vs rest → ReadsItems s (v :: vs) rest

/-- A member of an object, and what follows it. -/
inductive ReadsMember : List Char → String × Content → List Char → Prop
  | named {s t name u w rest : List Char} {v : Content} : skip s = '"' :: t →
      ReadsString t name u → skip u = ':' :: w → Reads w v rest →
      ReadsMember s (String.ofList name, v) rest

/-- The members of an object behind the first one, and what follows the object. -/
inductive ReadsMembers : List Char → List (String × Content) → List Char → Prop
  | close {s rest : List Char} : skip s = '\x7d' :: rest → ReadsMembers s [] rest
  | next {s t u rest : List Char} {m : String × Content} {ms : List (String × Content)} :
      skip s = ',' :: t → ReadsMember t m u → ReadsMembers u ms rest →
      ReadsMembers s (m :: ms) rest

end

/-- A whole text says something. -/
def IsText (v : Content) (s : List Char) : Prop :=
  ∃ rest, Reads s v rest ∧ skip rest = []

/-! ### The first character decides -/

section FirstCharacter

variable {s t rest : List Char} {v : Content}

/-- A value that begins with a mark is no word and no number. -/
theorem not_denotes_mark {c : Char} (hc : isBare c = false) (hs : skip s = c :: t) :
    ¬ Denotes ((skip s).takeWhile isBare) v := by
  rw [hs, List.takeWhile_cons_of_neg (by simp [hc])]
  exact not_denotes_nil v

/-- A value that begins with a quote is a string. -/
theorem Reads.of_quote (h : Reads s v rest) (hs : skip s = '"' :: t) :
    ∃ text, v = .text (String.ofList text) ∧ ReadsString t text rest := by
  cases h with
  | bare hword => exact absurd hword (not_denotes_mark (by decide) hs)
  | text hs' htext =>
    obtain rfl := (List.cons.inj (hs.symm.trans hs')).2
    exact ⟨_, rfl, htext⟩
  | _ => simp_all

/-- A value that begins with a bracket is an array, which is empty or has a first element. -/
theorem Reads.of_bracket (h : Reads s v rest) (hs : skip s = '[' :: t) :
    (v = .array [] ∧ skip t = ']' :: rest) ∨
      ∃ first more u, v = .array (first :: more) ∧ Reads t first u ∧ ReadsItems u more rest := by
  cases h with
  | bare hword => exact absurd hword (not_denotes_mark (by decide) hs)
  | emptyArray hs' hclose =>
    obtain rfl := (List.cons.inj (hs.symm.trans hs')).2
    exact .inl ⟨rfl, hclose⟩
  | array hs' hfirst hmore =>
    obtain rfl := (List.cons.inj (hs.symm.trans hs')).2
    exact .inr ⟨_, _, _, rfl, hfirst, hmore⟩
  | _ => simp_all

/-- A value that begins with a brace is an object, which is empty or has a first member. -/
theorem Reads.of_brace (h : Reads s v rest) (hs : skip s = '\x7b' :: t) :
    (v = .object [] ∧ skip t = '\x7d' :: rest) ∨
      ∃ first more u, v = .object (first :: more) ∧ ReadsMember t first u ∧
        ReadsMembers u more rest := by
  cases h with
  | bare hword => exact absurd hword (not_denotes_mark (by decide) hs)
  | emptyObject hs' hclose =>
    obtain rfl := (List.cons.inj (hs.symm.trans hs')).2
    exact .inl ⟨rfl, hclose⟩
  | object hs' hfirst hmore =>
    obtain rfl := (List.cons.inj (hs.symm.trans hs')).2
    exact .inr ⟨_, _, _, rfl, hfirst, hmore⟩
  | _ => simp_all

/-- A value that begins with a word or number is that word or number. -/
theorem Reads.of_word {w : Content} (h : Reads s v rest)
    (hs : Denotes ((skip s).takeWhile isBare) w) :
    Denotes ((skip s).takeWhile isBare) v ∧ rest = (skip s).dropWhile isBare := by
  cases h with
  | bare hword => exact ⟨hword, rfl⟩
  | text hs' _ => exact absurd hs (not_denotes_mark (by decide) hs')
  | emptyArray hs' _ => exact absurd hs (not_denotes_mark (by decide) hs')
  | array hs' _ _ => exact absurd hs (not_denotes_mark (by decide) hs')
  | emptyObject hs' _ => exact absurd hs (not_denotes_mark (by decide) hs')
  | object hs' _ _ => exact absurd hs (not_denotes_mark (by decide) hs')

/-- No value begins with the end of an array. -/
theorem Reads.not_close (h : Reads s v rest) : skip s ≠ ']' :: t := by
  intro hs
  cases h with
  | bare hword => exact not_denotes_mark (by decide) hs hword
  | _ => simp_all

end FirstCharacter

-- the first reading is taken apart, and the second one is inverted at the same first character
mutual

/-- A value is read in one way. -/
theorem Reads.unique {s rest rest' : List Char} {v v' : Content} :
    Reads s v rest → Reads s v' rest' → v = v' ∧ rest = rest'
  | .bare hword, h' => by
    obtain ⟨hword', rfl⟩ := h'.of_word hword
    exact ⟨hword.unique hword', rfl⟩
  | .text hs htext, h' => by
    obtain ⟨text', rfl, htext'⟩ := h'.of_quote hs
    obtain ⟨rfl, rfl⟩ := htext.unique htext'
    exact ⟨rfl, rfl⟩
  | .emptyArray hs hclose, h' => by
    rcases h'.of_bracket hs with ⟨rfl, hclose'⟩ | ⟨_, _, _, -, hfirst, -⟩
    · exact ⟨rfl, (List.cons.inj (hclose.symm.trans hclose')).2⟩
    · exact absurd hclose hfirst.not_close
  | .array hs hfirst hmore, h' => by
    rcases h'.of_bracket hs with ⟨-, hclose⟩ | ⟨_, _, _, rfl, hfirst', hmore'⟩
    · exact absurd hclose hfirst.not_close
    · obtain ⟨rfl, rfl⟩ := Reads.unique hfirst hfirst'
      obtain ⟨rfl, rfl⟩ := ReadsItems.unique hmore hmore'
      exact ⟨rfl, rfl⟩
  | .emptyObject hs hclose, h' => by
    rcases h'.of_brace hs with ⟨rfl, hclose'⟩ | ⟨_, _, _, -, hfirst, -⟩
    · exact ⟨rfl, (List.cons.inj (hclose.symm.trans hclose')).2⟩
    · cases hfirst
      simp_all
  | .object hs hfirst hmore, h' => by
    rcases h'.of_brace hs with ⟨-, hclose⟩ | ⟨_, _, _, rfl, hfirst', hmore'⟩
    · cases hfirst
      simp_all
    · obtain ⟨rfl, rfl⟩ := ReadsMember.unique hfirst hfirst'
      obtain ⟨rfl, rfl⟩ := ReadsMembers.unique hmore hmore'
      exact ⟨rfl, rfl⟩

/-- Further elements of an array are read in one way. -/
theorem ReadsItems.unique {s rest rest' : List Char} {vs vs' : List Content} :
    ReadsItems s vs rest → ReadsItems s vs' rest' → vs = vs' ∧ rest = rest'
  | .close hs, h' => by
    cases h' with
    | close hs' => exact ⟨rfl, (List.cons.inj (hs.symm.trans hs')).2⟩
    | next hs' _ _ => simp [hs] at hs'
  | .next hs hfirst hmore, h' => by
    cases h' with
    | close hs' => simp [hs] at hs'
    | next hs' hfirst' hmore' =>
      obtain rfl := (List.cons.inj (hs.symm.trans hs')).2
      obtain ⟨rfl, rfl⟩ := Reads.unique hfirst hfirst'
      obtain ⟨rfl, rfl⟩ := ReadsItems.unique hmore hmore'
      exact ⟨rfl, rfl⟩

/-- A member of an object is read in one way. -/
theorem ReadsMember.unique {s rest rest' : List Char} {m m' : String × Content} :
    ReadsMember s m rest → ReadsMember s m' rest' → m = m' ∧ rest = rest'
  | .named hs hname hcolon hvalue, h' => by
    cases h' with
    | named hs' hname' hcolon' hvalue' =>
      obtain rfl := (List.cons.inj (hs.symm.trans hs')).2
      obtain ⟨rfl, rfl⟩ := hname.unique hname'
      obtain rfl := (List.cons.inj (hcolon.symm.trans hcolon')).2
      obtain ⟨rfl, rfl⟩ := Reads.unique hvalue hvalue'
      exact ⟨rfl, rfl⟩

/-- Further members of an object are read in one way. -/
theorem ReadsMembers.unique {s rest rest' : List Char} {ms ms' : List (String × Content)} :
    ReadsMembers s ms rest → ReadsMembers s ms' rest' → ms = ms' ∧ rest = rest'
  | .close hs, h' => by
    cases h' with
    | close hs' => exact ⟨rfl, (List.cons.inj (hs.symm.trans hs')).2⟩
    | next hs' _ _ => simp [hs] at hs'
  | .next hs hfirst hmore, h' => by
    cases h' with
    | close hs' => simp [hs] at hs'
    | next hs' hfirst' hmore' =>
      obtain rfl := (List.cons.inj (hs.symm.trans hs')).2
      obtain ⟨rfl, rfl⟩ := ReadsMember.unique hfirst hfirst'
      obtain ⟨rfl, rfl⟩ := ReadsMembers.unique hmore hmore'
      exact ⟨rfl, rfl⟩

end

/-- A text says at most one thing. -/
theorem IsText.unique {v v' : Content} {s : List Char} (h : IsText v s) (h' : IsText v' s) :
    v = v' := by
  obtain ⟨rest, hreads, -⟩ := h
  obtain ⟨rest', hreads', -⟩ := h'
  exact (hreads.unique hreads').1

end ScopeSearch.Json
