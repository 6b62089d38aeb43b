import ScopeSearch.Proofs.Character
import ScopeSearch.Proofs.JsonNumeral
import ScopeSearch.Proofs.Outcome

/-!
# Written JSON is read back

What the writer makes of a value is read back as what the value says, wherever it stands: the only
thing that may not follow is a character that would prolong a number or a word, and the writer
places a comma, a colon or a bracket there.  The written text has no control characters, so it
stays on one line.
-/

set_option autoImplicit false

namespace ScopeSearch

namespace Json

/-! ## What a value says -/

/-- The name that a key is written as; what is no key keeps its plain form. -/
def nameOf (k : Value) : String :=
  match keyText k with
  | .ok s => s
  | .error _ => k.written

mutual

/-- What the text of a value says.  A value of a kind that JSON does not have is a text. -/
def Content.ofValue : Value → Content
  | .null => .null
  | .bool b => .truth b
  | .int n => .number (toString n)
  | .float x => .number (Json.number x)
  | .text s => .text s
  | .textMember s => .text s
  | .list items => .array (ofValues items)
  | .tuple items => .array (ofValues items)
  | .map entries => .object (ofEntries entries)
  | .marked _ v => ofValue v
  | v => .text v.written

def Content.ofValues : List Value → List Content
  | [] => []
  | v :: rest => ofValue v :: ofValues rest

def Content.ofEntries : List (Value × Value) → List (String × Content)
  | [] => []
  | (k, v) :: rest => (nameOf k, ofValue v) :: ofEntries rest

end

/-! ## Texts in place -/

/-- No number and no word goes on here. -/
def Stops (rest : List Char) : Prop :=
  ∀ c ∈ rest.head?, isBare c = false

/-- A text without control characters that is read as `x` in every place. -/
structure Spells {α : Type} (R : List Char → α → List Char → Prop) (s : List Char) (x : α) :
    Prop where
  printable : ∀ c ∈ s, 0x20 ≤ c.toNat
  reads : ∀ rest, Stops rest → R (s ++ rest) x rest

/-- A text stops a word where it begins with a character that belongs to none. -/
theorem Stops.cons {c : Char} (h : isBare c = false) (rest : List Char) : Stops (c :: rest) := by
  intro d hd
  obtain rfl : c = d := by simpa using hd
  exact h

/-- A blank in front of a value is passed over. -/
theorem Reads.of_space {s rest : List Char} {v : Content} (h : Reads s v rest) :
    Reads (' ' :: s) v rest := by
  cases h with
  | bare hword => exact Reads.bare hword
  | text hs htext => exact Reads.text hs htext
  | emptyArray hs hclose => exact Reads.emptyArray hs hclose
  | array hs hfirst hmore => exact Reads.array hs hfirst hmore
  | emptyObject hs hclose => exact Reads.emptyObject hs hclose
  | object hs hfirst hmore => exact Reads.object hs hfirst hmore

/-- A blank in front of a member is passed over. -/
theorem ReadsMember.of_space {s rest : List Char} {m : String × Content}
    (h : ReadsMember s m rest) : ReadsMember (' ' :: s) m rest := by
  cases h with
  | named hs hname hcolon hvalue => exact ReadsMember.named hs hname hcolon hvalue

/-! ## Numbers and words -/

/-- A character of a word is neither a control character nor a space. -/
theorem isBare_spec {c : Char} (h : isBare c = true) : 0x20 ≤ c.toNat ∧ isSpace c = false := by
  have hascii : c.toNat ≤ 122 := by
    simp only [isBare, Bool.or_eq_true, beq_iff_eq] at h
    rcases h with ((h | rfl) | rfl) | rfl
    · exact (toNat_of_isAlphanum h).2
    all_goals decide
  have hall := of_toNat_le
    (P := fun c => isBare c = true → 0x20 ≤ c.toNat ∧ isSpace c = false)
    (by decide +kernel) hascii
  exact hall h

/-- Digits belong to words. -/
theorem isBare_of_isDigit {c : Char} (h : c.isDigit = true) : isBare c = true := by
  simp [isBare, Char.isAlphanum, h]

/-- Digits are made of characters of words. -/
theorem IsDigits.isBare {s : List Char} (h : IsDigits s) : ∀ c ∈ s, isBare c = true :=
  fun c hc => isBare_of_isDigit (h.2 c hc)

/-- The digits behind a point, with the point, are made of characters of words. -/
theorem IsFraction.isBare {s : List Char} (h : IsFraction s) : ∀ c ∈ s, isBare c = true := by
  cases h with
  | absent => simp
  | point hdigits => exact List.forall_mem_cons.mpr ⟨rfl, hdigits.isBare⟩

/-- An exponent is made of characters of words. -/
theorem IsExponent.isBare {s : List Char} (h : IsExponent s) : ∀ c ∈ s, isBare c = true := by
  cases h with
  | absent => simp
  | @power e sign digits he hsign hdigits =>
    have hletter : Json.isBare e = true := by
      rcases (by simpa using he : e = 'e' ∨ e = 'E') with rfl | rfl <;> rfl
    have hmark : ∀ c ∈ sign, Json.isBare c = true := by
      rcases (by simpa using hsign : sign = [] ∨ sign = ['+'] ∨ sign = ['-']) with
        rfl | rfl | rfl <;> exact List.all_eq_true.mp rfl
    rw [List.forall_mem_cons, List.forall_mem_append]
    exact ⟨hletter, hmark, hdigits.isBare⟩

/-- A number without a sign is made of characters of words. -/
theorem IsMagnitude.isBare {s : List Char} (h : IsMagnitude s) : ∀ c ∈ s, isBare c = true := by
  cases h with
  | finite hwhole hfraction hexponent =>
    rw [List.forall_mem_append, List.forall_mem_append]
    exact ⟨⟨hwhole.1.isBare, hfraction.isBare⟩, hexponent.isBare⟩
  | infinite => exact List.all_eq_true.mp rfl

/-- A word or number is made of characters of words. -/
theorem Denotes.isBare {s : List Char} {v : Content} (h : Denotes s v) :
    ∀ c ∈ s, isBare c = true := by
  cases h with
  | word hword =>
    simp only [words, List.mem_cons, Prod.mk.injEq, List.not_mem_nil, or_false] at hword
    rcases hword with ⟨rfl, -⟩ | ⟨rfl, -⟩ | ⟨rfl, -⟩ <;> exact List.all_eq_true.mp rfl
  | number hnumeral =>
    cases hnumeral with
    | @signed sign s hsign hs =>
      have hmark : ∀ c ∈ sign, Json.isBare c = true := by
        rcases (by simpa using hsign : sign = [] ∨ sign = ['-']) with rfl | rfl <;>
          exact List.all_eq_true.mp rfl
      exact List.forall_mem_append.mpr ⟨hmark, hs.isBare⟩
    | nan => exact List.all_eq_true.mp rfl

/-- A word or number spells what it says, because it is read up to the first character that stops
it. -/
theorem Denotes.spells {s : List Char} {v : Content} (h : Denotes s v) : Spells Reads s v := by
  have hbare := h.isBare
  refine ⟨fun c hc => (isBare_spec (hbare c hc)).1, ?_⟩
  intro rest hrest
  -- the word has a first character, which is no space
  have hskip : skip (s ++ rest) = s ++ rest := by
    cases s with
    | nil => exact absurd h (not_denotes_nil v)
    | cons c s => exact List.dropWhile_cons_of_neg (by simp [(isBare_spec (hbare c (by simp))).2])
  have hend : rest.takeWhile Json.isBare = [] ∧ rest.dropWhile Json.isBare = rest := by
    cases rest with
    | nil => exact ⟨rfl, rfl⟩
    | cons c rest => simp [hrest c rfl]
  have hword : Denotes ((skip (s ++ rest)).takeWhile Json.isBare) v := by
    rwa [hskip, List.takeWhile_append_of_pos hbare, hend.1, List.append_nil]
  have hreads := Reads.bare hword
  rwa [hskip, List.dropWhile_append_of_pos hbare, hend.2] at hreads

/-- A numeral spells the number that it writes. -/
theorem spells_numeral {s : String} (h : IsNumeral s.toList) :
    Spells Reads s.toList (.number s) := by
  have hdenotes := Denotes.number h
  rw [String.ofList_toList] at hdenotes
  exact hdenotes.spells

/-! ## Strings -/

/-- A short escape means the character that it was written for, and its letter is printable. -/
theorem shortEscape?_spec {c e : Char} (h : shortEscape? c = some e) :
    escaped? e = some c ∧ 0x20 ≤ e.toNat := by
  unfold shortEscape? at h
  repeat' split at h
  all_goals cases h
  all_goals
    subst_vars
    exact ⟨rfl, by decide⟩

/-- A character without a short escape is no quote and no backslash. -/
theorem ne_of_shortEscape? {c : Char} (h : shortEscape? c = none) : c ≠ '"' ∧ c ≠ '\\' := by
  constructor <;>
  · rintro rfl
    cases h

/-- The code of a control character is read back. -/
theorem isCode_hexDigits {n : Nat} (h : n < 0x20) :
    IsCode (Text.hexDigits 4 n) n ∧ ∀ d ∈ Text.hexDigits 4 n, 0x20 ≤ d.toNat := by
  have hall : ∀ k < 0x20, (Number.allDigits 16 (Text.hexDigits 4 k) = true ∧
      Number.digitsValue 16 (Text.hexDigits 4 k) = k) ∧
      (Text.hexDigits 4 k).all (0x20 ≤ ·.toNat) = true := by
    decide +kernel
  obtain ⟨hcode, hprintable⟩ := hall n h
  exact ⟨hcode, by simpa using hprintable⟩

/-- What is written for one character has no control characters. -/
theorem printable_escapeChar (c : Char) : ∀ d ∈ escapeChar c, 0x20 ≤ d.toNat := by
  unfold escapeChar
  split
  · next e he => simpa using (shortEscape?_spec he).2
  · split
    · next hc => simpa using (isCode_hexDigits hc).2
    · next hc => simpa using hc

/-- What is written for a character, in front of the rest of a string, is read as that character. -/
theorem ReadsString.escapeChar {s text rest : List Char} (h : ReadsString s text rest) (c : Char) :
    ReadsString (escapeChar c ++ s) (c :: text) rest := by
  unfold Json.escapeChar
  split
  · next e he => exact .escape (shortEscape?_spec he).1 h
  · next hc =>
    split
    · next hcontrol => exact .code (isCode_hexDigits hcontrol).1 h
    · next hprintable => exact .plain ⟨not_lt.mp hprintable, ne_of_shortEscape? hc⟩ h

/-- The escapes of a text, up to the closing quote, are read as that text. -/
theorem readsString_escaped (s rest : List Char) :
    ReadsString (s.flatMap escapeChar ++ '"' :: rest) s rest := by
  induction s with
  | nil => exact .close
  | cons c s ih =>
    rw [List.flatMap_cons, List.append_assoc]
    exact ih.escapeChar c

/-- A text in quotes has no control characters. -/
theorem printable_quoteChars (s : List Char) : ∀ c ∈ quoteChars s, 0x20 ≤ c.toNat := by
  intro c hc
  rw [quoteChars, List.mem_append, List.mem_cons, List.mem_flatMap, List.mem_singleton] at hc
  rcases hc with (rfl | ⟨d, -, hc⟩) | rfl
  · decide
  · exact printable_escapeChar d c hc
  · decide

/-- A text in quotes spells the text. -/
theorem spells_quote (s : String) : Spells Reads (quote s).toList (.text s) := by
  rw [quote, String.toList_ofList]
  refine ⟨printable_quoteChars s.toList, ?_⟩
  intro rest _
  have hreads := readsString_escaped s.toList rest
  have htext := Reads.text (rfl : skip ('"' :: _) = '"' :: _) hreads
  simpa [quoteChars] using htext

/-! ## Arrays and objects -/

/-- Joined parts are the first one and every further one behind a comma and a blank. -/
theorem toList_separated (first : String) (more : List String) :
    (", ".intercalate (first :: more)).toList =
      first.toList ++ more.flatMap fun part => ',' :: ' ' :: part.toList := by
  rw [String.toList_intercalate]
  induction more generalizing first with
  | nil => simp
  | cons next more ih =>
    have hrest := ih next
    simp only [List.map_cons] at hrest ⊢
    rw [List.intercalate_cons_cons, hrest]
    simp

section Sequence

variable {α : Type} {R : List Char → α → List Char → Prop}
  {More : List Char → List α → List Char → Prop} {stop : Char}

/-- Parts with a comma in front of each are read up to a closing mark. -/
theorem reads_more (hstop : isBare stop = false) (hclose : ∀ rest, More (stop :: rest) [] rest)
    (hnext : ∀ {s u rest x xs}, R s x u → More u xs rest → More (',' :: ' ' :: s) (x :: xs) rest)
    {parts : List String} {xs : List α}
    (h : List.Forall₂ (fun part x => Spells R part.toList x) parts xs) (rest : List Char) :
    More (parts.flatMap (fun part => ',' :: ' ' :: part.toList) ++ stop :: rest) xs rest ∧
      Stops (parts.flatMap (fun part => ',' :: ' ' :: part.toList) ++ stop :: rest) := by
  -- what follows a part begins with a comma or the closing mark, so nothing prolongs the part
  induction h with
  | nil => exact ⟨hclose rest, .cons hstop rest⟩
  | cons hpart _ ih =>
    refine ⟨?_, .cons (by decide) _⟩
    have hfirst := hpart.reads _ ih.2
    simpa using hnext hfirst ih.1

/-- Further parts have no control characters if each of them spells something. -/
theorem printable_more {parts : List String} {xs : List α}
    (h : List.Forall₂ (fun part x => Spells R part.toList x) parts xs) :
    ∀ c ∈ parts.flatMap fun part => ',' :: ' ' :: part.toList, 0x20 ≤ c.toNat := by
  induction h with
  | nil => simp
  | cons hpart _ ih =>
    intro c hc
    rw [List.flatMap_cons, List.mem_append, List.mem_cons, List.mem_cons] at hc
    rcases hc with (rfl | rfl | hc) | hc
    · decide
    · decide
    · exact hpart.printable c hc
    · exact ih c hc

/-- Parts between an opening and a closing mark are read as a whole. -/
theorem spells_enclosed {start : Char} {whole : List α → Content}
    (hmarks : 0x20 ≤ start.toNat ∧ 0x20 ≤ stop.toNat) (hstop : isBare stop = false)
    (hclose : ∀ rest, More (stop :: rest) [] rest)
    (hnext : ∀ {s u rest x xs}, R s x u → More u xs rest → More (',' :: ' ' :: s) (x :: xs) rest)
    (hempty : ∀ rest, Reads (start :: stop :: rest) (whole []) rest)
    (hfirst : ∀ {s u rest x xs}, R s x u → More u xs rest →
      Reads (start :: s) (whole (x :: xs)) rest)
    {parts : List String} {xs : List α}
    (h : List.Forall₂ (fun part x => Spells R part.toList x) parts xs) :
    Spells Reads (start :: ((", ".intercalate parts).toList ++ [stop])) (whole xs) := by
  cases h with
  | nil =>
    refine ⟨by simpa using hmarks, ?_⟩
    intro rest _
    exact hempty rest
  | @cons part x more xs hpart hmore =>
    rw [toList_separated]
    constructor
    · intro c hc
      rw [List.mem_cons, List.mem_append, List.mem_append, List.mem_singleton] at hc
      rcases hc with rfl | (hc | hc) | rfl
      · exact hmarks.1
      · exact hpart.printable c hc
      · exact printable_more hmore c hc
      · exact hmarks.2
    · intro rest _
      obtain ⟨hreads, hstops⟩ := reads_more hstop hclose hnext hmore rest
      simpa using hfirst (hpart.reads _ hstops) hreads

end Sequence

/-- The parts of an array between brackets spell the array of what they spell. -/
theorem spells_array {parts : List String} {vs : List Content}
    (h : List.Forall₂ (fun part v => Spells Reads part.toList v) parts vs) :
    Spells Reads (arrayText parts).toList (.array vs) := by
  have hspells : Spells Reads ('[' :: ((", ".intercalate parts).toList ++ [']'])) (.array vs) :=
    spells_enclosed (by decide) (by decide) (fun _ => ReadsItems.close rfl)
      (fun hfirst hmore => ReadsItems.next rfl hfirst.of_space hmore)
      (fun _ => .emptyArray rfl rfl) (fun hfirst hmore => .array rfl hfirst hmore) h
  simpa [arrayText] using hspells

/-- A name and the text of a value spell a member. -/
theorem spells_field {name value : String} {v : Content} (h : Spells Reads value.toList v) :
    Spells ReadsMember (fieldText name value).toList (name, v) := by
  rw [fieldText, quote]
  constructor
  · intro c hc
    simp only [String.toList_append, String.toList_ofList, List.mem_append] at hc
    rcases hc with (hc | hc) | hc
    · exact printable_quoteChars name.toList c hc
    · rcases (by simpa using hc : c = ':' ∨ c = ' ') with rfl | rfl <;> decide
    · exact h.printable c hc
  · intro rest hrest
    have hname := readsString_escaped name.toList (':' :: ' ' :: (value.toList ++ rest))
    have hvalue := (h.reads rest hrest).of_space
    have hmember := ReadsMember.named (rfl : skip ('"' :: _) = '"' :: _) hname rfl hvalue
    simpa [quoteChars] using hmember

/-- The parts of an object between braces spell the object of what they spell. -/
theorem spells_object {parts : List String} {members : List (String × Content)}
    (h : List.Forall₂ (fun part m => Spells ReadsMember part.toList m) parts members) :
    Spells Reads (objectText parts).toList (.object members) := by
  have hspells : Spells Reads ('\x7b' :: ((", ".intercalate parts).toList ++ ['\x7d']))
      (.object members) :=
    spells_enclosed (by decide) (by decide) (fun _ => ReadsMembers.close rfl)
      (fun hfirst hmore => ReadsMembers.next rfl hfirst.of_space hmore)
      (fun _ => .emptyObject rfl rfl) (fun hfirst hmore => .object rfl hfirst hmore) h
  simpa [objectText] using hspells

end Json

/-! ## Values -/

namespace Value

/-- A value without parts that is no floating-point number. -/
def isLeaf : Value → Bool
  | float _ => false
  | list _ => false
  | tuple _ => false
  | map _ => false
  | marked _ _ => false
  | _ => true

/-- A value as a program can hold it and JSON can show it: its floating-point numbers are in the
format, and no collection in it holds itself. -/
inductive IsWellFormed : Value → Prop
  | leaf {v : Value} : v.isLeaf = true → IsWellFormed v
  | float {x : Number.Double} : x.InFormat → IsWellFormed (.float x)
  | list {items : List Value} : (∀ v ∈ items, IsWellFormed v) → IsWellFormed (.list items)
  | tuple {items : List Value} : (∀ v ∈ items, IsWellFormed v) → IsWellFormed (.tuple items)
  | map {entries : List (Value × Value)} : (∀ e ∈ entries, IsWellFormed e.1) →
      (∀ e ∈ entries, IsWellFormed e.2) → IsWellFormed (.map entries)

/-- The value can be shown as JSON. -/
structure IsWritable (v : Value) : Prop where
  wellFormed : v.IsWellFormed
  renders : ∃ s, Json.render v = .ok s

/-- Texts can be written. -/
theorem isWritable_text (s : String) : (text s).IsWritable :=
  ⟨.leaf rfl, Json.quote s, rfl⟩

end Value

namespace Json

/-- The text of a value says what the value says. -/
abbrev IsReadBack (v : Value) : Prop :=
  ∀ s, render v = .ok s → Spells Reads s.toList (.ofValue v)

/-- An integer that is written is written by its digits. -/
theorem integer_eq_ok {n : Int} {s : String} (h : integer n = .ok s) : toString n = s := by
  unfold integer at h
  split at h
  · exact Except.ok.inj h
  · cases h

/-- Every value without parts is read back. -/
theorem spells_leaf {v : Value} (h : v.isLeaf = true) : IsReadBack v := by
  intro s hs
  cases v with
  | float x => cases h
  | list items => cases h
  | tuple items => cases h
  | map entries => cases h
  | marked mark v => cases h
  | null =>
    simp only [render, Except.ok.injEq] at hs
    simp only [Content.ofValue, ← hs]
    exact Denotes.spells (.word (by simp [words]))
  | bool b =>
    simp only [render, Except.ok.injEq] at hs
    simp only [Content.ofValue, ← hs]
    cases b <;> exact Denotes.spells (.word (by simp [words, truth]))
  | int n =>
    obtain rfl := integer_eq_ok hs
    exact spells_numeral (isNumeral_int n)
  | text t =>
    cases hs
    exact spells_quote t
  | textMember t =>
    cases hs
    exact spells_quote t
  | _ =>
    obtain ⟨t, ht, rfl⟩ := map_eq_ok_iff.mp (mapError_eq_ok_iff.mp hs)
    obtain ⟨-, rfl⟩ := Value.write_eq_ok_iff.mp ht
    exact spells_quote _

/-- The written elements of a list spell what the elements say. -/
theorem spells_renderItems {items : List Value} {parts : List String}
    (hitems : ∀ v ∈ items, IsReadBack v) (h : renderItems items = .ok parts) :
    List.Forall₂ (fun part v => Spells Reads part.toList v) parts (Content.ofValues items) := by
  induction items generalizing parts with
  | nil =>
    cases h
    exact .nil
  | cons v rest ih =>
    rw [renderItems, bind_eq_ok_iff] at h
    obtain ⟨s, hs, h⟩ := h
    rw [bind_eq_ok_iff] at h
    obtain ⟨more, hmore, h⟩ := h
    cases h
    exact .cons (hitems v (by simp) s hs) (ih (fun w hw => hitems w (by simp [hw])) hmore)

/-- The elements of a list are written exactly if every one of them is. -/
theorem exists_renderItems_iff {items : List Value} :
    (∃ parts, renderItems items = .ok parts) ↔ ∀ v ∈ items, ∃ s, render v = .ok s := by
  induction items with
  | nil => simp [renderItems]
  | cons v rest ih =>
    rw [renderItems, exists_bind_eq_ok_iff, List.forall_mem_cons, ← ih]
    simp only [exists_bind_eq_ok_iff]
    constructor
    · rintro ⟨s, hs, parts, hparts, -⟩
      exact ⟨⟨s, hs⟩, parts, hparts⟩
    · rintro ⟨⟨s, hs⟩, parts, hparts⟩
      exact ⟨s, hs, parts, hparts, _, rfl⟩

/-- The written entries of a mapping spell what the entries say. -/
theorem spells_renderEntries {entries : List (Value × Value)} {parts : List String}
    (hentries : ∀ e ∈ entries, IsReadBack e.2) (h : renderEntries entries = .ok parts) :
    List.Forall₂ (fun part m => Spells ReadsMember part.toList m) parts
      (Content.ofEntries entries) := by
  induction entries generalizing parts with
  | nil =>
    cases h
    exact .nil
  | cons e rest ih =>
    obtain ⟨k, v⟩ := e
    rw [renderEntries, bind_eq_ok_iff] at h
    obtain ⟨name, hname, h⟩ := h
    rw [bind_eq_ok_iff] at h
    obtain ⟨s, hs, h⟩ := h
    rw [bind_eq_ok_iff] at h
    obtain ⟨more, hmore, h⟩ := h
    cases h
    have hkey : nameOf k = name := by
      rw [nameOf, hname]
    rw [Content.ofEntries, hkey]
    exact .cons (spells_field (hentries (k, v) (by simp) s hs))
      (ih (fun e he => hentries e (by simp [he])) hmore)

/-- Every value that is well formed is read back from its text. -/
theorem spells_render {v : Value} (h : v.IsWellFormed) : IsReadBack v := by
  induction h with
  | leaf hleaf => exact spells_leaf hleaf
  | float hx =>
    intro s hs
    cases hs
    exact spells_numeral (isNumeral_number hx)
  | list _ ih =>
    intro s hs
    obtain ⟨parts, hparts, rfl⟩ := map_eq_ok_iff.mp hs
    exact spells_array (spells_renderItems ih hparts)
  | tuple _ ih =>
    intro s hs
    obtain ⟨parts, hparts, rfl⟩ := map_eq_ok_iff.mp hs
    exact spells_array (spells_renderItems ih hparts)
  | map _ _ _ ih =>
    intro s hs
    obtain ⟨parts, hparts, rfl⟩ := map_eq_ok_iff.mp hs
    exact spells_object (spells_renderEntries ih hparts)

/-- A text that is read in every place is read as a whole, and in no other way. -/
theorem Spells.isText_iff {s : List Char} {v : Content} (h : Spells Reads s v) (w : Content) :
    IsText w s ↔ w = v := by
  have hreads := h.reads [] (by simp [Stops])
  rw [List.append_nil] at hreads
  have htext : IsText v s := ⟨[], hreads, rfl⟩
  constructor
  · intro hw
    exact hw.unique htext
  · rintro rfl
    exact htext

/-! ## Objects with given names -/

/-- A mapping with names as its keys says what its fields say. -/
theorem ofValue_named (fields : List (String × Value)) :
    Content.ofValue (.map (fields.map fun f => (Value.text f.1, f.2))) =
      .object (fields.map fun f => (f.1, Content.ofValue f.2)) := by
  have hentries : Content.ofEntries (fields.map fun f => (Value.text f.1, f.2)) =
      fields.map fun f => (f.1, Content.ofValue f.2) := by
    induction fields with
    | nil => rfl
    | cons f rest ih =>
      rw [List.map_cons, Content.ofEntries, ih]
      rfl
  rw [Content.ofValue, hentries]

/-- A mapping from names can be written if its values can. -/
theorem isWritable_named {fields : List (String × Value)} (h : ∀ f ∈ fields, f.2.IsWritable) :
    (Value.map (fields.map fun f => (Value.text f.1, f.2))).IsWritable := by
  constructor
  · refine .map ?_ ?_
    · intro e he
      obtain ⟨f, -, rfl⟩ := List.mem_map.mp he
      exact .leaf rfl
    · intro e he
      obtain ⟨f, hf, rfl⟩ := List.mem_map.mp he
      exact (h f hf).wellFormed
  · rw [render, exists_map_eq_ok_iff]
    induction fields with
    | nil => exact ⟨[], rfl⟩
    | cons f rest ih =>
      obtain ⟨s, hs⟩ := (h f List.mem_cons_self).renders
      obtain ⟨parts, hparts⟩ := ih fun g hg => h g (List.mem_cons_of_mem f hg)
      refine ⟨fieldText f.1 s :: parts, ?_⟩
      rw [List.map_cons, renderEntries, keyText, hs, hparts]
      rfl

end Json

end ScopeSearch
