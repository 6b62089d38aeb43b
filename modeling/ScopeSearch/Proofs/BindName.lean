import ScopeSearch.Proofs.List
import ScopeSearch.Proofs.Placeholder
import ScopeSearch.Resource

/-!
# Names of generated binds

The patterns of the keyword filter are bound by the numbers of the attributes, and every invocation
of a scope has a namespace that its number stands in.  Numbers are written in digits alone, so the
underscore behind them ends them: no two namespaces hold one name, whatever follows, and none of
them holds the name of a pattern.
-/

set_option autoImplicit false

namespace ScopeSearch

/-- The word in front of all names in namespaces. -/
def spaceWord : List Char :=
  "scope_".toList

/-- A namespace is the common word, the digits of its number, and an underscore. -/
theorem toList_invocationSpace (index : Nat) :
    (invocationSpace index).toList = spaceWord ++ (Nat.toDigits 10 index ++ ['_']) := by
  have hdigits : (toString index).toList = Nat.toDigits 10 index := Nat.toList_repr
  rw [invocationSpace, String.toList_append, String.toList_append, hdigits, List.append_assoc]
  rfl

/-- The digits of a number are part of a word. -/
theorem isWord_of_mem_toDigits {c : Char} {n : Nat} (h : c ∈ Nat.toDigits 10 n) :
    Text.isWord c = true := by
  have hdigits : ∀ k < 58, 48 ≤ k → Text.isWord (Char.ofNat k) = true := by decide +kernel
  have hdigit := Nat.isDigit_of_mem_toDigits (by decide) (by decide) h
  have hbounds : 48 ≤ c.toNat ∧ c.toNat ≤ 57 := by
    simpa [Char.isDigit, Char.le_def, UInt32.le_iff_toNat_le] using hdigit
  rw [← Char.ofNat_toNat c]
  exact hdigits c.toNat (by omega) hbounds.1

/-- Numbers with the same digits are the same. -/
theorem toDigits_injective {i j : Nat} (h : Nat.toDigits 10 i = Nat.toDigits 10 j) : i = j := by
  rw [← Nat.ofDigitChars_ten_toDigits (n := i), h, Nat.ofDigitChars_ten_toDigits]

/-- A namespace is a part of a word. -/
theorem isWord_of_mem_invocationSpace {c : Char} {index : Nat}
    (h : c ∈ (invocationSpace index).toList) : Text.isWord c = true := by
  have hspace : spaceWord.all Text.isWord = true := by decide +kernel
  rw [toList_invocationSpace, List.mem_append, List.mem_append, List.mem_singleton] at h
  rcases h with h | h | rfl
  · exact List.all_eq_true.mp hspace c h
  · exact isWord_of_mem_toDigits h
  · decide +kernel

/-- A name in a namespace tells the namespace and the name. -/
theorem invocationSpace_append_inj {i j : Nat} {m n : String}
    (h : invocationSpace i ++ m = invocationSpace j ++ n) : i = j ∧ m = n := by
  have htext := congrArg String.toList h
  simp only [String.toList_append, toList_invocationSpace, List.append_assoc,
    List.append_cancel_left_eq, List.singleton_append] at htext
  obtain ⟨hdigits, hname⟩ :=
    eq_of_append_cons_eq Nat.underscore_not_in_toDigits Nat.underscore_not_in_toDigits htext
  exact ⟨toDigits_injective hdigits, String.toList_inj.mp hname⟩

/-- The name of a pattern is a word of its own and the digits of its number. -/
theorem toList_keywordPlaceholder (index : Nat) :
    (keywordPlaceholder index).toList = "search_term_".toList ++ Nat.toDigits 10 index := by
  rw [keywordPlaceholder, String.toList_append]
  exact congrArg _ Nat.toList_repr

/-- Patterns are told apart by their names. -/
theorem keywordPlaceholder_injective {i j : Nat}
    (h : keywordPlaceholder i = keywordPlaceholder j) : i = j := by
  have htext := congrArg String.toList h
  rw [toList_keywordPlaceholder, toList_keywordPlaceholder, List.append_cancel_left_eq] at htext
  exact toDigits_injective htext

/-- The name of a pattern is a word. -/
theorem isName_keywordPlaceholder (index : Nat) : IsName (keywordPlaceholder index).toList := by
  have hword : "search_term_".toList.all Text.isWord = true := by decide +kernel
  rw [toList_keywordPlaceholder]
  refine ⟨by simp, ?_⟩
  intro c hc
  rw [List.mem_append] at hc
  exact hc.elim (List.all_eq_true.mp hword c) isWord_of_mem_toDigits

/-- No namespace holds the name of a pattern. -/
theorem keywordPlaceholder_ne (i j : Nat) (n : String) :
    keywordPlaceholder i ≠ invocationSpace j ++ n := by
  intro h
  have htext := congrArg String.toList h
  rw [String.toList_append, toList_keywordPlaceholder, toList_invocationSpace] at htext
  -- Both begin with the same letter, and the second letters differ.
  have hletter : ("search_term_".toList ++ Nat.toDigits 10 i)[1]? = some 'e' := rfl
  have hletter' : (spaceWord ++ (Nat.toDigits 10 j ++ ['_']) ++ n.toList)[1]? = some 'c' := rfl
  rw [htext, hletter'] at hletter
  cases hletter

end ScopeSearch
