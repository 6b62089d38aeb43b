import ScopeSearch.Proofs.BindName
import ScopeSearch.Proofs.Interpretation
import ScopeSearch.Proofs.Resolution

/-!
# The condition of the keyword filter

The keyword filter compares every searchable attribute with a pattern of its own.  Its text refers
to the patterns by the numbers of the attributes, and the patterns are bound under these numbers,
one for each attribute.  Table and attributes are written as the dialect wants them.  They hold no
colon, and a dialect that puts none there leaves the patterns as the only placeholders.
-/

set_option autoImplicit false

namespace ScopeSearch

/-- What the keyword filter says, if it filters: some attribute is like its pattern. -/
def keywordMeaning (table : String) (dialect : Dialect) (f : KeywordFilter) : List ResolvedText :=
  if f.unfiltered || f.attributes.isEmpty then []
  else
    [(verbatim " OR ").intercalate ((f.attributes.zip f.parameters).map fun p =>
      verbatim ("lower(" ++ dialect.quoteIdentifier table ++ "." ++ dialect.quoteIdentifier p.1 ++
        ") LIKE ") ++ [.value (some (.text p.2))])]

/-- Doubling a character brings in no colon. -/
theorem colon_not_mem_doubled (c : Char) {s : List Char} (h : ':' ∉ s) : ':' ∉ doubled c s := by
  intro hmem
  obtain ⟨d, hd, hcolon⟩ := List.mem_flatMap.mp hmem
  have hne : ':' ≠ d := by
    rintro rfl
    exact h hd
  split at hcolon <;> simp [hne] at hcolon

namespace Dialect

/-- Quotes that are no colons bring in none. -/
theorem addsNoColon_quoting {quote : Char} (h : quote ≠ ':') : (quoting quote).AddsNoColon := by
  intro identifier hidentifier
  have hdoubled := colon_not_mem_doubled quote hidentifier
  simp [quoting, quoteIdentifierWith, h.symm, hdoubled]

/-- Percent signs that are doubled between such quotes bring in none either. -/
theorem addsNoColon_quotingFormat {quote : Char} (h : quote ≠ ':') :
    (quotingFormat quote).AddsNoColon := by
  intro identifier hidentifier
  have hdoubled := colon_not_mem_doubled quote (colon_not_mem_doubled '%' hidentifier)
  simp [quotingFormat, quoteIdentifierWith, h.symm, hdoubled]

/-- SQLite quotes without colons. -/
theorem addsNoColon_sqlite : sqlite.AddsNoColon :=
  addsNoColon_quoting (by decide)

/-- PostgreSQL quotes without colons. -/
theorem addsNoColon_postgresql : postgresql.AddsNoColon :=
  addsNoColon_quotingFormat (by decide)

/-- MySQL quotes without colons. -/
theorem addsNoColon_mysql : mysql.AddsNoColon :=
  addsNoColon_quotingFormat (by decide)

end Dialect

/-- The only placeholder of a comparison is that of its pattern. -/
theorem pieces_comparison {quote : String → String} {table column : String} (index : Nat)
    (htable : ':' ∉ (quote table).toList) (hcolumn : ':' ∉ (quote column).toList) :
    pieces (comparison quote table column (":" ++ keywordPlaceholder index)) =
      ("lower(" ++ quote table ++ "." ++ quote column ++ ") LIKE ").toList.map .character ++
        [.placeholder (keywordPlaceholder index).toList] := by
  have hname := isName_keywordPlaceholder index
  have hplaceholder : piecesFrom none 0 (':' :: ((keywordPlaceholder index).toList ++ [])) =
      .placeholder (keywordPlaceholder index).toList :: piecesFrom none 0 [] :=
    piecesFrom_placeholder (by simp) hname (by simp [EndsWord])
  have hfixed : ':' ∉ ("lower(" ++ quote table ++ "." ++ quote column ++ ") LIKE").toList := by
    simp [htable, hcolumn]
  have htext : (comparison quote table column (":" ++ keywordPlaceholder index)).toList =
      ("lower(" ++ quote table ++ "." ++ quote column ++ ") LIKE").toList ++
        ' ' :: (':' :: ((keywordPlaceholder index).toList ++ [])) := by
    simp [comparison]
  rw [pieces, htext, piecesFrom_append_cons none _ _ isApart_space.ne_colon isApart_space.not_word,
    piecesFrom_of_no_colon none hfixed, hplaceholder]
  simp [piecesFrom]

/-- The patterns are bound by the numbers of their attributes. -/
theorem keys_keywordBinds (f : KeywordFilter) :
    KeyedList.keys (keywordBinds f) = (List.range f.parameters.length).map keywordPlaceholder := by
  apply List.ext_getElem
  · simp [KeyedList.keys, keywordBinds]
  · intro i h h'
    simp [KeyedList.keys, keywordBinds]

/-- The names of the patterns differ. -/
theorem keywordBinds_nodup (f : KeywordFilter) : (KeyedList.keys (keywordBinds f)).Nodup := by
  rw [keys_keywordBinds]
  exact List.nodup_range.map fun i j h => keywordPlaceholder_injective h

/-- The keyword filter refers to the pattern of each attribute, and to nothing else. -/
theorem placeholders_predicate {f : KeywordFilter} {table : String} {quote : String → String}
    (htable : ':' ∉ (quote table).toList) (hattributes : ∀ a ∈ f.attributes, ':' ∉ (quote a).toList)
    (hfiltered : f.unfiltered = false) {name : String}
    (hname : name ∈ placeholders (f.predicate table quote fun i => ":" ++ keywordPlaceholder i)) :
    ∃ i < f.attributes.length, name = keywordPlaceholder i := by
  rw [KeywordFilter.predicate, if_neg (by simp [hfiltered]),
    isSeparator_or.placeholders_intercalate, List.mem_flatMap] at hname
  obtain ⟨text, htext, hname⟩ := hname
  obtain ⟨i, hi, rfl⟩ := List.mem_mapIdx.mp htext
  have hfixed (s : List Char) : (s.map Piece.character).filterMap Piece.name? = [] := by
    simp [List.filterMap_map, Function.comp_def, Piece.name?]
  rw [placeholders, pieces_comparison i htable (hattributes _ (List.getElem_mem hi)),
    List.filterMap_append, hfixed] at hname
  exact ⟨i, hi, by simpa [Piece.name?] using hname⟩

/-- The keyword filter compares every attribute with its own pattern. -/
theorem resolve_predicate {f : KeywordFilter} {table : String} {quote : String → String}
    (htable : ':' ∉ (quote table).toList) (hattributes : ∀ a ∈ f.attributes, ':' ∉ (quote a).toList)
    (hfiltered : f.unfiltered = false) (hlength : f.parameters.length = f.attributes.length) :
    resolve (keywordBinds f) (f.predicate table quote fun i => ":" ++ keywordPlaceholder i) =
      (verbatim " OR ").intercalate ((f.attributes.zip f.parameters).map fun p =>
        verbatim ("lower(" ++ quote table ++ "." ++ quote p.1 ++ ") LIKE ") ++
          [.value (some (.text p.2))]) := by
  have hfind (i : Nat) (h : i < f.parameters.length) :
      KeyedList.find? (keywordPlaceholder i) (keywordBinds f) =
        some (.text f.parameters[i]) := by
    apply KeyedList.find?_of_mem (keywordBinds_nodup f)
    exact List.mem_mapIdx.mpr ⟨i, h, rfl⟩
  rw [KeywordFilter.predicate, if_neg (by simp [hfiltered]), isSeparator_or.resolve_intercalate]
  congr 1
  apply List.ext_getElem
  · simp [hlength]
  · intro i h h'
    have hi : i < f.attributes.length := by simpa using h
    have hpieces := pieces_comparison i htable (hattributes _ (List.getElem_mem hi))
    simp only [List.getElem_map, List.getElem_mapIdx, List.getElem_zip, resolve, hpieces,
      List.map_append, List.map_map, List.map_cons, List.map_nil, Piece.resolve,
      String.ofList_toList, hfind i (by omega), verbatim]
    rfl

/-- The condition of the keyword filter is closed, says what the filter says, and binds each pattern
once. -/
theorem keywordCondition_spec {result : SearchResult} (hresult : result.IsInterpretation)
    {table : String} {dialect : Dialect} (hquote : dialect.AddsNoColon)
    (htable : ':' ∉ table.toList) (hattributes : ∀ a ∈ result.filter.attributes, ':' ∉ a.toList) :
    (∀ c ∈ keywordCondition table dialect result.filter, c.IsClosed) ∧
      (keywordCondition table dialect result.filter).map Condition.resolved =
        keywordMeaning table dialect result.filter ∧
      (keywordCondition table dialect result.filter).flatMap Condition.binds =
        keywordBinds result.filter := by
  have hlength := parameters_length hresult
  have hquoted (a : String) (ha : a ∈ result.filter.attributes) :=
    hquote a (hattributes a ha)
  have hbinds := KeyedList.ofPairs_of_nodup (keywordBinds_nodup result.filter)
  unfold keywordCondition keywordMeaning
  split
  · next habsent =>
    -- A filter that is left out has no patterns.
    have hnone : result.filter.parameters = [] := by
      rw [Bool.or_eq_true, List.isEmpty_iff] at habsent
      rcases habsent with hunfiltered | hempty
      · exact parameters_eq_nil hresult hunfiltered
      · rwa [hempty, List.length_nil, List.length_eq_zero_iff] at hlength
    simp [keywordBinds, hnone]
  · next hpresent =>
    have hfiltered : result.filter.unfiltered = false := by
      simp only [Bool.or_eq_true, not_or, Bool.not_eq_true] at hpresent
      exact hpresent.1
    rw [hbinds]
    refine ⟨?_, ?_, by simp⟩
    · intro c hc
      rw [List.mem_singleton] at hc
      subst hc
      refine ⟨keywordBinds_nodup _, ?_⟩
      intro name hname
      obtain ⟨i, hi, rfl⟩ :=
        placeholders_predicate (hquote table htable) hquoted hfiltered hname
      rw [keys_keywordBinds, hlength]
      exact List.mem_map.mpr ⟨i, List.mem_range.mpr hi, rfl⟩
    · rw [List.map_singleton, Condition.resolved,
        resolve_predicate (hquote table htable) hquoted hfiltered hlength]

end ScopeSearch
