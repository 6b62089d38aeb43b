import Mathlib.Data.List.Basic
import ScopeSearch.KeywordFilter

/-!
# The keyword predicate reads as it was meant

The names of a table and of its columns may hold anything, quotes and parts of SQL among it.  They
are written between quotes, with each quote inside doubled, so a scanner that knows no more of SQL
than its quotes finds every name again:

* An identifier is followed by a character other than a quote, so its closing quote is not taken for
  the first of two.
* Outside the identifiers stand the same characters in every comparison, and none of them is a
  quote.
* So the tokens of the predicate are those of one comparison after the other, and they read as these
  comparisons and no others.  A placeholder that is part of a name is part of an identifier.
-/

set_option autoImplicit false

namespace ScopeSearch

namespace Sql

/-! ## Tokens -/

/-- A token of SQL as far as its quotes go: an identifier that was quoted, or a character outside of
all quotes. -/
inductive Token where
  | identifier (name : String)
  | character (c : Char)
  deriving DecidableEq

/-- The name of a quoted identifier. -/
def Token.name? : Token → Option String
  | identifier name => some name
  | character _ => none

/-- The tokens of a text that stands outside of quotes, or behind the part of an identifier that is
given.  Two quotes stand for one inside an identifier, and one quote ends it; an identifier without
an end is a fault. -/
def scanFrom : Option (List Char) → List Char → Option (List Token)
  | none, [] => some []
  | some _, [] => none
  | none, c :: rest =>
    if c = '"' then scanFrom (some []) rest
    else (scanFrom none rest).map (.character c :: ·)
  | some name, '"' :: '"' :: rest => scanFrom (some (name ++ ['"'])) rest
  | some name, c :: rest =>
    if c = '"' then (scanFrom none rest).map (.identifier (String.ofList name) :: ·)
    else scanFrom (some (name ++ [c])) rest

/-- The tokens of a text. -/
def scan (s : String) : Option (List Token) :=
  scanFrom none s.toList

/-- A text outside of quotes as tokens. -/
def outside (s : String) : List Token :=
  s.toList.map .character

/-- A comparison of a column of a table with a placeholder, as tokens. -/
def comparisonTokens (table column : String) : List Token :=
  outside "lower(" ++ .identifier table :: (outside "." ++ .identifier column ::
    outside ") LIKE ?")

/-- Tokens read as comparisons of columns with placeholders, of which one has to hold. -/
inductive ReadsAs : List Token → List (String × String) → Prop
  | comparison (table column : String) :
      ReadsAs (comparisonTokens table column) [(table, column)]
  | or (table column : String) {tokens : List Token} {others : List (String × String)}
      (h : ReadsAs tokens others) :
      ReadsAs (comparisonTokens table column ++ outside " OR " ++ tokens)
        ((table, column) :: others)

/-! ## Reading tokens -/

/-- The text outside of quotes names nothing. -/
theorem filterMap_name?_outside (s : String) : (outside s).filterMap Token.name? = [] := by
  simp [outside, List.filterMap_map, Function.comp_def, Token.name?]

/-- A comparison names its table and its column. -/
theorem filterMap_name?_comparisonTokens (table column : String) :
    (comparisonTokens table column).filterMap Token.name? = [table, column] := by
  rw [comparisonTokens, List.filterMap_append, filterMap_name?_outside, List.filterMap_cons,
    List.filterMap_append, filterMap_name?_outside, List.filterMap_cons, filterMap_name?_outside]
  rfl

/-- The identifiers are the tables and columns in turn. -/
theorem ReadsAs.filterMap_name? {tokens : List Token} {comparisons : List (String × String)}
    (h : ReadsAs tokens comparisons) :
    tokens.filterMap Token.name? = comparisons.flatMap fun c => [c.1, c.2] := by
  induction h with
  | comparison table column => exact filterMap_name?_comparisonTokens table column
  | or table column _ ih =>
    rw [List.filterMap_append, List.filterMap_append, filterMap_name?_comparisonTokens,
      filterMap_name?_outside, ih]
    rfl

/-- Every comparison has one placeholder. -/
theorem ReadsAs.count_placeholder {tokens : List Token} {comparisons : List (String × String)}
    (h : ReadsAs tokens comparisons) :
    tokens.count (.character '?') = comparisons.length := by
  have hcomparison (table column : String) :
      (comparisonTokens table column).count (.character '?') = 1 := by
    simp [comparisonTokens, outside]
  have hor : (outside " OR ").count (.character '?') = 0 := by decide
  induction h with
  | comparison table column => exact hcomparison table column
  | or table column _ ih =>
    rw [List.count_append, List.count_append, hcomparison, hor, ih, List.length_cons]
    omega

/-- Pairs in a row are told apart when their parts are. -/
theorem flatMap_pair_injective {cs ds : List (String × String)}
    (h : (cs.flatMap fun c => [c.1, c.2]) = ds.flatMap fun d => [d.1, d.2]) : cs = ds := by
  induction cs generalizing ds with
  | nil =>
    cases ds with
    | nil => rfl
    | cons d ds => simp at h
  | cons c cs ih =>
    cases ds with
    | nil => simp at h
    | cons d ds =>
      simp only [List.flatMap_cons, List.cons_append, List.nil_append, List.cons.injEq] at h
      obtain ⟨htable, hcolumn, hrest⟩ := h
      rw [ih hrest, Prod.ext htable hcolumn]

/-- Tokens read in one way only. -/
theorem ReadsAs.unique {tokens : List Token} {cs ds : List (String × String)}
    (hc : ReadsAs tokens cs) (hd : ReadsAs tokens ds) : cs = ds :=
  flatMap_pair_injective (hc.filterMap_name?.symm.trans hd.filterMap_name?)

/-- The tokens of joined comparisons of columns of one table. -/
def predicateTokens (table : String) (columns : List String) : List Token :=
  (outside " OR ").intercalate (columns.map (comparisonTokens table))

/-- Joined comparisons read as one for each column. -/
theorem readsAs_predicateTokens (table : String) {columns : List String} (h : columns ≠ []) :
    ReadsAs (predicateTokens table columns) (columns.map fun column => (table, column)) := by
  unfold predicateTokens
  induction columns with
  | nil => exact absurd rfl h
  | cons column rest ih =>
    cases rest with
    | nil => simpa using ReadsAs.comparison table column
    | cons next rest =>
      rw [List.map_cons, List.map_cons, List.map_cons, List.intercalate_cons_cons]
      exact .or table column (ih (by simp))

/-! ## Scanning -/

/-- A text without quotes is scanned character by character. -/
theorem scanFrom_outside {s : String} (h : '"' ∉ s.toList) (rest : List Char) :
    scanFrom none (s.toList ++ rest) = (scanFrom none rest).map (outside s ++ ·) := by
  unfold outside
  generalize s.toList = s at h
  induction s with
  | nil => simp
  | cons c s ih =>
    rw [List.mem_cons, not_or] at h
    rw [List.cons_append, scanFrom, if_neg (Ne.symm h.1), ih h.2, Option.map_map]
    rfl

/-- An identifier is read to its closing quote, which no other quote follows. -/
theorem scanFrom_doubled (read name : List Char) {c : Char} (hc : c ≠ '"') (rest : List Char) :
    scanFrom (some read) (doubled '"' name ++ '"' :: c :: rest) =
      (scanFrom none (c :: rest)).map (.identifier (String.ofList (read ++ name)) :: ·) := by
  induction name generalizing read with
  | nil => simp [doubled, scanFrom, hc]
  | cons d name ih =>
    have hsplit : read ++ d :: name = read ++ [d] ++ name := by simp
    rw [hsplit, ← ih]
    by_cases hd : d = '"'
    · subst hd
      rfl
    · have hdoubled : doubled '"' (d :: name) = d :: doubled '"' name := by
        simp [doubled, hd]
      rw [hdoubled, List.cons_append, scanFrom]
      · rw [if_neg hd]
      · rintro _ rfl
        exact absurd rfl hd

/-- A quoted identifier is one token. -/
theorem scanFrom_quoteIdentifier (name : String) {c : Char} (hc : c ≠ '"') (rest : List Char) :
    scanFrom none ((quoteIdentifierWith '"' name).toList ++ c :: rest) =
      (scanFrom none (c :: rest)).map (.identifier name :: ·) := by
  have h := scanFrom_doubled [] name.toList hc rest
  rw [List.nil_append, String.ofList_toList] at h
  rw [← h]
  simp [quoteIdentifierWith, scanFrom]

/-- A comparison is scanned into its tokens, whatever follows. -/
theorem scanFrom_comparison (table column : String) (rest : List Char) :
    scanFrom none ((comparison (quoteIdentifierWith '"') table column "?").toList ++ rest) =
      (scanFrom none rest).map (comparisonTokens table column ++ ·) := by
  have htext : (comparison (quoteIdentifierWith '"') table column "?").toList ++ rest =
      "lower(".toList ++ ((quoteIdentifierWith '"' table).toList ++ ('.' ::
        ((quoteIdentifierWith '"' column).toList ++ (')' :: (" LIKE ?".toList ++ rest))))) := by
    simp [comparison]
  have hpoint (s : List Char) : '.' :: s = ".".toList ++ s := rfl
  have hclose (s : List Char) : ')' :: (" LIKE ?".toList ++ s) = ") LIKE ?".toList ++ s := rfl
  rw [htext, scanFrom_outside (by decide), scanFrom_quoteIdentifier table (by decide), hpoint,
    scanFrom_outside (by decide), scanFrom_quoteIdentifier column (by decide), hclose,
    scanFrom_outside (by decide)]
  simp [Option.map_map, comparisonTokens, Function.comp_def]

/-- Joined comparisons are scanned one after the other. -/
theorem scan_intercalate (table : String) (columns : List String) :
    scan (" OR ".intercalate
        (columns.map fun column => comparison (quoteIdentifierWith '"') table column "?")) =
      some (predicateTokens table columns) := by
  unfold scan
  induction columns with
  | nil => rfl
  | cons column rest ih =>
    cases rest with
    | nil =>
      have hlast := scanFrom_comparison table column []
      simpa [scanFrom, predicateTokens] using hlast
    | cons next rest =>
      rw [List.map_cons, List.map_cons, String.intercalate_cons_cons, String.toList_append,
        String.toList_append, List.append_assoc, scanFrom_comparison,
        scanFrom_outside (by decide), ← List.map_cons (f := fun column => comparison _ _ column _),
        ih]
      simp [predicateTokens]

end Sql

/-- The predicate of a filter is the joined comparisons of its attributes. -/
theorem KeywordFilter.defaultPredicate_eq {f : KeywordFilter} (h : f.unfiltered = false)
    (table : String) :
    f.defaultPredicate table = " OR ".intercalate
      (f.attributes.map fun column => comparison (quoteIdentifierWith '"') table column "?") := by
  rw [defaultPredicate, predicate, if_neg (by simp [h])]
  congr 1
  apply List.ext_getElem
  · simp
  · intro i _ _
    simp

/-- The predicates of two filters are the same only for one table and the same attributes.  The
tokens of a predicate read as one comparison for each attribute, in order, and as nothing else, and
outside the identifiers there are as many placeholders. -/
theorem predicate_reads_as_one_comparison_each {f g : KeywordFilter} (hf : f.unfiltered = false)
    (hg : g.unfiltered = false) (hattributes : f.attributes ≠ []) (hattributes' : g.attributes ≠ [])
    (table table' : String) :
    (f.defaultPredicate table = g.defaultPredicate table' ↔
      table = table' ∧ f.attributes = g.attributes) ∧
    ∃ tokens, Sql.scan (f.defaultPredicate table) = some tokens ∧
      (∀ comparisons, Sql.ReadsAs tokens comparisons ↔
        comparisons = f.attributes.map fun column => (table, column)) ∧
      tokens.count (.character '?') = f.attributes.length := by
  have hscan : Sql.scan (f.defaultPredicate table) =
      some (Sql.predicateTokens table f.attributes) := by
    rw [f.defaultPredicate_eq hf, Sql.scan_intercalate]
  have hscan' : Sql.scan (g.defaultPredicate table') =
      some (Sql.predicateTokens table' g.attributes) := by
    rw [g.defaultPredicate_eq hg, Sql.scan_intercalate]
  have hreads := Sql.readsAs_predicateTokens table hattributes
  have hreads' := Sql.readsAs_predicateTokens table' hattributes'
  refine ⟨⟨?_, ?_⟩, _, hscan, ?_, ?_⟩
  · intro hsame
    have htokens : Sql.predicateTokens table f.attributes =
        Sql.predicateTokens table' g.attributes := by
      rw [hsame, hscan'] at hscan
      exact (Option.some.inj hscan).symm
    rw [← htokens] at hreads'
    have hpairs := hreads.unique hreads'
    have hcolumns := congrArg (List.map Prod.snd) hpairs
    simp only [List.map_map, Function.comp_def, List.map_id'] at hcolumns
    -- the tables are read off the first comparison
    obtain ⟨first, rest, hfirst⟩ := List.exists_cons_of_ne_nil hattributes
    rw [← hcolumns, hfirst, List.map_cons, List.map_cons, List.cons.injEq, Prod.mk.injEq] at hpairs
    exact ⟨hpairs.1.1, hcolumns⟩
  · rintro ⟨rfl, hsame⟩
    rw [f.defaultPredicate_eq hf, g.defaultPredicate_eq hg, hsame]
  · intro comparisons
    constructor
    · exact fun h => h.unique hreads
    · rintro rfl
      exact hreads
  · rw [hreads.count_placeholder, List.length_map]

/-- A filter with an attribute that is called like the end of one comparison and the beginning of
another. -/
def imitatingFilter : KeywordFilter :=
  { unfiltered := false, attributes := ["a\") LIKE ? OR lower(\"t\".\"b", "c?"] }

/-- The filter that it seems to be. -/
def imitatedFilter : KeywordFilter :=
  { unfiltered := false, attributes := ["a", "b", "c?"] }

/-- The imitated syntax stays inside the identifier: there are two comparisons, not three. -/
theorem imitated_syntax_stays_in_identifiers :
    imitatingFilter.unfiltered = false ∧ imitatedFilter.unfiltered = false ∧
    imitatingFilter.attributes ≠ [] ∧ imitatedFilter.attributes ≠ [] ∧
    imitatingFilter.defaultPredicate "t" ≠ imitatedFilter.defaultPredicate "t" ∧
    ∃ tokens, Sql.scan (imitatingFilter.defaultPredicate "t") = some tokens ∧
      Sql.ReadsAs tokens [("t", "a\") LIKE ? OR lower(\"t\".\"b"), ("t", "c?")] ∧
      tokens.count (.character '?') = 2 := by
  have hattributes : imitatingFilter.attributes ≠ [] := by decide
  have hattributes' : imitatedFilter.attributes ≠ [] := by decide
  have hlength : imitatingFilter.attributes.length ≠ imitatedFilter.attributes.length := by decide
  obtain ⟨hsame, tokens, hscan, hreads, hcount⟩ :=
    predicate_reads_as_one_comparison_each (f := imitatingFilter) (g := imitatedFilter) rfl rfl
      hattributes hattributes' "t" "t"
  refine ⟨rfl, rfl, hattributes, hattributes', ?_, tokens, hscan, (hreads _).mpr rfl, hcount⟩
  intro hpredicates
  exact hlength (congrArg List.length (hsame.mp hpredicates).2)

end ScopeSearch
