import ScopeSearch.Proofs.ConditionNames

/-!
# A run does everything or stops

A run checks the page, connects to the database, calls the scopes one after the other, sends one
statement and reports its answer.  Each of these can end the run, and what comes behind is then not
done.

* **page**: on an unusable page nothing is done;
* **connection**: where there is none, no scope is called;
* **calls**: invocations that apply are called in order, and the first that does not is the last one
  that is called;
* **statement**: if all apply, the binds of the statement are those of the condition, with those of
  the page behind them.
-/

set_option autoImplicit false

namespace ScopeSearch

/-! ## Pages -/

/-- A page that no search is run for: its limit or its offset is negative, or it has an offset and
no limit. -/
def IsUnusablePage (limit : Option Int) (offset : Int) : Prop :=
  (∃ n ∈ limit, n < 0) ∨ offset < 0 ∨ (limit = none ∧ offset ≠ 0)

/-- The check of a run accepts all pages but the unusable ones. -/
theorem checkPagination_eq_ok_iff {limit : Option Int} {offset : Int} :
    checkPagination limit offset = .ok () ↔ ¬ IsUnusablePage limit offset := by
  rw [checkPagination, IsUnusablePage]
  cases limit with
  | none => split_ifs <;> simp_all
  | some n => split_ifs <;> simp_all

namespace Resource

variable {r : Resource} {invocation : String × Option String}

/-! ## Invocations -/

/-- What the scope of an invocation gives or how it fails, if the resource has it. -/
def outcome? (r : Resource) (invocation : String × Option String) :
    Option (Except ScopeFailure Condition) :=
  (r.scopes.find? invocation.1).map fun scope => scope invocation.2

/-- The scope of an invocation gives a condition whose binds have usable names. -/
def Applies (r : Resource) (invocation : String × Option String) : Prop :=
  ∃ c, r.outcome? invocation = some (.ok c) ∧ ∀ name ∈ c.binds.keys, IsUsableName name

/-- A scope with an outcome is one that the resource has. -/
theorem respondsTo_of_outcome {outcome : Except ScopeFailure Condition}
    (h : r.outcome? invocation = some outcome) :
    r.respondsTo invocation.1 = true := by
  rw [outcome?, Option.map_eq_some_iff] at h
  obtain ⟨scope, hscope, -⟩ := h
  rw [respondsTo, KeyedList.has, hscope]
  rfl

/-- The condition of an invocation is made of the outcome of its scope. -/
theorem scopeCondition_of_outcome {outcome : Except ScopeFailure Condition}
    (h : r.outcome? invocation = some outcome) (index : Nat) :
    r.scopeCondition index invocation.1 invocation.2 = applied index invocation.1 outcome := by
  rw [outcome?, Option.map_eq_some_iff] at h
  obtain ⟨scope, hscope, rfl⟩ := h
  rw [scopeCondition_eq, hscope]

/-- The condition that a scope gives is moved exactly if the names of its binds are usable. -/
theorem exists_applied_iff (index : Nat) (name : String) (c : Condition) :
    (∃ moved, applied index name (.ok c) = .ok moved) ↔
      ∀ name ∈ c.binds.keys, IsUsableName name := by
  rw [← exists_rebindInto_iff index c.sql [], applied, rebind]
  cases rebindInto (invocationSpace index) c.sql [] c.binds with
  | error e => simp
  | ok moved => simp

/-- An invocation that applies has a condition, whatever its number is. -/
theorem exists_scopeCondition_of_applies (h : r.Applies invocation) (index : Nat) :
    ∃ c, r.scopeCondition index invocation.1 invocation.2 = .ok c := by
  obtain ⟨c, houtcome, hnames⟩ := h
  rw [scopeCondition_of_outcome houtcome]
  exact (exists_applied_iff index invocation.1 c).mpr hnames

/-- An unusable name is noticed when the condition is moved. -/
theorem scopeCondition_of_unusable {c : Condition}
    (houtcome : r.outcome? invocation = some (.ok c))
    (hname : ∃ name ∈ c.binds.keys, ¬ IsUsableName name) (index : Nat) :
    ∃ e, r.scopeCondition index invocation.1 invocation.2 = .error (.unusableBind e) := by
  have hmoved : ¬ ∃ moved, applied index invocation.1 (.ok c) = .ok moved := by
    rw [exists_applied_iff]
    push Not
    exact hname
  rw [scopeCondition_of_outcome houtcome]
  rw [applied] at hmoved ⊢
  cases hrebind : rebind (invocationSpace index) c.sql c.binds with
  | error e => exact ⟨e, rfl⟩
  | ok moved => simp [hrebind] at hmoved

/-! ## The loop over invocations -/

/-- Invocations that apply are all called, and what is behind them is gone on with. -/
theorem reached_append {before : List (String × Option String)}
    (h : ∀ invocation ∈ before, r.Applies invocation) (index : Nat)
    (rest : List (String × Option String)) :
    r.reached index (before ++ rest) = before ++ r.reached (index + before.length) rest := by
  induction before generalizing index with
  | nil => simp
  | cons invocation behind ih =>
    rw [List.forall_mem_cons] at h
    obtain ⟨c, hc⟩ := exists_scopeCondition_of_applies h.1 index
    have hbehind := ih h.2 (index + 1)
    rw [List.cons_append, reached, hc, if_pos (respondsTo_of_scopeCondition hc)]
    simp only [hbehind, List.cons_append, List.length_cons, Nat.add_assoc, Nat.add_comm 1]

/-- Invocations that apply give conditions, in front of those of what is behind them. -/
theorem scopeConditions_append {before : List (String × Option String)}
    (h : ∀ invocation ∈ before, r.Applies invocation) (index : Nat) :
    ∃ cs, ∀ rest, r.scopeConditions index (before ++ rest) =
      (r.scopeConditions (index + before.length) rest).map (cs ++ ·) := by
  induction before generalizing index with
  | nil =>
    refine ⟨[], fun rest => ?_⟩
    rw [List.length_nil, Nat.add_zero, List.nil_append]
    cases r.scopeConditions index rest <;> rfl
  | cons invocation behind ih =>
    rw [List.forall_mem_cons] at h
    obtain ⟨c, hc⟩ := exists_scopeCondition_of_applies h.1 index
    obtain ⟨cs, hcs⟩ := ih h.2 (index + 1)
    -- the conditions in front do not depend on what is behind, so they come before it in the goal
    refine ⟨c :: cs, fun rest => ?_⟩
    rw [List.cons_append, scopeConditions, hc, hcs, List.length_cons, Nat.add_right_comm,
      Nat.add_assoc]
    cases r.scopeConditions (index + (behind.length + 1)) rest <;> rfl

/-- The first invocation that gives no condition is the last one that is called, and its error is
the one that counts. -/
theorem scopeConditions_stop {before : List (String × Option String)} {e : RunError}
    (hbefore : ∀ i ∈ before, r.Applies i) (hresponds : r.respondsTo invocation.1 = true)
    (he : r.scopeCondition before.length invocation.1 invocation.2 = .error e)
    (behind : List (String × Option String)) :
    r.scopeConditions 0 (before ++ invocation :: behind) = .error e ∧
      r.reached 0 (before ++ invocation :: behind) = before ++ [invocation] := by
  obtain ⟨cs, hcs⟩ := scopeConditions_append hbefore 0
  constructor
  · rw [hcs, Nat.zero_add, scopeConditions, he]
    rfl
  · rw [reached_append hbefore, Nat.zero_add, reached, if_pos hresponds, he]

/-- Invocations that all apply are all called and give conditions. -/
theorem scopeConditions_complete {invocations : List (String × Option String)}
    (h : ∀ i ∈ invocations, r.Applies i) :
    (∃ cs, r.scopeConditions 0 invocations = .ok cs) ∧
      r.reached 0 invocations = invocations := by
  obtain ⟨cs, hcs⟩ := scopeConditions_append h 0
  have hreached := reached_append h 0 []
  have hconditions := hcs []
  rw [List.append_nil] at hreached hconditions
  rw [hconditions, hreached]
  exact ⟨⟨cs ++ [], rfl⟩, List.append_nil _⟩

/-- Invocations of scopes that the resource has all apply, or there is a first one that does not. -/
theorem applies_or_stop {invocations : List (String × Option String)}
    (h : ∀ i ∈ invocations, r.respondsTo i.1 = true) :
    (∀ i ∈ invocations, r.Applies i) ∨
      ∃ before invocation behind, invocations = before ++ invocation :: behind ∧
        (∀ i ∈ before, r.Applies i) ∧
        ((∃ f, r.outcome? invocation = some (.error f)) ∨
          ∃ c, r.outcome? invocation = some (.ok c) ∧
            ∃ name ∈ c.binds.keys, ¬ IsUsableName name) := by
  induction invocations with
  | nil => exact Or.inl (by simp)
  | cons first rest ih =>
    rw [List.forall_mem_cons] at h
    by_cases hfirst : r.Applies first
    · rcases ih h.2 with hrest | ⟨before, invocation, behind, rfl, hbefore, hstop⟩
      · exact Or.inl (List.forall_mem_cons.mpr ⟨hfirst, hrest⟩)
      · exact Or.inr ⟨first :: before, invocation, behind, rfl,
          List.forall_mem_cons.mpr ⟨hfirst, hbefore⟩, hstop⟩
    · refine Or.inr ⟨[], first, rest, rfl, by simp, ?_⟩
      obtain ⟨scope, hscope⟩ := Option.isSome_iff_exists.mp h.1
      have houtcome : r.outcome? first = some (scope first.2) := by rw [outcome?, hscope]; rfl
      cases hresult : scope first.2 with
      | error f => exact Or.inl ⟨f, by rw [houtcome, hresult]⟩
      | ok c =>
        rw [hresult] at houtcome
        refine Or.inr ⟨c, houtcome, ?_⟩
        by_contra hnames
        push Not at hnames
        exact hfirst ⟨c, houtcome, hnames⟩

/-! ## Runs -/

variable {result : SearchResult} {db : Database} {limit : Option Int} {offset : Int} {c : Condition}

/-- On a page that cannot be used a run does nothing. -/
theorem recordedRun_of_unusablePage (h : IsUnusablePage limit offset) :
    ∃ e, r.recordedRun db result limit offset = (.error (.pagination e), []) := by
  cases hpage : checkPagination limit offset with
  | ok _ => exact absurd h (checkPagination_eq_ok_iff.mp hpage)
  | error e =>
    rw [recordedRun_eq, preparation, hpage, run, planOn_of_unusable r db result hpage]
    exact ⟨e, rfl⟩

/-- Where the database cannot be reached, a run on a usable page only asks for the connection. -/
theorem recordedRun_of_unreachable (hpage : ¬ IsUnusablePage limit offset) {reason : String}
    (h : db.connectionFailure = some reason) :
    r.recordedRun db result limit offset = (.error (.database reason), [.connecting]) := by
  have hpage' := checkPagination_eq_ok_iff.mpr hpage
  rw [recordedRun_eq, preparation, hpage', run, planOn_of_unreachable r h result hpage', h]
  rfl

/-- A run on a usable page ends where the loop over the invocations ends. -/
theorem recordedRun_of_stop {e : RunError} (hpage : ¬ IsUnusablePage limit offset)
    (hconnected : db.connectionFailure = none)
    (h : r.scopeConditions 0 result.scopeInvocations = .error e) :
    r.recordedRun db result limit offset =
      (.error e, .connecting :: (r.reached 0 result.scopeInvocations).map RunStep.called) := by
  have hpage' := checkPagination_eq_ok_iff.mpr hpage
  rw [recordedRun_eq, preparation, hpage', run, planOn_of_connected r hconnected,
    plan_of_page hpage', whereClause_eq, h, hconnected]
  simp [Except.map]

/-- A run that has a condition sends its statement. -/
theorem recordedRun_of_condition (hpage : ¬ IsUnusablePage limit offset)
    (hconnected : db.connectionFailure = none) (h : r.whereClause result db.dialect = .ok c) :
    r.recordedRun db result limit offset =
      match db.failure with
      | some reason =>
        (.error (.database reason),
          .connecting :: (r.reached 0 result.scopeInvocations).map RunStep.called ++
            [.sent (r.statement c db.dialect limit offset)])
      | none =>
        (.ok db.rows, .connecting :: (r.reached 0 result.scopeInvocations).map RunStep.called ++
          [.sent (r.statement c db.dialect limit offset),
            .reported (.searchExecuted r.table db.rows.length result.scopes)]) := by
  have hpage' := checkPagination_eq_ok_iff.mpr hpage
  rw [recordedRun_eq, preparation, hpage', run, planOn_of_connected r hconnected,
    plan_of_page hpage', h, hconnected]
  simp only [Except.map]
  cases db.failure with
  | some reason => simp
  | none => simp

/-- A run of invocations does everything, or stops at the first thing that cannot be done. -/
structure RunsAllOrNothing (r : Resource) (db : Database) (result : SearchResult)
    (limit : Option Int) (offset : Int) : Prop where
  /-- The steps are a connection at most, calls in order, and what the run sends and reports
  otherwise. -/
  steps : ∃ opening called, opening <+: [RunStep.connecting] ∧ called <+: result.scopeInvocations ∧
    r.recordedRun db result limit offset =
      ((r.run db result limit offset).answer,
        opening ++ called.map RunStep.called ++
          (r.run db result limit offset).statements.map RunStep.sent ++
          (r.run db result limit offset).events.map RunStep.reported)
  /-- On a page that cannot be used nothing is done. -/
  page : IsUnusablePage limit offset →
    ∃ e, r.recordedRun db result limit offset = (.error (.pagination e), [])
  /-- Without a connection no scope is called, and the database is to blame. -/
  connection : ¬ IsUnusablePage limit offset → ∀ reason, db.connectionFailure = some reason →
    r.recordedRun db result limit offset = (.error (.database reason), [.connecting])
  /-- The first scope that fails is the last one that is called, and its failure ends the run. -/
  failure : ¬ IsUnusablePage limit offset → db.connectionFailure = none →
    ∀ before invocation behind f,
      result.scopeInvocations = before ++ invocation :: behind → (∀ i ∈ before, r.Applies i) →
      r.outcome? invocation = some (.error f) →
        r.recordedRun db result limit offset =
          (.error (f.runError invocation.1),
            .connecting :: (before ++ [invocation]).map RunStep.called)
  /-- A name that cannot be used ends the run like a failure. -/
  name : ¬ IsUnusablePage limit offset → db.connectionFailure = none →
    ∀ before invocation behind c,
      result.scopeInvocations = before ++ invocation :: behind → (∀ i ∈ before, r.Applies i) →
      r.outcome? invocation = some (.ok c) → (∃ name ∈ c.binds.keys, ¬ IsUsableName name) →
        ∃ e, r.recordedRun db result limit offset =
          (.error (.unusableBind e), .connecting :: (before ++ [invocation]).map RunStep.called)
  /-- If all invocations apply, all are called and one statement is sent, with the binds of the
  condition and of the page; what becomes of it is the answer, and rows are reported. -/
  completion : ¬ IsUnusablePage limit offset → db.connectionFailure = none →
    (∀ i ∈ result.scopeInvocations, r.Applies i) →
    ∃ c sent, r.whereClause result db.dialect = .ok c ∧
      sent = r.statement c db.dialect limit offset ∧
      sent.binds = c.binds ++ pageBinds limit offset ∧
      List.Disjoint c.binds.keys (KeyedList.keys (pageBinds limit offset)) ∧
      r.recordedRun db result limit offset =
        match db.failure with
        | some reason =>
          (.error (.database reason),
            .connecting :: result.scopeInvocations.map RunStep.called ++ [.sent sent])
        | none =>
          (.ok db.rows,
            .connecting :: result.scopeInvocations.map RunStep.called ++
              [.sent sent, .reported (.searchExecuted r.table db.rows.length result.scopes)])
  /-- The invocations all apply, or there is a first one that does not. -/
  stop : (∀ i ∈ result.scopeInvocations, r.Applies i) ∨
    ∃ before invocation behind, result.scopeInvocations = before ++ invocation :: behind ∧
      (∀ i ∈ before, r.Applies i) ∧
      ((∃ f, r.outcome? invocation = some (.error f)) ∨
        ∃ c, r.outcome? invocation = some (.ok c) ∧ ∃ name ∈ c.binds.keys, ¬ IsUsableName name)
  /-- A name has a backslash if it cannot be used. -/
  usable : ∀ name : String, '\\' ∉ name.toList → IsUsableName name
  /-- What is reported is the number of the rows that are the answer. -/
  report : ∀ event, .reported event ∈ (r.recordedRun db result limit offset).2 ↔
    ∃ rows, (r.recordedRun db result limit offset).1 = .ok rows ∧
      event = .searchExecuted r.table rows.length result.scopes

/-- A resource with a scope that rejects its argument, between two others. -/
def books : Resource where
  table := "books"
  scopes :=
    [("recent", ScopeTemplate.toScope { sql := "year > 2000" }),
      ("kind", ScopeTemplate.toScope
        { sql := "kind = :kind"
          parameter := some "kind"
          failure := some (.rejected "odd kind") }),
      ("lent", ScopeTemplate.toScope { sql := "lent" })]

/-- The invocation of all scopes of the books. -/
def booksResult : SearchResult where
  term := some "scope:recent scope:kind:odd scope:lent"
  directives :=
    [{ userInput := "recent", name := "recent" },
      { userInput := "kind:odd", name := "kind", argument := some "odd" },
      { userInput := "lent", name := "lent" }]

/-- A resource with a scope that binds a name with a backslash in it. -/
def oddUsers : Resource where
  table := "users"
  scopes := [("odd", ScopeTemplate.toScope { sql := "1 = 1", binds := some [("a\\q", .int 1)] })]

/-- The invocation of the scope of the odd users. -/
def oddUsersResult : SearchResult where
  term := some "scope:odd"
  directives := [{ userInput := "odd", name := "odd" }]

end Resource

end ScopeSearch
