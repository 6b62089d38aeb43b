import Mathlib.Data.List.Range
import ScopeSearch.Classification

/-!
# Classification splits a term and accounts for every candidate

The positions of the tokens of a term fall into those of words and those of directives.  Words are
tokens as they were typed, and directives are the candidates of their tokens, both in the order of
the term.  A candidate within the bound is asked for once, and either it is applied or one event
reports why not.

A position is read on its own, so everything that a classification holds is collected from the
positions one by one: first comes what one position contributes, then the law that what is collected
stands at the positions that contribute something.

The resource is asked while the tokens are read, one after the other.  When it answers in a context
of its own that writes down every question, the tokens are read as before, and the questions are
those that the classification holds.
-/

set_option autoImplicit false

namespace ScopeSearch

/-! ## Collecting by position -/

section Collect

variable {α β γ : Type}

/-- What the element at a position contributes. -/
def contribution (f : Nat → α → β) (g : β → Option γ) (xs : List α) (i : Nat) : Option γ :=
  xs[i]?.bind fun x => g (f i x)

/-- What is collected from a list stands at the positions that contribute something, in order. -/
theorem filterMap_mapIdx_eq (f : Nat → α → β) (g : β → Option γ) (xs : List α) :
    (xs.mapIdx f).filterMap g = (List.range xs.length).filterMap (contribution f g xs) := by
  induction xs using List.reverseRecOn with
  | nil => rfl
  | append_singleton xs x ih =>
    have hinit : (List.range xs.length).filterMap (contribution f g (xs ++ [x])) =
        (List.range xs.length).filterMap (contribution f g xs) := by
      apply List.filterMap_congr
      intro i hi
      rw [contribution, contribution, List.getElem?_append_left (List.mem_range.mp hi)]
    have hlast : contribution f g (xs ++ [x]) xs.length = g (f xs.length x) := by
      simp [contribution]
    rw [List.mapIdx_concat, List.filterMap_append, ih, List.length_append, List.length_singleton,
      List.range_succ, List.filterMap_append, hinit]
    simp [List.filterMap_cons, hlast]

/-- What is collected from the elements that have a property and a value is their values. -/
theorem map_some_filterMap_ite {p : α → Bool} {v : α → Option β} {xs : List α}
    (hv : ∀ x ∈ xs, p x = true → (v x).isSome = true) :
    (xs.filterMap fun x => if p x then v x else none).map some = (xs.filter p).map v := by
  induction xs with
  | nil => rfl
  | cons x rest ih =>
    rw [List.forall_mem_cons] at hv
    cases hp : p x with
    | false => simp [hp, ih hv.2]
    | true =>
      obtain ⟨y, hy⟩ := Option.isSome_iff_exists.mp (hv.1 hp)
      simp [hp, hy, ih hv.2]

/-- When it is known which positions contribute something, and what each of them contributes, then
so is what is collected. -/
theorem map_some_filterMap_mapIdx {f : Nat → α → β} {g : β → Option γ} {xs : List α}
    {p : Nat → Bool} {v : Nat → Option γ}
    (h : ∀ i, contribution f g xs i = if p i then v i else none)
    (hv : ∀ i < xs.length, p i = true → (v i).isSome = true) :
    ((xs.mapIdx f).filterMap g).map some = ((List.range xs.length).filter p).map v := by
  rw [filterMap_mapIdx_eq, funext h]
  exact map_some_filterMap_ite fun i hi => hv i (List.mem_range.mp hi)

end Collect

/-! ## One position -/

section Position

variable (policy : ScopePolicy) (responds : String → Bool) (bound : Option Int)

/-- How the token at a position is read. -/
def readAt (position : Nat) (token : String) : Reading :=
  if withinBound bound position then Reading.ofToken policy responds token else .word token

/-- The directive that the token at a position would stand for. -/
def candidateAt (tokens : List String) (i : Nat) : Option Directive :=
  tokens[i]?.bind Directive.candidate?

/-- The resource is asked for the candidate at a position. -/
def isAskedAt (tokens : List String) (i : Nat) : Bool :=
  withinBound bound i && (candidateAt tokens i).isSome

/-- The candidate at a position is applied. -/
def isAppliedAt (tokens : List String) (i : Nat) : Bool :=
  withinBound bound i &&
    (candidateAt tokens i).any fun d => responds d.name && authorizes policy d

/-- The reason why a candidate is not applied. -/
def demotionOf (d : Directive) : Demotion :=
  if responds d.name then .notAuthorized else .noCapability

/-- What a token that is read as a directive gives, and what one that stays a word gives. -/
theorem contribution_cases (tokens : List String) (i : Nat) :
    contribution (readAt policy responds bound) Reading.word? tokens i =
        (if !isAppliedAt policy responds bound tokens i then tokens[i]? else none) ∧
      contribution (readAt policy responds bound) Reading.directive? tokens i =
        (if isAppliedAt policy responds bound tokens i then candidateAt tokens i else none) ∧
      contribution (readAt policy responds bound) Reading.asked? tokens i =
        (if isAskedAt bound tokens i then (candidateAt tokens i).map Directive.name else none) ∧
      contribution (readAt policy responds bound) Reading.event? tokens i =
        (if isAskedAt bound tokens i && !isAppliedAt policy responds bound tokens i then
          (candidateAt tokens i).map fun d => .scopeDemoted d.name (demotionOf responds d)
        else none) := by
  unfold contribution isAppliedAt isAskedAt candidateAt readAt demotionOf
  cases htoken : tokens[i]? with
  | none => simp
  | some token =>
    cases hwithin : withinBound bound i with
    | false => simp [Reading.word?, Reading.directive?, Reading.asked?, Reading.event?]
    | true =>
      cases hcandidate : Directive.candidate? token with
      | none =>
        simp [Reading.ofToken, hcandidate, Reading.word?, Reading.directive?, Reading.asked?,
          Reading.event?]
      | some d =>
        cases hresponds : responds d.name <;> cases hauthorizes : authorizes policy d <;>
          simp [Reading.ofToken, hcandidate, hresponds, hauthorizes, Reading.word?,
            Reading.directive?, Reading.asked?, Reading.event?]

/-! ## Asking one scope after the other -/

/-- The reading of a token when the resource answers in a context of its own. -/
def Reading.ofTokenAsking {m : Type → Type} [Monad m] (ask : String → m Bool) (token : String) :
    m Reading :=
  match Directive.candidate? token with
  | none => return .word token
  | some d => do
    if !(← ask d.name) then return .demoted token d .noCapability
    else if !authorizes policy d then return .demoted token d .notAuthorized
    else return .accepted d

/-- The readings of tokens from a position on, one after the other. -/
def readingsAsking {m : Type → Type} [Monad m] (ask : String → m Bool) :
    Nat → List String → m (List Reading)
  | _, [] => return []
  | position, token :: rest => do
    let reading ← if withinBound bound position then Reading.ofTokenAsking policy ask token
      else pure (.word token)
    return reading :: (← readingsAsking ask (position + 1) rest)

/-- Answers a question and writes it down behind those that were asked before. -/
def recorded (name : String) : StateM (List String) Bool := do
  modify (· ++ [name])
  return responds name

/-- A token is read as before, and what was asked for it is written down. -/
theorem ofTokenAsking_recorded (token : String) (asked : List String) :
    ((Reading.ofTokenAsking policy (recorded responds) token).run asked).run =
      (Reading.ofToken policy responds token,
        asked ++ (Reading.ofToken policy responds token).asked?.toList) := by
  unfold Reading.ofTokenAsking Reading.ofToken
  cases Directive.candidate? token with
  | none => simp [Reading.asked?]
  | some d =>
    cases hresponds : responds d.name <;> cases hauthorizes : authorizes policy d <;>
      simp [recorded, hresponds, hauthorizes, Reading.asked?]

/-- The tokens are read as before, and what was asked for them is written down in order. -/
theorem readingsAsking_recorded (position : Nat) (tokens : List String) (asked : List String) :
    ((readingsAsking policy bound (recorded responds) position tokens).run asked).run =
      let rs := tokens.mapIdx fun i => readAt policy responds bound (i + position)
      (rs, asked ++ rs.filterMap Reading.asked?) := by
  induction tokens generalizing position asked with
  | nil => simp [readingsAsking]
  | cons token rest ih =>
    have hrest := ih (position + 1)
    have hshift : (fun i => readAt policy responds bound (i + (position + 1))) =
        fun i => readAt policy responds bound (i + 1 + position) := by
      funext i
      rw [Nat.add_assoc, Nat.add_comm 1 position]
    rw [hshift] at hrest
    have htoken := ofTokenAsking_recorded policy responds token asked
    have hcons (r : Reading) (rs : List Reading) :
        (r :: rs).filterMap Reading.asked? = r.asked?.toList ++ rs.filterMap Reading.asked? := by
      cases h : r.asked? <;> simp [h]
    simp only [readingsAsking, List.mapIdx_cons, Nat.zero_add, hcons]
    cases hwithin : withinBound bound position with
    | false => simp [readAt, hwithin, Reading.asked?, hrest]
    | true => simp [readAt, hwithin, htoken, hrest]

end Position

/-! ## The whole term -/

section Term

variable {policy : ScopePolicy} {responds : String → Bool} {bound : Option Int}
  {tokens : List String} {i : Nat}

/-- A position is within a bound unless there is one, other than zero, that does not exceed it. -/
theorem withinBound_iff :
    withinBound bound i = true ↔ bound = none ∨ bound = some 0 ∨ ∃ m ∈ bound, (i : Int) < m := by
  cases bound <;> simp [withinBound]

/-- A place is asked about exactly if the bound leaves room for it and a candidate stands there. -/
theorem isAskedAt_iff :
    isAskedAt bound tokens i = true ↔
      (bound = none ∨ bound = some 0 ∨ ∃ m ∈ bound, (i : Int) < m) ∧
        ∃ d, d ∈ candidateAt tokens i := by
  rw [isAskedAt, Bool.and_eq_true, withinBound_iff, Option.isSome_iff_exists]
  rfl

/-- A place is applied exactly if the bound leaves room for it and its candidate is known and
authorized. -/
theorem isAppliedAt_iff :
    isAppliedAt policy responds bound tokens i = true ↔
      (bound = none ∨ bound = some 0 ∨ ∃ m ∈ bound, (i : Int) < m) ∧
        ∃ d ∈ candidateAt tokens i, responds d.name = true ∧ authorizes policy d = true := by
  simp [isAppliedAt, withinBound_iff, Option.any_eq_true]

/-- Only positions of the term have candidates. -/
theorem lt_length_of_mem_candidateAt {d : Directive} (h : d ∈ candidateAt tokens i) :
    i < tokens.length := by
  obtain ⟨token, htoken, -⟩ := Option.bind_eq_some_iff.mp h
  exact (List.getElem?_eq_some_iff.mp htoken).1

end Term

/-- The positions of the words, of the directives and of the candidates that the resource is asked
for, as they account for all that a classification holds. -/
structure Classification.IsAccountedFor (policy : ScopePolicy) (responds : String → Bool)
    (bound : Option Int) (tokens : List String) (c : Classification)
    (words directives asked : List Nat) : Prop where
  words_increasing : words.Pairwise (· < ·)
  directives_increasing : directives.Pairwise (· < ·)
  asked_increasing : asked.Pairwise (· < ·)
  /-- Every position of the term is that of a word or of a directive, and of one only. -/
  partition : (words ++ directives).Perm (List.range tokens.length)
  /-- Words are tokens as they were typed. -/
  words_eq : c.words.map some = words.map (tokens[·]?)
  directives_eq : c.directives.map some = directives.map (candidateAt tokens)
  /-- A candidate is applied when it is within the bound, the resource has its scope and the policy
  approves it. -/
  mem_directives_iff : ∀ i, i ∈ directives ↔
    (bound = none ∨ bound = some 0 ∨ ∃ m ∈ bound, (i : Int) < m) ∧
      ∃ d ∈ candidateAt tokens i, responds d.name = true ∧ authorizes policy d = true
  /-- The resource is asked for the candidates within the bound. -/
  mem_asked_iff : ∀ i, i ∈ asked ↔
    (bound = none ∨ bound = some 0 ∨ ∃ m ∈ bound, (i : Int) < m) ∧ ∃ d, d ∈ candidateAt tokens i
  asked_eq : c.asked.map some = asked.map fun i => (candidateAt tokens i).map Directive.name
  /-- These are the questions that a step by step reading of the tokens asks. -/
  asked_run : ((readingsAsking policy bound (recorded responds) 0 tokens).run []).run =
    (readings policy responds bound tokens, c.asked)
  /-- Each candidate that was asked for and is not applied is reported with the reason. -/
  events_eq : c.events.map some = (asked.filter (· ∉ directives)).map fun i =>
    (candidateAt tokens i).map fun d => .scopeDemoted d.name
      (if responds d.name then .notAuthorized else .noCapability)

/-- The tokens of a term are split between words and directives, each in the order of the term, and
every candidate that was asked for is applied or reported. -/
theorem classification_is_accounted_for (term : Option String) (policy : ScopePolicy)
    (responds : String → Bool) (bound : Option Int) :
    ∃ words directives asked, (classify term policy responds bound).IsAccountedFor policy responds
      bound (termTokens term) words directives asked := by
  let tokens := termTokens term
  let applied := isAppliedAt policy responds bound tokens
  let asked := isAskedAt bound tokens
  let positions := List.range tokens.length
  have hread := contribution_cases policy responds bound tokens
  have hincreasing (p : Nat → Bool) : (positions.filter p).Pairwise (· < ·) :=
    List.pairwise_lt_range.filter p
  -- An applied candidate was asked for, and whatever was asked for is there.
  have hcandidate (i : Nat) (hi : asked i = true) : (candidateAt tokens i).isSome = true := by
    obtain ⟨-, d, hd⟩ := isAskedAt_iff.mp hi
    exact Option.isSome_iff_exists.mpr ⟨d, hd⟩
  have hasked (i : Nat) (hi : applied i = true) : asked i = true := by
    obtain ⟨hwithin, d, hd, -⟩ := isAppliedAt_iff.mp hi
    exact isAskedAt_iff.mpr ⟨hwithin, d, hd⟩
  have hposition (i : Nat) (hi : asked i = true) : i ∈ positions := by
    obtain ⟨-, d, hd⟩ := isAskedAt_iff.mp hi
    exact List.mem_range.mpr (lt_length_of_mem_candidateAt hd)
  have hdemoted : (positions.filter asked).filter (· ∉ positions.filter applied) =
      positions.filter fun i => asked i && !applied i := by
    rw [List.filter_filter]
    apply List.filter_congr
    intro i hi
    simp [hi, Bool.and_comm]
  refine ⟨positions.filter (!applied ·), positions.filter applied, positions.filter asked, ?_⟩
  constructor
  case words_increasing => exact hincreasing _
  case directives_increasing => exact hincreasing _
  case asked_increasing => exact hincreasing _
  case partition =>
    exact List.perm_append_comm.trans (List.filter_append_perm applied positions)
  case words_eq =>
    apply map_some_filterMap_mapIdx fun i => (hread i).1
    intro i hi _
    simp [hi]
  case directives_eq =>
    apply map_some_filterMap_mapIdx fun i => (hread i).2.1
    exact fun i _ hi => hcandidate i (hasked i hi)
  case mem_directives_iff =>
    intro i
    rw [List.mem_filter, isAppliedAt_iff.symm]
    exact and_iff_right_of_imp fun hi => hposition i (hasked i hi)
  case mem_asked_iff =>
    intro i
    rw [List.mem_filter, isAskedAt_iff.symm]
    exact and_iff_right_of_imp (hposition i)
  case asked_eq =>
    apply map_some_filterMap_mapIdx fun i => (hread i).2.2.1
    intro i _ hi
    simpa using hcandidate i hi
  case asked_run =>
    have htrace := readingsAsking_recorded policy responds bound 0 tokens []
    simp only [Nat.add_zero, List.nil_append] at htrace
    exact htrace
  case events_eq =>
    rw [hdemoted]
    apply map_some_filterMap_mapIdx fun i => (hread i).2.2.2
    intro i _ hi
    have hi : asked i = true := (Bool.and_eq_true_iff.mp hi).1
    simpa using hcandidate i hi

end ScopeSearch
