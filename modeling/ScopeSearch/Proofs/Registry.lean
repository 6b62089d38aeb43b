import Mathlib.Data.List.Basic
import Mathlib.Data.List.Forall2
import ScopeSearch.Proofs.Configuration
import ScopeSearch.Registry

/-!
# Laws of registries

An entry stands under the name in its description and no name stands twice, so the sorted names
strictly increase.  Loading leaves every entry that is there and adds the first one of each other
name.  The section of a file is read before its descriptions, so one wrong description, wherever it
stands, leaves nothing to register.
-/

set_option autoImplicit false

namespace ScopeSearch

/-! ## The section of a file -/

namespace Configuration

/-- The descriptions in the value of a file. -/
def sectionOfValue (path : String) (v : Value) :
    Except ConfigurationError (List (Value × Value)) :=
  match v.map? with
  | some fields =>
    let described := Value.field "resources" fields
    if described.isTruthy then
      match described.map? with
      | some entries => .ok entries
      | none => .error (.resourcesNotMapping path)
    else .ok []
  | none => .error (.notMapping path)

/-- The descriptions in the file at a path, which may be missing or blank. -/
def resourceSection (files : Files) (path : String) :
    Except ConfigurationError (List (Value × Value)) := do
  match ← (files.read? path).mapError ConfigurationError.file with
  | none => .ok []
  | some text =>
    if Text.isBlankString text then .ok []
    else valueOfText path text >>= sectionOfValue path

/-- A file is read by taking its section and then the definitions in it. -/
theorem ofValue_eq (path : String) (v : Value) :
    ofValue path v = sectionOfValue path v >>= definitions := by
  unfold ofValue sectionOfValue
  cases v.map? with
  | none => rfl
  | some fields =>
    dsimp only
    split
    · cases (Value.field "resources" fields).map? <;> rfl
    · rfl

/-- The section of a file is read before any of its descriptions. -/
theorem load_eq (files : Files) (path : String) :
    load files path = resourceSection files path >>= definitions := by
  unfold load resourceSection ofText
  cases (files.read? path).mapError ConfigurationError.file with
  | error e => rfl
  | ok content =>
    cases content with
    | none => rfl
    | some text =>
      simp only [bind, Except.bind]
      split
      · rfl
      · cases valueOfText path text with
        | error e => rfl
        | ok v => exact ofValue_eq path v

/-- An entry is what a description says, and has its name. -/
def IsEntryOf (described : Value × Value) (e : Entry) : Prop :=
  definition described.1.written described.2 = .ok e ∧ e.dashboard.name = described.1.written

/-- The definitions of a file are entries of what is described, in its order. -/
theorem forall₂_of_definitions {described : List (Value × Value)} {entries : List Entry}
    (h : definitions described = .ok entries) : List.Forall₂ IsEntryOf described entries := by
  induction described generalizing entries with
  | nil =>
    cases h
    exact .nil
  | cons first rest ih =>
    obtain ⟨key, v⟩ := first
    obtain ⟨e, others, hdefinition, hothers, rfl⟩ := definitions_cons h
    exact .cons ⟨hdefinition, (definition_dashboard hdefinition).1⟩ (ih hothers)

/-- A wrong description makes its whole file wrong, wherever it stands. -/
theorem exists_error_of_definition {files : Files} {path : String}
    {described : List (Value × Value)} (h : resourceSection files path = .ok described)
    {p : Value × Value} (hp : p ∈ described) {fault : DefinitionFault}
    (hfault : definition p.1.written p.2 = .error fault) :
    ∃ e, load files path = .error e := by
  cases hload : load files path with
  | error e => exact ⟨e, rfl⟩
  | ok entries =>
    rw [load_eq, h] at hload
    have hentries := forall₂_of_definitions hload
    obtain ⟨i, hi, rfl⟩ := List.getElem_of_mem hp
    have hlength := hentries.length_eq
    have hentry := hentries.get hi (hlength ▸ hi)
    have hok := hentry.1
    rw [List.get_eq_getElem, hfault] at hok
    cases hok

end Configuration

/-! ## Registries -/

namespace Registry

/-- Entries stand under the names in their descriptions, each name once. -/
structure IsKeyed (r : Registry) : Prop where
  named : ∀ p ∈ r, p.2.dashboard.name = p.1
  distinct : r.keys.Nodup

/-- An empty registry is keyed by names. -/
theorem isKeyed_nil : IsKeyed [] :=
  ⟨nofun, List.nodup_nil⟩

/-- Registering an entry keeps a registry keyed by names. -/
theorem IsKeyed.register {r : Registry} (h : r.IsKeyed) (e : Entry) : (r.register e).IsKeyed := by
  constructor
  · intro p hp
    rcases KeyedList.mem_put hp with rfl | hold
    · rfl
    · exact h.named p hold
  · exact KeyedList.nodup_put h.distinct

/-- Registering what was loaded keeps a registry keyed by names. -/
theorem IsKeyed.registerLoaded {r : Registry} (h : r.IsKeyed) (entries : List Entry) :
    (r.registerLoaded entries).IsKeyed := by
  unfold Registry.registerLoaded
  induction entries generalizing r with
  | nil => exact h
  | cons e rest ih =>
    apply ih
    unfold registerNew
    split
    · exact h
    · exact h.register e

/-- A registered entry is found under its name, and everything else as before. -/
theorem find?_register (r : Registry) (e : Entry) (name : String) :
    (r.register e).find? name =
      if e.dashboard.name == name then some e else r.find? name :=
  KeyedList.find?_put e.dashboard.name name e r

/-- A new entry is found under its name unless that name is taken. -/
theorem find?_registerNew (r : Registry) (e : Entry) (name : String) :
    (r.registerNew e).find? name =
      (r.find? name).or (if e.dashboard.name == name then some e else none) := by
  unfold registerNew
  by_cases hname : e.dashboard.name = name
  · subst hname
    cases hfound : r.find? e.dashboard.name with
    | none => simp [KeyedList.has, hfound, find?_register]
    | some e' => simp [KeyedList.has, hfound]
  · split
    · simp [hname]
    · simp [find?_register, hname]

/-- Loading leaves the entries that are there and adds the first one of each other name. -/
theorem find?_registerLoaded (r : Registry) (entries : List Entry) (name : String) :
    (r.registerLoaded entries).find? name =
      (r.find? name).or (entries.find? fun e => e.dashboard.name == name) := by
  unfold registerLoaded
  induction entries generalizing r with
  | nil => simp
  | cons e rest ih =>
    rw [List.foldl_cons, ih, find?_registerNew, List.find?_cons, Option.or_assoc]
    cases e.dashboard.name == name <;> rfl

/-- Loading only names that are taken changes nothing. -/
theorem registerLoaded_of_has {r : Registry} {entries : List Entry}
    (h : ∀ e ∈ entries, r.has e.dashboard.name = true) : r.registerLoaded entries = r := by
  unfold registerLoaded
  induction entries with
  | nil => rfl
  | cons e rest ih =>
    rw [List.forall_mem_cons] at h
    rw [List.foldl_cons, registerNew, if_pos h.1]
    exact ih h.2

/-- What was loaded has a place in the registry. -/
theorem has_registerLoaded {r : Registry} {entries : List Entry} {e : Entry} (he : e ∈ entries) :
    (r.registerLoaded entries).has e.dashboard.name = true := by
  rw [KeyedList.has, find?_registerLoaded, Option.isSome_or, Bool.or_eq_true,
    List.find?_isSome]
  exact .inr ⟨e, he, beq_self_eq_true _⟩

/-- Loading the same entries again changes nothing. -/
theorem registerLoaded_registerLoaded (r : Registry) (entries : List Entry) :
    (r.registerLoaded entries).registerLoaded entries = r.registerLoaded entries :=
  registerLoaded_of_has fun _ he => has_registerLoaded he

/-! ## Names -/

/-- The names of a registry are those it has an entry for. -/
theorem mem_names {r : Registry} {name : String} : name ∈ r.names ↔ r.has name = true := by
  rw [names, List.mem_mergeSort, KeyedList.has_iff]

/-- No name stands twice, so sorted names strictly increase. -/
theorem names_increasing {r : Registry} (h : r.keys.Nodup) : r.names.Pairwise (· < ·) := by
  have hsorted : r.names.Pairwise fun a b => !decide (b < a) := by
    apply List.pairwise_mergeSort
    · intro a b c hab hbc
      simp only [Bool.not_eq_true', decide_eq_false_iff_not, String.not_lt] at hab hbc ⊢
      exact String.le_trans hab hbc
    · intro a b
      simp only [Bool.or_eq_true, Bool.not_eq_true', decide_eq_false_iff_not, String.not_lt]
      exact String.le_total a b
  have hnodup : r.names.Nodup := (List.mergeSort_perm r.keys _).nodup_iff.mpr h
  apply (hsorted.and hnodup).imp
  intro a b hab
  have hle : a ≤ b := by
    simpa only [Bool.not_eq_true', decide_eq_false_iff_not, String.not_lt] using hab.1
  by_contra hlt
  exact hab.2 (String.le_antisymm hle (String.not_lt.mp hlt))

end Registry

end ScopeSearch
